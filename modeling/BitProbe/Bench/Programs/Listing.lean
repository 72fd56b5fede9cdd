import BitProbe.Bench.Calendar
import BitProbe.Bench.Numerals
import BitProbe.Bench.Octets
import BitProbe.Bench.Programs.Filing
import BitProbe.Bench.Programs.Linking
import BitProbe.Bench.Programs.Moving
import BitProbe.Bench.Shell.Pattern
import BitProbe.Bench.Versions

/-!
The names in directories.

Names stand below one another, or in columns, with what is known about the
files or without it. The widths of columns are chosen so that as many of them
as possible fit into a line.

* `Columns.widths?`, `Columns.choose`: how wide columns are, and how many
  there are;
* `Columns.gap`, with `Columns.gap_self`: what stands between two columns;
* `Columns.rows`, `Columns.commas`: names laid out;
* `Shape`, `Marking`, `NameStyle`, `Paint`: how names are shown;
* `Listing`: how names are listed, with `Listing.add` for one option;
* `Listing.inOrder`: the order of names;
* `Listing.lines`, `Listing.text`: names in lines;
* `ls`, `dir`, `vdir`: the programs.
-/

namespace BitProbe.Bench

/-! ### Columns -/

/-- How much fits into a line. -/
structure Columns where
  /-- How many characters a line has, or zero if there is no limit. -/
  line : Nat := 80
  /-- How many columns there are from one tab stop to the next, or zero if
  there are none. -/
  tab : Nat := 8

namespace Columns

/-- The least width of a column. -/
def narrowest : Nat := 3

/-- What stands between two columns of a line, so many steps apart at
most. -/
def gap (k : Columns) : Nat → Nat → Nat → Octets
  | 0, _, _ => []
  | fuel + 1, start, stop =>
    if stop ≤ start then []
    else if k.tab ≠ 0 && (start + 1) / k.tab < stop / k.tab then
      '\t' :: gap k fuel (start + k.tab - start % k.tab) stop
    else ' ' :: gap k fuel (start + 1) stop

/-- Nothing stands between a column and itself. -/
theorem gap_self (k : Columns) (fuel n : Nat) : k.gap fuel n n = [] := by
  cases fuel <;> simp [gap]

/-- The column of an item of a list that is laid out in so many columns. -/
def columnOf (down : Bool) (items columns i : Nat) : Nat :=
  if down then i / ((items + columns - 1) / columns) else i % columns

/-- The widths of so many columns for items of some sizes, if a line is long
enough for them. -/
def widths? (k : Columns) (down : Bool) (sizes : List Nat)
    (columns : Nat) : Option (List Nat) :=
  let widths := sizes.zipIdx.foldl (fun (ws : Array Nat) x =>
    let j := columnOf down sizes.length columns x.2
    let need := x.1 + if j + 1 = columns then 0 else 2
    ws.set! j (max need (ws[j]?.getD 0)))
    (Array.replicate columns narrowest)
  let total := widths.toList.sum
  if total < k.line || total = narrowest * columns then some widths.toList
  else none

/-- The widths of as many columns as fit into a line. -/
def choose (k : Columns) (down : Bool) (sizes : List Nat) : List Nat :=
  let most := min (k.line / narrowest + if k.line % narrowest = 0 then 0 else 1)
    sizes.length
  ((List.range most).reverse.findSome? fun i =>
    k.widths? down sizes (i + 1)).getD [0]

/-- A line of items with their sizes in columns of some widths, from a column
on. -/
def row (k : Columns) : Nat → List (Octets × Nat) → List Nat → Octets
  | start, (o, n) :: next :: items, w :: widths =>
    o ++ k.gap w (start + n) (start + w) ++
      row k (start + w) (next :: items) widths
  | _, (o, _) :: _, _ => o
  | _, [], _ => []

/-- Items with their sizes in columns, below one another first or beside one
another first. -/
def rows (k : Columns) (down : Bool) (items : List (Octets × Nat)) :
    List Octets :=
  let widths := k.choose down (items.map (·.2))
  let n := items.length
  let columns := widths.length
  let count := (n + columns - 1) / columns
  (List.range count).map fun r =>
    let places := (List.range columns).map fun j =>
      if down then r + j * count else r * columns + j
    k.row 0 (places.filterMap fun i => items[i]?) widths

/-- Items with their sizes after commas; where a line ends is seen from what
stands in it already. -/
def commas (k : Columns) (items : List (Octets × Nat)) : Octets :=
  (items.foldl (fun (acc : Option Nat × Octets) x =>
    match acc.1 with
    | none => (some x.2, x.1)
    | some start =>
      if k.line = 0 || start + x.2 + 2 < k.line then
        (some (start + 2 + x.2), acc.2 ++ ", ".toList ++ x.1)
      else (some x.2, acc.2 ++ ",\n".toList ++ x.1)) (none, [])).2

end Columns

/-! ### Names -/

/-- How names stand beside or below one another. -/
inductive Shape where
  /-- Below one another, with what is known about the files. -/
  | long
  | single
  | commas
  | across
  | down
  deriving DecidableEq

/-- What marks a name by what it stands for. -/
inductive Marking where
  | none
  /-- Directories alone. -/
  | slashes
  /-- Everything but what can be run. -/
  | kinds
  | all
  deriving DecidableEq

/-- How signs in names are shown. -/
inductive NameStyle where
  | literal
  /-- As a shell reads them. -/
  | shell (always escapes : Bool)
  /-- Signs that would not show stand after backslashes. -/
  | escaped
  /-- As in a text between quotes of some kind, perhaps only if there is need
  for that. -/
  | quoted (first last : Octets) (always : Bool)
  deriving DecidableEq

namespace NameStyle

/-- The styles by their words. -/
def words : List (String × NameStyle) :=
  [("literal", .literal), ("shell", .shell false false),
   ("shell-always", .shell true false), ("shell-escape", .shell false true),
   ("shell-escape-always", .shell true true),
   ("c", .quoted ['\x22'] ['\x22'] true),
   ("c-maybe", .quoted ['\x22'] ['\x22'] false), ("escape", .escaped),
   ("locale", .quoted (Octets.ofString "‘") (Octets.ofString "’") true),
   ("clocale", .quoted (Octets.ofString "‘") (Octets.ofString "’") true)]

/-- The style that a word means. -/
def ofWord (word : Octets) : NameStyle :=
  (words.lookup (String.ofList word)).getD .literal

/-- A name as it is shown. -/
def text (s : NameStyle) (name : Octets) : Octets :=
  let shown := escapedWithin (name.length + 1) name
  match s with
  | literal => name
  | shell always true => if always then named name else shellWord false name
  | shell always false =>
    let special := name.any isShellSign || name.any fun c => c < ' '
    if always || special || name.head? = some '~' || name.head? = some '#' then
      let plain := "\x27\\\x27\x27".toList
      if name.contains '\x27' && name.all fun c =>
          isPrintable c && c ∉ ['\x22', '\\', '$', '\x60', '!', '*', '?'] then
        '\x22' :: name ++ ['\x22']
      else '\x27' :: name.flatMap (fun c => if c = '\x27' then plain else [c]) ++
        ['\x27']
    else name
  | escaped => shown.flatMap fun c => if c = ' ' then ['\\', c] else [c]
  | quoted first last always =>
    let simple := !name.contains '\x22' &&
      shown.filter (· ≠ '\\') = name.filter (· ≠ '\\')
    if simple && !always then name
    else
      first ++ (if last = ['\x22'] then
        shown.flatMap fun c => if c = '\x22' then ['\\', c] else [c]
        else shown) ++ last

end NameStyle

/-- The colours of names: texts for kinds of files, and for the endings of
names. -/
structure Paint where
  kinds : List (Octets × Octets)
  endings : List (Octets × Octets) := []

namespace Paint

/-- The usual colours. -/
def usual : Paint :=
  { kinds := [("di", "01;34"), ("ln", "01;36"), ("pi", "33"), ("so", "01;35"),
      ("bd", "01;33"), ("cd", "01;33"), ("ex", "01;32"), ("su", "37;41"),
      ("sg", "30;43"), ("st", "37;44"), ("ow", "34;42"),
      ("tw", "30;42")].map fun e => (e.1.toList, e.2.toList) }

/-- The colours that a variable describes. -/
def ofVariable (o : Octets) : Paint :=
  (o.splitOn ':').foldl (fun p entry =>
    let key := entry.takeWhile (· ≠ '=')
    let value := entry.drop (key.length + 1)
    if key.head? = some '*' then
      { p with endings := (key.drop 1, value) :: p.endings }
    else { p with kinds := (key, value) :: p.kinds }) usual

/-- The beginnings of the names of terminals that show colours. -/
def terminals : List String :=
  ["Eterm", "ansi", "cons25", "console", "cygwin", "dtterm", "gnome", "hurd",
   "jfbterm", "konsole", "kterm", "linux", "mlterm", "putty", "rxvt", "screen",
   "st", "terminator", "tmux", "vt100", "vt220", "xterm"]

/-- The colours that variables ask for, if the terminal shows any. -/
def ofVariables (environment : List (Octets × Octets)) : Option Paint :=
  let value (n : String) : Octets := (environment.lookup n.toList).getD []
  let colours := value "LS_COLORS"
  let term := value "TERM"
  if !colours.isEmpty then some (ofVariable colours)
  else if !(value "COLORTERM").isEmpty ||
      terminals.any (fun t => t.toList.isPrefixOf term) ||
      (String.ofList term).contains "color" then some usual
  else none

/-- The colour for a kind, unless it is none. -/
def kind? (p : Paint) (key : String) : Option Octets :=
  (p.kinds.lookup key.toList).filter fun o => o ≠ [] && o ≠ ['0'] && o ≠ ['0', '0']

/-- The colour of the name of what stands at a place. -/
def colour? (p : Paint) (t : FileTree) (name : Octets) (place : List String) :
    Option Octets :=
  let m := t.mode place
  let byEnding : Option Octets :=
    (p.endings.find? fun e => e.1.isSuffixOf name).map (·.2)
  let plain := byEnding.or (p.kind? "fi")
  match t.node? place with
  | some .directory =>
    let sticky := m &&& 0o1000 ≠ 0
    let open_ := m &&& 0o2 ≠ 0
    if sticky && open_ then p.kind? "tw"
    else if open_ then p.kind? "ow"
    else if sticky then p.kind? "st"
    else p.kind? "di"
  | some (.link target) =>
    if p.kinds.lookup "ln".toList = some "target".toList then
      match t.locate (Octets.toText (rooted (place.dropLast ++ [target]))) with
      | .ok q => if t.node? q = some .directory then p.kind? "di" else none
      | .error _ => none
    else p.kind? "ln"
  | some (.way _) => p.kind? "pi"
  | some (.file _) => file p m plain
  | some (.program _) => file p m plain
  | some _ => p.kind? "cd"
  | none => none
where
  /-- The colour of a file. -/
  file (p : Paint) (m : Nat) (plain : Option Octets) : Option Octets :=
    if m &&& 0o4000 ≠ 0 then p.kind? "su"
    else if m &&& 0o2000 ≠ 0 then p.kind? "sg"
    else if m &&& 0o111 ≠ 0 then p.kind? "ex"
    else plain
  /-- A path from the root. -/
  rooted (names : List String) : Octets :=
    '/' :: Octets.ofString (String.intercalate "/" names)

/-- What starts a colour. -/
def start : Octets := ['\x1b', '[']

/-- A name in its colour. -/
def covered (colour : Option Octets) (name : Octets) : Octets :=
  match colour with
  | some c => start ++ c ++ ['m'] ++ name ++ start ++ ['0', 'm']
  | none => name

/-- A text with what puts an end to other colours before its first one. -/
def settled : Octets → Octets
  | [] => []
  | c :: cs =>
    if start.isPrefixOf (c :: cs) then start ++ ['0', 'm'] ++ c :: cs
    else c :: settled cs

end Paint

/-! ### Listings -/

/-- Which time of a file is meant. -/
inductive Clock where
  | modified
  | accessed
  | changed
  deriving DecidableEq

/-- The time of a file that is meant. -/
def Clock.of (c : Clock) (t : FileTree.Times) : Int :=
  match c with
  | modified => t.modified
  | accessed => t.accessed
  | changed => t.changed

/-- How names in directories are listed. -/
structure Listing where
  /-- Whether hidden names are listed, and whether those of the directory
  itself and the one above are among them. -/
  hidden : Bool := false
  selves : Bool := false
  /-- Whether directories are listed like files. -/
  plain : Bool := false
  recursive : Bool := false
  reversed : Bool := false
  /-- By what names are put in order. -/
  order : String := "name"
  directoriesFirst : Bool := false
  shape : Shape := .single
  marking : Marking := .none
  style : NameStyle := .literal
  /-- Whether a question mark stands for what does not show. -/
  masks : Bool := false
  /-- The patterns of names that are left out, always and unless hidden names
  are listed. -/
  ignored : List Octets := []
  hiddenToo : List Octets := []
  /-- Whether owners and groups are shown, and by their numbers. -/
  owners : Bool := true
  groups : Bool := true
  authors : Bool := false
  numeric : Bool := false
  sizes : Bool := false
  inodes : Bool := false
  /-- Whether the context is shown that a file has for its safety. -/
  contexts : Bool := false
  followed : Bool := false
  followedGiven : Bool := false
  ending : Char := '\n'
  columns : Columns := {}
  clock : Clock := .modified
  /-- The formats of times long ago and of those of the last months. -/
  timeFormats : Octets × Octets :=
    ("%b %e  %Y".toList, "%b %e %H:%M".toList)
  zone : Zone := .universal
  sizeUnit : SizeUnit := .fixed 1 []
  blockUnit : SizeUnit := .fixed 1024 []
  paint : Option Paint := none
  /-- The colours that are there to be asked for. -/
  colours : Option Paint := none

namespace Listing

/-- A width that a value of an option or of a variable names. -/
def width? (o : Octets) : Option Nat :=
  match leadingInteger? true o with
  | some (n, []) => if n < 0 then none else some n.toNat
  | _ => none

/-- A shape by its word. -/
def shapeOf (word : Octets) : Shape :=
  match String.ofList word with
  | "verbose" => .long
  | "commas" => .commas
  | "horizontal" => .across
  | "vertical" => .down
  | _ => .single

/-- The formats of times that a word means, if it is one. -/
def timeFormats? (word : Octets) : Option (Octets × Octets) :=
  let word := if "posix-".toList.isPrefixOf word then "locale".toList
    else word
  let both (a b : String) : Option (Octets × Octets) :=
    some (a.toList, b.toList)
  let full := "%Y-%m-%d %H:%M:%S.%N %z"
  match word with
  | '+' :: format =>
    let first := format.takeWhile (· ≠ '\n')
    some (first, if first.length = format.length then format
      else format.drop (first.length + 1))
  | word =>
    if word.isEmpty then none
    else
      (["full-iso", "long-iso", "iso", "locale"].find? fun w =>
        word.isPrefixOf w.toList).bind fun
        | "full-iso" => both full full
        | "long-iso" => both "%Y-%m-%d %H:%M" "%Y-%m-%d %H:%M"
        | "iso" => both "%Y-%m-%d " "%m-%d %H:%M"
        | _ => both "%b %e  %Y" "%b %e %H:%M"

/-- What is wrong with a style of times. -/
def wrongTimes (word : Octets) : Octets :=
  "invalid argument ".toList ++ quoted word ++ " for ".toList ++
    quoted "time style".toList ++ ("\nValid arguments are:" ++
    "\n  - [posix-]full-iso\n  - [posix-]long-iso\n  - [posix-]iso" ++
    "\n  - [posix-]locale\n  - +FORMAT (e.g., +%H:%M) for a " ++
    "\x27date\x27-style format").toList

/-- A listing with what one more option asks for, or what is wrong with
it. -/
def add (l : Listing) (o : Opt) : Except (Bool × Octets) Listing :=
  let v := o.value.getD []
  let width (what : String) (f : Nat → Columns) :
      Except (Bool × Octets) Listing :=
    match width? v with
    | some n => .ok { l with columns := f n }
    | none => .error (false, what.toList ++ quoted v)
  match o.key with
  | "all" => .ok { l with hidden := true, selves := true }
  | "almost-all" => .ok { l with hidden := true, selves := false }
  | "ignore-backups" => .ok { l with ignored := ['*', '~'] :: l.ignored }
  | "ignore" => .ok { l with ignored := v :: l.ignored }
  | "hide" => .ok { l with hiddenToo := v :: l.hiddenToo }
  | "directory" => .ok { l with plain := true }
  | "recursive" => .ok { l with recursive := true }
  | "reverse" => .ok { l with reversed := true }
  | "l" => .ok { l with shape := .long }
  | "numeric-uid-gid" => .ok { l with shape := .long, numeric := true }
  | "full-time" =>
    .ok { l with
      shape := .long
      timeFormats := (timeFormats? "full-iso".toList).getD l.timeFormats }
  | "g" => .ok { l with shape := .long, owners := false }
  | "o" => .ok { l with shape := .long, groups := false }
  | "no-group" => .ok { l with groups := false }
  | "author" => .ok { l with authors := true }
  | "m" => .ok { l with shape := .commas }
  | "C" => .ok { l with shape := .down }
  | "x" => .ok { l with shape := .across }
  | "1" =>
    .ok { l with shape := if l.shape = .long then .long else .single }
  | "format" => .ok { l with shape := shapeOf v }
  | "zero" =>
    .ok { l with
      ending := Char.ofNat 0
      style := .literal
      masks := false
      paint := none
      shape := if l.shape = .long then .long else .single }
  | "f" =>
    .ok { l with
      hidden := true
      selves := true
      order := "none"
      sizes := false
      paint := none
      shape := if l.shape = .long then .single else l.shape }
  | "t" => .ok { l with order := "time" }
  | "S" => .ok { l with order := "size" }
  | "U" => .ok { l with order := "none" }
  | "X" => .ok { l with order := "extension" }
  | "v" => .ok { l with order := "version" }
  | "sort" => .ok { l with order := String.ofList v }
  | "group-directories-first" => .ok { l with directoriesFirst := true }
  | "c" => .ok { l with clock := .changed }
  | "u" => .ok { l with clock := .accessed }
  | "time" =>
    .ok { l with clock := match String.ofList v with
      | "atime" => .accessed
      | "ctime" => .changed
      | _ => .modified }
  | "time-style" =>
    match timeFormats? v with
    | some f => .ok { l with timeFormats := f }
    | none => .error (true, wrongTimes v)
  | "p" => .ok { l with marking := .slashes }
  | "file-type" => .ok { l with marking := .kinds }
  | "classify" =>
    .ok (if o.value.all (· = "always".toList) then { l with marking := .all }
      else l)
  | "indicator-style" =>
    .ok { l with marking := match String.ofList v with
      | "slash" => .slashes
      | "file-type" => .kinds
      | "classify" => .all
      | _ => .none }
  | "color" =>
    .ok { l with paint :=
      if o.value.all (· = "always".toList) then l.colours else none }
  | "hide-control-chars" => .ok { l with masks := true }
  | "show-control-chars" => .ok { l with masks := false }
  | "quote-name" => .ok { l with style := .ofWord ['c'] }
  | "escape" => .ok { l with style := .escaped }
  | "literal" => .ok { l with style := .literal }
  | "quoting-style" => .ok { l with style := .ofWord v }
  | "size" => .ok { l with sizes := true }
  | "inode" => .ok { l with inodes := true }
  | "human-readable" =>
    .ok { l with sizeUnit := .chosen 1024, blockUnit := .chosen 1024 }
  | "si" => .ok { l with sizeUnit := .chosen 1000, blockUnit := .chosen 1000 }
  | "kibibytes" => .ok { l with blockUnit := .fixed 1024 [] }
  | "block-size" =>
    match SizeUnit.ofWord? v with
    | some u => .ok { l with sizeUnit := u, blockUnit := u }
    | none => .error (false, "invalid --block-size argument ".toList ++ named v)
  | "context" => .ok { l with contexts := true }
  | "dereference" => .ok { l with followed := true }
  | "H" => .ok { l with followedGiven := true }
  | "dereference-command-line" => .ok { l with followedGiven := true }
  | "width" =>
    width "invalid line width: " fun n => { l.columns with line := n }
  | "tabsize" =>
    width "invalid tab size: " fun n => { l.columns with tab := n }
  | _ => .ok l

/-- A listing with what is decided by all options together. -/
def settled (l : Listing) (os : List Opt) : Listing :=
  let ordered := (lastOf os ["t", "S", "U", "X", "v", "sort", "f"]).isSome
  let timed := (lastOf os ["c", "u", "time"]).isSome && !ordered &&
    l.shape ≠ .long
  let l := if timed then { l with order := "time" } else l
  if l.paint.isSome then { l with columns := { l.columns with tab := 0 } }
  else l

/-- What marks a name by what it stands for. -/
def mark (l : Listing) (t : FileTree) (place : List String) : Octets :=
  let kinds := l.marking = .kinds || l.marking = .all
  match t.node? place with
  | some .directory => if l.marking = .none then [] else ['/']
  | some (.link _) => if kinds && l.shape ≠ .long then ['@'] else []
  | some (.way _) => if kinds then ['|'] else []
  | some (.file _) =>
    if l.marking = .all && t.isRunnable place then ['*'] else []
  | some (.program _) => if l.marking = .all then ['*'] else []
  | _ => []

/-- A name as it is shown, without its mark. -/
def nameText (l : Listing) (name : Octets) : Octets :=
  let o := l.style.text name
  if l.masks then
    (characters o).flatMap fun w => match w with
      | [c] => if isPrintable c then [c] else ['?']
      | w => if (wideCharacter? w).isSome then w else ['?']
  else o

/-- How many blocks something takes up, by their size in bytes. -/
def space (n : FileTree.Node) : Nat :=
  match n with
  | .directory => 4096
  | .file bytes => (bytes.length + 4095) / 4096 * 4096
  | _ => 0

/-- The letter of a kind. -/
def letter (n : FileTree.Node) : Char :=
  match n with
  | .directory => 'd'
  | .file _ => '-'
  | .link _ => 'l'
  | .program _ => '-'
  | .way _ => 'p'
  | _ => 'c'

/-- How many names something has. -/
def names (t : FileTree) (place : List String) : Nat :=
  if t.node? place = some .directory then
    2 + ((t.children place).filter fun n =>
      t.node? (place ++ [n]) = some .directory).length
  else (t.twinsOf place).length

/-- A number for the file at a place, which is the same for all of its
places. -/
def inode (t : FileTree) (place : List String) : Nat :=
  let first := (t.twinsOf place).mergeSort fun a b => a ≤ b
  (String.intercalate "/" (first.headD [])).toList.foldl (fun n c =>
    (n * 31 + c.toNat) % 9000017) 1000003

/-- The seconds of half a year. -/
def halfYear : Int := 31556952 / 2

/-- The time of what stands at a place. -/
def timeText (l : Listing) (t : FileTree) (place : List String) : Octets :=
  let time := l.clock.of (t.timesOf place)
  let recent := time ≤ t.now && t.now - time < halfYear * 10 ^ 9
  (Moment.of l.zone time).text
    (if recent then l.timeFormats.2 else l.timeFormats.1)

/-- A name in its line, and how many columns its line takes. -/
structure Line where
  text : Octets
  columns : Nat

/-- Lines for names, with columns as wide as they need to be. -/
def lines (l : Listing) (t : FileTree) (items : List (Octets × List String)) :
    List Line :=
  let node (p : List String) : FileTree.Node := (t.node? p).getD .null
  let wide (os : List Octets) : Nat := (os.map List.length).foldl max 1
  let size (p : List String) : Octets :=
    l.sizeUnit.text (FileTree.nodeSize (node p))
  let blocks (p : List String) : Octets := l.blockUnit.text (space (node p))
  let count (p : List String) : Octets := Text.decimal (names t p)
  let number (p : List String) : Octets := Text.decimal (inode t p)
  let commas := l.shape = .commas
  let most (f : List String → Octets) : Nat :=
    if commas then 0 else wide (items.map fun i => f i.2)
  let sizeWidth := most size
  let countWidth := most count
  let blockWidth := most blocks
  let inodeWidth := most number
  let pad (w : Nat) (o : Octets) : Octets := o.leftpad w ' '
  let shown (n : Octets) : Octets := l.nameText n
  let aligned := match l.style with
    | .shell false _ => l.shape ∈ [.long, .down, .across]
    | .quoted _ _ false => l.shape ∈ [.long, .down, .across]
    | _ => false
  let indented := aligned && items.any fun i => shown i.1 ≠ i.1
  let person : Octets := if l.numeric then ['0'] else "root".toList
  items.map fun (name, place) =>
    let n := node place
    let context : Octets := if l.contexts then ['?', ' '] else []
    let before :=
      (if l.inodes then pad inodeWidth (number place) ++ [' '] else []) ++
      (if l.sizes then pad blockWidth (blocks place) ++ [' '] else []) ++
      if l.shape = .long then
        letter n :: Mode.text (t.mode place) ++
          ' ' :: pad countWidth (count place) ++
          (if l.owners then ' ' :: person else []) ++
          (if l.groups then ' ' :: person else []) ++
          (if l.authors then ' ' :: person else []) ++ [' '] ++ context ++
          pad sizeWidth (size place) ++ ' ' :: l.timeText t place ++ [' ']
      else context
    let text := shown name
    let text := if indented && text = name then ' ' :: text else text
    let behind := match l.shape, n with
      | .long, .link target => " -> ".toList ++ shown (Octets.ofString target) ++
        (match l.marking with
        | .none => []
        | _ => target_ l t place target)
      | _, _ => []
    let mark := l.mark t place
    let colour := l.paint.bind fun p => p.colour? t name place
    let painted : Octets := match colour with
      | some _ => text.takeWhile (· = ' ') ++
        Paint.covered colour (text.dropWhile (· = ' '))
      | none => text
    { text := before ++ painted ++ mark ++ behind
      columns := (characters (before ++ text ++ mark ++ behind)).length }
where
  /-- The mark of what a link leads to. -/
  target_ (l : Listing) (t : FileTree) (place : List String)
      (target : String) : Octets :=
    let path := if FileTree.isAbsolute target then target
      else "/" ++ String.intercalate "/" (place.dropLast ++ [target])
    match t.locate path with
    | .ok q => if (t.node? q).isSome then l.mark t q else []
    | .error _ => []

/-- Names in order. -/
def inOrder (l : Listing) (t : FileTree) (items : List (Octets × List String)) :
    List (Octets × List String) :=
  let byName := items.mergeSort fun a b => a.1 ≤ b.1
  let size (p : List String) : Nat := ((t.node? p).map FileTree.nodeSize).getD 0
  let time (p : List String) : Int := l.clock.of (t.timesOf p)
  let sorted := match l.order with
    | "time" => byName.mergeSort fun a b => time b.2 ≤ time a.2
    | "size" => byName.mergeSort fun a b => size b.2 ≤ size a.2
    | "width" => byName.mergeSort fun a b => a.1.length ≤ b.1.length
    | "version" => byName.mergeSort fun a b => Versions.compare a.1 b.1 ≠ .gt
    | "extension" =>
      let extension (n : Octets) : Octets :=
        if n.contains '.' then '.' :: (n.reverse.takeWhile (· ≠ '.')).reverse
        else []
      byName.mergeSort fun a b => extension a.1 ≤ extension b.1
    | _ => byName
  let sorted := if l.reversed && l.order ≠ "none" then sorted.reverse
    else sorted
  if l.directoriesFirst && l.order ≠ "none" then
    let isDir (p : List String) : Bool :=
      match t.node? p with
      | some .directory => true
      | some (.link _) =>
        match t.lookup ("/" ++ String.intercalate "/" p) with
        | .ok .directory => true
        | _ => false
      | _ => false
    sorted.filter (fun i => isDir i.2) ++ sorted.filter fun i => !isDir i.2
  else sorted

/-- The text for names. -/
def text (l : Listing) (t : FileTree) (items : List (Octets × List String)) :
    Octets :=
  let ls := l.lines t (l.inOrder t items)
  let sized : List (Octets × Nat) := ls.map fun o => (o.text, o.columns)
  let beside (separator : Octets) : Octets :=
    if ls.isEmpty then []
    else separator.intercalate (ls.map (·.text)) ++ [l.ending]
  let unlimited := l.columns.line = 0
  match l.shape with
  | .commas =>
    if ls.isEmpty then [] else l.columns.commas sized ++ [l.ending]
  | .across =>
    if unlimited then beside [' ', ' ']
    else (l.columns.rows false sized).flatMap (· ++ [l.ending])
  | .down =>
    if unlimited then beside [' ', ' ']
    else (l.columns.rows true sized).flatMap (· ++ [l.ending])
  | _ => ls.flatMap (·.text ++ [l.ending])

/-- Whether a pattern covers a name. A dot in front is covered by a dot
alone. -/
def isCovered (name pattern : Octets) : Bool :=
  let p := Shell.Pattern.ofCells (pattern.map (⟨·, false⟩))
  let dotted := match p with
    | .octet '.' :: _ => true
    | _ => false
  p.covers name && (dotted || name.head? ≠ some '.')

/-- What is listed of a directory. -/
def inside (l : Listing) (t : FileTree) (place : List String) :
    List (Octets × List String) :=
  let own : List (Octets × List String) :=
    [(['.'], place), (['.', '.'], place.dropLast)]
  let all := own ++ (t.children place).map fun n =>
    (Octets.ofString n, place ++ [n])
  all.filter fun i =>
    let isSelf := i.1 = ['.'] || i.1 = ['.', '.']
    let shown :=
      if isSelf then l.selves
      else if l.hidden then true
      else i.1.head? ≠ some '.' && !l.hiddenToo.any (isCovered i.1)
    shown && !l.ignored.any (isCovered i.1)

/-- The text for directories, those in them included if that is asked for; so
many levels of them are listed. -/
def directories (l : Listing) (t : FileTree) (titled : Bool) :
    Nat → List (Octets × List String) → List Octets
  | 0, _ => []
  | fuel + 1, ds => ds.flatMap fun (path, place) =>
    let items := l.inside t place
    let total : Octets := if l.shape = .long || l.sizes then
        "total ".toList ++ l.blockUnit.text ((items.map fun i =>
          space ((t.node? i.2).getD .null)).sum) ++ [l.ending]
      else []
    let head : Octets := if titled then l.nameText path ++ [':', '\n'] else []
    let below := if l.recursive then
        ((l.inOrder t items).filter fun i =>
          t.node? i.2 = some .directory && i.1 ∉ [['.'], ['.', '.']]).map
            fun i => (within path i.1, i.2)
      else []
    (head ++ total ++ l.text t items) :: directories l t titled fuel below

/-- What stands at a path that is listed. Links stay links if something is
shown of what they are. -/
def find (l : Listing) (t : FileTree) (p : Octets) :
    Except FileError (FileTree.Node × List String) := do
  let followed := l.followed || l.followedGiven
  let linkStays := (l.shape = .long || l.marking = .all || l.plain) &&
    !followed
  let n ← if linkStays then t.entry p.toText
    else match t.lookup p.toText with
      | .ok n => .ok n
      | .error r => if l.followed then .error r else t.entry p.toText
  let q ← if linkStays then t.locateEntry p.toText
    else if (t.lookup p.toText).toOption.isSome &&
        (n = .directory || followed) then t.locate p.toText
    else t.locateEntry p.toText
  return (n, q)

/-- Lists what stands at paths: files first, and then directories. -/
def paths (l : Listing) (args : List Octets) : Work Unit := do
  let t := (← get).files
  let args := if args.isEmpty then [['.']] else args
  let items := args.filterMap fun (p : Octets) =>
    (l.find t p).toOption.map fun x => (p, x)
  args.forM fun p =>
    match l.find t p with
    | .ok _ => return
    | .error r => Work.cannot "cannot access " p r
  if items.length < args.length then Work.setStatus 2
  let isDir (i : Octets × FileTree.Node × List String) : Bool :=
    i.2.1 = .directory && !l.plain
  let files := (items.filter fun i => !isDir i).map fun i => (i.1, i.2.2)
  let dirs := (items.filter isDir).map fun i => (i.1, i.2.2)
  let titled := 1 < args.length || l.recursive
  let blocks := (if files.isEmpty then [] else [l.text t files]) ++
    l.directories t titled (t.nodes.length + 1) (l.inOrder t dirs)
  let o := ['\n'].intercalate blocks
  Work.say (if l.paint.isSome then Paint.settled o else o)

/-- The options of the programs. -/
def switches : List Switch :=
  let whens := [["always", "yes", "force"], ["never", "no", "none"],
    ["auto", "tty", "if-tty"]]
  [.flag 'a' "all", .flag 'A' "almost-all", .flag 'b' "escape",
   .flag 'B' "ignore-backups", .flag 'c' "", .flag 'C' "",
   .flag 'd' "directory", .flag 'D' "dired", .flag 'f' "",
   .flag 'F' "", .choice "classify" .maybe whens, .flag 'g' "",
   .flag 'G' "no-group", .flag 'h' "human-readable", .flag 'H' "",
   .long "dereference-command-line" .nothing,
   .long "dereference-command-line-symlink-to-dir" .nothing,
   .flag 'i' "inode", .valued 'I' "ignore", .flag 'k' "kibibytes",
   .flag 'l' "", .flag 'L' "dereference", .flag 'm' "",
   .flag 'n' "numeric-uid-gid", .flag 'N' "literal", .flag 'o' "",
   .flag 'p' "", .flag 'q' "hide-control-chars", .flag 'Q' "quote-name",
   .flag 'r' "reverse", .flag 'R' "recursive", .flag 's' "size",
   .flag 'S' "", .flag 't' "", .valued 'T' "tabsize", .flag 'u' "",
   .flag 'U' "", .flag 'v' "", .valued 'w' "width", .flag 'x' "",
   .flag 'X' "", .flag 'Z' "context", .flag '1' "",
   .long "author" .nothing, .long "block-size" .value,
   .choice "color" .maybe whens, .long "file-type" .nothing,
   .choice "format" .value [["verbose", "long"], ["commas"],
     ["horizontal", "across"], ["vertical"], ["single-column"]],
   .long "full-time" .nothing, .long "group-directories-first" .nothing,
   .long "hide" .value, .choice "hyperlink" .maybe whens,
   .choice "indicator-style" .value [["none"], ["slash"], ["file-type"],
     ["classify"]],
   .choice "quoting-style" .value (NameStyle.words.map fun w => [w.1]),
   .long "show-control-chars" .nothing, .long "si" .nothing,
   .choice "sort" .value [["none"], ["time"], ["size"], ["extension"],
     ["version"], ["width"]],
   .choice "time" .value [["atime", "access", "use"], ["ctime", "status"],
     ["mtime", "modification"], ["birth", "creation"]],
   .long "time-style" .value, .long "zero" .nothing]

/-- The listing that variables ask for. -/
def ofVariables (environment : List (Octets × Octets)) : Listing :=
  let value (n : String) : Option Octets := environment.lookup n.toList
  let columns := (value "COLUMNS").bind width?
  let style := (value "QUOTING_STYLE").bind fun v =>
    NameStyle.words.lookup (String.ofList v)
  let usual : Listing := {}
  { columns := { line := columns.getD 80 }
    style := style.getD .literal
    zone := .ofVariables environment
    timeFormats :=
      ((value "TIME_STYLE").bind timeFormats?).getD usual.timeFormats
    colours := Paint.ofVariables environment }

end Listing

open Listing in
/-- The names in directories. -/
def ls : Program := fun c =>
  let style := c.environment.lookup "QUOTING_STYLE".toList
  let unknown := style.filter fun v =>
    (NameStyle.words.lookup (String.ofList v)).isNone
  c.asked switches true (fun m => Work.misuse 2 m.message)
    (ofVariables c.environment)
    (fun l o => Work.accept (fun (e : Bool × Octets) =>
      if e.1 then Work.misuse 2 e.2 else Work.complain 2 e.2)
      (l.add (if o.key = "F" then { o with key := "classify" } else o)))
    fun l os args => do
      if let some v := unknown then
        Work.complain 0 (("ignoring invalid value of environment variable " ++
          "QUOTING_STYLE: ").toList ++ quoted v)
      (l.settled os).paths args

/-- The names in directories, beside one another. -/
def dir : Program := fun c =>
  ls { c with args := ["-C", "-b"].map String.toList ++ c.args }

/-- The names in directories, with what is known about the files. -/
def vdir : Program := fun c =>
  ls { c with args := ["-l", "-b"].map String.toList ++ c.args }

end BitProbe.Bench

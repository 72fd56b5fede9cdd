import BitProbe.Bench.Compose
import BitProbe.Bench.Programs.Listing

/-!
What is known about files.

* `Fact`: something that is known, with `Fact.shown` for its place in a
  format;
* `fact`: what a letter of a format stands for;
* `stat`: the program.
-/

namespace BitProbe.Bench

/-- The kind of something in words. -/
def kindText (n : FileTree.Node) : Octets :=
  (match n with
    | .directory => "directory"
    | .file [] => "regular empty file"
    | .file _ => "regular file"
    | .link _ => "symbolic link"
    | .program _ => "regular file"
    | .way _ => "fifo"
    | _ => "character special file").toList

/-- The number of the kind of something among its mode. -/
def kindBits (n : FileTree.Node) : Nat :=
  match n with
  | .directory => 0o040000
  | .link _ => 0o120000
  | .way _ => 0o010000
  | .file _ => 0o100000
  | .program _ => 0o100000
  | _ => 0o020000

/-- What is known about something: a number in a base, a time in seconds, or a
text. -/
inductive Fact where
  | number (letter : Char) (n : Nat)
  | seconds (time : Int)
  | text (o : Octets)
  | unknown

/-- A time in seconds in its place. The precision says how many decimals there
are. -/
def secondsText (f : Compose.Fit) (time : Int) : Octets :=
  let whole := Int.fdiv time (10 ^ 9)
  let part := (Int.fmod time (10 ^ 9)).toNat
  match f.precision.getD 0 with
  | 0 => { f with precision := none }.signed whole
  | places =>
    let digits := (Text.decimal part).leftpad 9 '0'
    let decimals := (digits ++ List.replicate (places - 9) '0').take places
    let borrows := whole < 0 && decimals.any (· ≠ '0')
    let value (ds : Octets) : Nat := (Text.decimal? ds).getD 0
    let shown := if borrows then
        (Text.decimal (10 ^ places - value decimals)).leftpad places '0'
      else decimals
    let before := (if borrows then whole + 1 else whole)
    let sign : Octets := if whole < 0 then ['-'] else f.sign false
    f.number true sign (Text.decimal before.natAbs ++ '.' :: shown)

/-- A fact in its place. -/
def Fact.shown (f : Compose.Fit) : Fact → Octets
  | number letter n => f.based letter n
  | seconds time => secondsText f time
  | text o => { f with flags := f.flags.filter (· = '-') }.text o
  | unknown => ['?']

/-- The major and the minor number of a device. -/
def device (n : FileTree.Node) : Nat × Nat :=
  match n with
  | .null => (1, 3)
  | .zeros => (1, 5)
  | .full => (1, 7)
  | _ => (0, 0)

/-- What a letter of a format stands for. The flag says whether names are
quoted. -/
def fact (t : FileTree) (zone : Zone) (isQuoted : Bool) (path : Octets)
    (n : FileTree.Node) (place : List String) (letter : Char) : Fact :=
  let quote (o : Octets) : Octets := if isQuoted then named o else o
  let times := t.timesOf place
  let told (time : Int) : Fact :=
    .text ((Moment.of zone time).text "%Y-%m-%d %H:%M:%S.%N %z".toList)
  match letter with
  | 'n' => .text path
  | 'N' => .text (quote path ++ match n with
    | .link target => " -> ".toList ++ quote (Octets.ofString target)
    | _ => [])
  | 's' => .number 'u' (FileTree.nodeSize n)
  | 'F' => .text (kindText n)
  | 'a' => .number 'o' (t.mode place)
  | 'A' => .text (Listing.letter n :: Mode.text (t.mode place))
  | 'f' => .number 'x' (kindBits n + t.mode place)
  | 'U' => .text "root".toList
  | 'G' => .text "root".toList
  | 'u' => .number 'u' 0
  | 'g' => .number 'u' 0
  | 'h' => .number 'u' (Listing.names t place)
  | 'i' => .number 'u' (Listing.inode t place)
  | 'b' => .number 'u' (Listing.space n / 512)
  | 'B' => .number 'u' 512
  | 'o' => .number 'u' 4096
  | 't' => .number 'x' (device n).1
  | 'T' => .number 'x' (device n).2
  | 'r' => .number 'u' ((device n).1 * 256 + (device n).2)
  | 'R' => .number 'x' ((device n).1 * 256 + (device n).2)
  | 'd' => .number 'u' 45
  | 'D' => .number 'x' 45
  | 'm' => .text ['/']
  | 'X' => .seconds times.accessed
  | 'Y' => .seconds times.modified
  | 'Z' => .seconds times.changed
  | 'W' => .number 'u' 0
  | 'w' => .text ['-']
  | 'x' => told times.accessed
  | 'y' => told times.modified
  | 'z' => told times.changed
  | _ => .unknown

/-- Writes a format with facts put in, and says whether it was right. -/
def sayFacts (escapes : Bool) (item : Char → Fact) :
    Nat → Octets → Work Bool
  | 0, _ => return true
  | _, [] => return true
  | _, ['%'] => do
    Work.say ['%']
    return true
  | fuel + 1, '%' :: '%' :: cs => do
    Work.say ['%']
    sayFacts escapes item fuel cs
  | fuel + 1, '%' :: cs => do
    let p := Compose.placeWith Compose.allFlags [] cs
    match p.letter with
    | none => wrong ('%' :: cs)
    | some '%' => wrong ('%' :: cs.take p.size)
    | some l =>
      let f := p.fit
      let all := (cs.take (p.size - 1)).getLast? = some '.'
      let isTime := match item l with
        | .seconds _ => true
        | _ => false
      Work.say ((item l).shown (if isTime && all then
        { f with precision := some 9 } else f))
      sayFacts escapes item fuel (cs.drop p.size)
  | fuel + 1, '\\' :: cs => do
    if !escapes then
      Work.say ['\\']
      sayFacts escapes item fuel cs
    else
      match cs with
      | [] =>
        Work.complain (← get).status
          "warning: backslash at end of format".toList
        Work.say ['\\']
        return true
      | c :: rest =>
        let known := c = 'x' && !(digitsIn 16 (rest.take 1)).isEmpty ||
          (Compose.octalDigit? c).isSome || c = '\x22' ||
          (Compose.letters.lookup c).isSome
        match known, Compose.escape false cs with
        | true, (.octets o, rest) =>
          Work.say o
          sayFacts escapes item fuel rest
        | _, _ =>
          Work.complain (← get).status
            ("warning: unrecognized escape \x27\\".toList ++ [c, '\x27'])
          Work.say [c]
          sayFacts escapes item fuel rest
  | fuel + 1, c :: cs => do
    Work.say [c]
    sayFacts escapes item fuel cs
where
  /-- Says that a place in the format is none. -/
  wrong (o : Octets) : Work Bool := do
    Work.complain 1 (quoted o ++ ": invalid directive".toList)
    return false

/-- What is known about a file, in several lines. -/
def factLines (item : Char → Fact) (n : FileTree.Node) : Octets :=
  let at_ (width : Nat) (l : Char) : Octets :=
    (item l).shown ⟨['-'], width, none⟩
  let right (width : Nat) (l : Char) : Octets :=
    (item l).shown ⟨[], width, none⟩
  "  File: ".toList ++ at_ 0 'N' ++ "\n  Size: ".toList ++ at_ 10 's' ++
    "\tBlocks: ".toList ++ at_ 10 'b' ++ " IO Block: ".toList ++ at_ 6 'o' ++
    ' ' :: kindText n ++ "\nDevice: 0,".toList ++ at_ 0 'd' ++
    "\tInode: ".toList ++ at_ 11 'i' ++ " Links: ".toList ++ at_ 0 'h' ++
    "\nAccess: (".toList ++ (item 'a').shown ⟨['0'], 4, none⟩ ++
    '/' :: right 10 'A' ++ ")  Uid: (".toList ++ right 5 'u' ++
    '/' :: right 8 'U' ++ ")   Gid: (".toList ++ right 5 'g' ++
    '/' :: right 8 'G' ++ ")\nAccess: ".toList ++ at_ 0 'x' ++
    "\nModify: ".toList ++ at_ 0 'y' ++ "\nChange: ".toList ++ at_ 0 'z' ++
    "\n Birth: ".toList ++ at_ 0 'w' ++ ['\n']

/-- What is known about a file, in one line. -/
def terseFormat : Octets :=
  "%n %s %b %f %u %g %D %i %h %t %T %X %Y %Z %W %o\n".toList

/-- What is known about files, in a format. -/
def stat : Program := fun c =>
  let switches : List Switch :=
    [.flag 'L' "dereference", .flag 'f' "file-system", .valued 'c' "format",
     .long "printf" .value, .flag 't' "terse", .choice "cached" .value
       [["default"], ["never"], ["always"]]]
  let zone := Zone.ofVariables c.environment
  c.given switches true 1 fun os args => do
    let style := lastOf os ["format", "printf"]
    let format := (style.bind (optValue? os)).getD []
    let (style, format) := if style.isNone && hasOpt os "terse" then
        (some "terse", terseFormat)
      else (style, format)
    let isQuoted := (format.zip format.tail).contains ('%', 'N')
    if args.isEmpty then Work.misuse 1 "missing operand".toList
    let one (p : Octets) : Work Bool := do
      let t := (← get).files
      let follow := hasOpt os "dereference"
      let place := if p = ['-'] then t.locate "/dev/stdin"
        else if follow then t.locate p.toText else t.locateEntry p.toText
      match t.nodeAt place, place with
      | .ok n, .ok q =>
        let item := fact t zone isQuoted p n q
        match style with
        | some s =>
          let right ← sayFacts (s = "printf") item (format.length + 1) format
          if s = "format" && right then Work.say ['\n']
          return right
        | none =>
          Work.say (factLines item n)
          return true
      | .error r, _ =>
        Work.cannot "cannot statx " p r
        return true
      | _, .error r =>
        Work.cannot "cannot statx " p r
        return true
    let _ ← args.foldlM (fun (going : Bool) p =>
      if going then one p else return false) true

end BitProbe.Bench

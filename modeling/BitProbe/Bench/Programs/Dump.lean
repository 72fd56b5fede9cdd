import BitProbe.Bench.Numerals
import BitProbe.Bench.Programs.Passing

/-!
Dumping octets as numbers.

The octets of the files are laid out in blocks of one line each. A line has
the offset of its block and the numbers in it. With several formats a block
has a line for each, in which numbers stand below one another.

* `Dump.Style`, `Dump.Format`: how the numbers of a block are written;
* `Dump.valueOf`, with `Dump.valueOf_lt`: the number that octets make;
* `Dump.Layout`: the lines of blocks;
* `Dump.texts`: the texts among octets;
* `od`: the program.
-/

namespace BitProbe.Bench

namespace Dump

/-! ### Formats -/

/-- How a number is written. -/
inductive Style where
  | octal
  | hexadecimal
  | unsigned
  | signed
  /-- A number with a sign, digits and an exponent to the base two. -/
  | real
  /-- Printable octets as they are, and others by an escape or a number. -/
  | character
  /-- Octets by their names, their highest bits aside. -/
  | named
  deriving DecidableEq

/-- How the numbers of a block are written, how many octets one is made of,
and whether what can be printed stands at the end of a line. -/
structure Format where
  style : Style
  size : Nat
  trailed : Bool := false

/-- The format of words of two octets in base eight. -/
def Format.usual : Format := ⟨.octal, 2, false⟩

/-- How many digits a number of so many bits has in a base. -/
def digitsFor (base bits : Nat) : Nat :=
  (Nat.toDigits base (2 ^ bits - 1)).length

/-- How many characters a number takes. -/
def Format.width (f : Format) : Nat :=
  match f.style with
  | .octal => digitsFor 8 (8 * f.size)
  | .hexadecimal => 2 * f.size
  | .unsigned => digitsFor 10 (8 * f.size)
  | .signed => digitsFor 10 (8 * f.size - 1) + 1
  | .real => if f.size = 4 then 15 else if f.size = 8 then 24 else 29
  | .character => 3
  | .named => 3

/-- The number that octets make, the lowest first. -/
def valueOf (o : Octets) : Nat :=
  o.foldr (fun c n => c.toNat % 256 + 256 * n) 0

/-- So many octets make a number of so many digits to the base 256. -/
theorem valueOf_lt (o : Octets) : valueOf o < 256 ^ o.length := by
  induction o with
  | nil => simp [valueOf]
  | cons c cs ih =>
    have h : valueOf (c :: cs) = c.toNat % 256 + 256 * valueOf cs := rfl
    rw [h, List.length_cons, Nat.pow_succ]
    omega

/-- An octet as a character, an escape or an octal number. -/
def charText (c : Char) : Octets :=
  if c = Char.ofNat 0 then ['\\', '0']
  else
    match controlNames.lookup c with
    | some l => ['\\', l]
    | none =>
      if isPrintable c then [c]
      else (Nat.toDigits 8 c.toNat).leftpad 3 '0'

/-- The names of the octets below 32. -/
def controlWords : List String :=
  ["nul", "soh", "stx", "etx", "eot", "enq", "ack", "bel", "bs", "ht", "nl",
   "vt", "ff", "cr", "so", "si", "dle", "dc1", "dc2", "dc3", "dc4", "nak",
   "syn", "etb", "can", "em", "sub", "esc", "fs", "gs", "rs", "us", "sp"]

/-- The name of an octet, its highest bit aside. -/
def nameText (c : Char) : Octets :=
  let n := c.toNat % 128
  match controlWords[n]? with
  | some w => w.toList
  | none => if n = 127 then "del".toList else [Char.ofNat n]

/-! ### Real numbers -/

/-- How a real number is laid out: the numbers of bits of its exponent and of
its digits. -/
structure RealLayout where
  exponentBits : Nat
  /-- The bits of the digits after the first one. -/
  digitBits : Nat
  /-- Whether the first digit has a bit of its own. -/
  isLeadShown : Bool := false

namespace RealLayout

/-- The layout of a number of so many octets. -/
def ofSize (size : Nat) : RealLayout :=
  if size = 4 then ⟨8, 23, false⟩
  else if size = 8 then ⟨11, 52, false⟩
  else ⟨15, 63, true⟩

/-- The exponent of the last digit of the numbers that are next to zero. -/
def least (l : RealLayout) : Int :=
  2 - 2 ^ (l.exponentBits - 1) - l.digitBits

/-- The number with given bits. A first digit that has a bit of its own must
not be zero unless the exponent is. -/
def decode (l : RealLayout) (n : Nat) : Fraction :=
  let places := l.digitBits + if l.isLeadShown then 1 else 0
  let digits := n % 2 ^ places
  let exponent := n / 2 ^ places % 2 ^ l.exponentBits
  let negative := 0 < n / 2 ^ (places + l.exponentBits) % 2
  if l.isLeadShown && exponent ≠ 0 && digits < 2 ^ l.digitBits then
    .undefined negative
  else if exponent = 2 ^ l.exponentBits - 1 then
    if digits % 2 ^ l.digitBits = 0 then .infinite negative
    else .undefined negative
  else
    let lead := if exponent = 0 || l.isLeadShown then 0 else 2 ^ l.digitBits
    let q := timesPower 2 (l.least + (exponent - 1 : Nat)) (lead + digits) 1
    .finite negative q.1 q.2

/-- The number of the layout that is nearest to a quotient. -/
def nearest (l : RealLayout) (num den : Nat) : Nat × Nat :=
  if num = 0 then (0, 1)
  else
    let guess : Int := (Nat.log2 num : Int) - Nat.log2 den
    let below := timesPower 2 (-guess) num den
    let e := if below.1 < below.2 then guess - 1 else guess
    let last := max (e - l.digitBits) l.least
    let q := timesPower 2 (-last) num den
    timesPower 2 last (Fraction.nearest q.1 q.2) 1

/-- The text with the fewest digits that stands for a quotient; so many digits
are tried. -/
def shortest (l : RealLayout) (num den : Nat) : Nat → Nat → Octets
  | 0, p => Fraction.generalDigits p false num den
  | fuel + 1, p =>
    let o := Fraction.generalDigits p false num den
    match leadingFraction? o with
    | some (.finite _ n d, _) =>
      let q := l.nearest n d
      if q.1 * den = num * q.2 then o else shortest l num den fuel (p + 1)
    | _ => o

/-- The text of a number. -/
def text (l : RealLayout) (f : Fraction) : Octets :=
  let sign : Octets := if f.isNegative then ['-'] else []
  match f with
  | .finite _ num den =>
    let few := if l.digitBits = 23 then 6
      else if l.digitBits = 52 then 15 else 18
    let normal := timesPower 2 (l.least + l.digitBits) 1 1
    let small := num * normal.2 < normal.1 * den
    sign ++ if num = 0 then ['0']
      else shortest l num den 20 (if small then 1 else few)
  | f => sign ++ f.text 0 'g' none false

end RealLayout

/-- A number as it is written, without blanks before it. -/
def Format.text (f : Format) (o : Octets) : Octets :=
  let n := valueOf o
  match f.style with
  | .octal => (Nat.toDigits 8 n).leftpad f.width '0'
  | .hexadecimal => (Nat.toDigits 16 n).leftpad f.width '0'
  | .unsigned => Text.decimal n
  | .signed =>
    let bound := 2 ^ (8 * f.size)
    if 2 * n < bound then Text.decimal n else '-' :: Text.decimal (bound - n)
  | .real =>
    let l := RealLayout.ofSize f.size
    l.text (l.decode n)
  | .character => charText (o.headD ' ')
  | .named => nameText (o.headD ' ')

/-! ### Reading formats -/

/-- What is wrong with a format for numbers of a size. -/
def noSuchSize (whole : Octets) (size : Nat) (kind : String) : Octets :=
  "invalid type string ".toList ++ quoted whole ++
    ";\nthis system doesn\x27t provide a ".toList ++ Text.decimal size ++
    "-byte ".toList ++ kind.toList ++ " type".toList

/-- The size that letters or digits name, and what follows them. -/
def sizeAt (whole : Octets) (isReal : Bool) (cs : Octets) :
    Except Octets (Nat × Octets) :=
  let letters : List (Char × Nat) :=
    if isReal then [('F', 4), ('D', 8), ('L', 16)]
    else [('C', 1), ('S', 2), ('I', 4), ('L', 8)]
  match cs.head?.bind fun c => letters.lookup c with
  | some n => .ok (n, cs.tail)
  | none =>
    let ds := cs.takeWhile Char.isDigit
    let n := ofDigits 10 ds
    if ds.isEmpty then .ok (if isReal then 8 else 4, cs)
    else if isReal && n ∉ [4, 8, 16] then
      .error (noSuchSize whole n "floating point")
    else if !isReal && n ∉ [1, 2, 4, 8] then
      .error (noSuchSize whole n "integral")
    else .ok (n, cs.drop ds.length)

/-- The styles of numbers by their letters. -/
def styles : List (Char × Style) :=
  [('o', .octal), ('x', .hexadecimal), ('u', .unsigned), ('d', .signed),
   ('f', .real), ('c', .character), ('a', .named)]

/-- The formats that the value of an option describes. -/
def formats (whole : Octets) : Nat → Octets → Except Octets (List Format)
  | 0, _ => .ok []
  | _, [] => .ok []
  | fuel + 1, c :: cs =>
    match styles.lookup c with
    | none =>
      .error ("invalid character \x27".toList ++ [c] ++
        "\x27 in type string ".toList ++ quoted whole)
    | some style => do
      let (size, rest) ←
        if style = .character || style = .named then pure (1, cs)
        else sizeAt whole (style = .real) cs
      let trailed := rest.head? = some 'z'
      let more ← formats whole fuel (if trailed then rest.tail else rest)
      return ⟨style, size, trailed⟩ :: more

/-- The formats of letters that stand for one each. -/
def letterFormats : List (Char × String) :=
  [('a', "a"), ('b', "o1"), ('c', "c"), ('D', "u4"), ('d', "u2"),
   ('e', "fD"), ('F', "fD"), ('f', "fF"), ('H', "x4"), ('X', "x4"),
   ('h', "x2"), ('x', "x2"), ('i', "dI"), ('I', "dL"), ('l', "dL"),
   ('L', "dL"), ('O', "o4"), ('o', "o2"), ('B', "o2"), ('s', "d2")]

/-- The formats that the letter of an option stands for. -/
def letterOf? (o : Opt) : Option String :=
  (letterFormats.find? fun l => o.key = String.ofList [l.1]).map (·.2)

/-- The formats that an option asks for. -/
def formatsOf (o : Opt) : Except Octets (List Format) :=
  if o.key = "format" then
    let v := o.value.getD []
    formats v (v.length + 1) v
  else
    match letterOf? o with
    | some s => formats s.toList (s.length + 1) s.toList
    | none => .ok []

/-! ### Lines -/

/-- Lists of `n` octets, the last of which may be shorter, after others that
are the last first. -/
def chunks (n : Nat) : Nat → Octets → List Octets → List Octets
  | 0, _, done => done.reverse
  | fuel + 1, o, done =>
    if o.isEmpty then done.reverse
    else chunks n fuel (o.drop n) (o.take n :: done)

/-- How lines are laid out. -/
structure Layout where
  formats : List Format
  radix : Char
  /-- Whether blocks are written that are like the one before. -/
  all : Bool
  /-- How many octets a line has. -/
  width : Nat
  /-- Whether the octets of a number are the highest first. -/
  highFirst : Bool
  /-- What is added to offsets for another column of them. -/
  second : Option Int := none

namespace Layout

/-- An offset as it stands before a line. -/
def address (l : Layout) (n : Nat) : Octets :=
  let one (n : Nat) : Octets :=
    if l.radix = 'd' then (Text.decimal n).leftpad 7 '0'
    else if l.radix = 'x' then (Nat.toDigits 16 n).leftpad 6 '0'
    else (Nat.toDigits 8 n).leftpad 7 '0'
  if l.radix = 'n' then []
  else
    match l.second with
    | none => one n
    | some d => one n ++ " (".toList ++ one (n + d).toNat ++ [')']

/-- How many characters the numbers of a line take. -/
def room (l : Layout) : Nat :=
  (l.formats.map fun f => (f.width + 1) * (l.width / f.size)).foldl max 0

/-- The octets of a number, the lowest first; missing ones are zero. -/
def ordered (l : Layout) (size : Nat) (o : Octets) : Octets :=
  let o := o ++ List.replicate (size - o.length) (Char.ofNat 0)
  if l.highFirst then o.reverse else o

/-- The numbers of a block on one line. What room is left over is shared out
before them. -/
def line (l : Layout) (f : Format) (block : Octets) : Octets :=
  let fields := l.width / f.size
  let spare := l.room - f.width * fields
  let missing := (l.width - block.length) / f.size
  let upTo (i : Nat) : Nat := spare * i / fields
  let numbers := (chunks f.size (block.length + 1) block []).zipIdx.flatMap
    fun (o : Octets × Nat) =>
      let width := f.width + upTo (fields - o.2) - upTo (fields - o.2 - 1)
      (f.text (l.ordered f.size o.1)).leftpad width ' '
  let trail : Octets :=
    if f.trailed then
      List.replicate (missing * f.width + upTo missing) ' ' ++
        "  >".toList ++ (block.map fun c => if isPrintable c then c else '.') ++
        ['<']
    else []
  numbers ++ trail

/-- The lines of one block. -/
def block (l : Layout) (offset : Nat) (b : Octets) : Octets :=
  let indent := if l.radix = 'n' then 0 else if l.radix = 'x' then 6 else 7
  l.formats.zipIdx.flatMap fun (f : Format × Nat) =>
    (if f.2 = 0 then l.address offset else List.replicate indent ' ') ++
      l.line f.1 b ++ ['\n']

/-- The lines of blocks from an offset on, after others that are the last
first. A block like the one before it is not written again unless all are
asked for; a star stands for all such blocks in a row. -/
def blocks (l : Layout) : List Octets → Nat → Option Octets → Bool →
    List Octets → List Octets
  | [], _, _, _, done => done.reverse
  | b :: bs, offset, before, starred, done =>
    if !l.all && before = some b && b.length = l.width then
      blocks l bs (offset + b.length) before true
        (if starred then done else ['*', '\n'] :: done)
    else
      blocks l bs (offset + b.length) (some b) false
        (l.block offset b :: done)

/-- Everything that is written about octets from an offset on. -/
def text (l : Layout) (start : Nat) (o : Octets) : Octets :=
  let final := l.address (start + o.length)
  (blocks l (chunks l.width (o.length + 1) o []) start none false []).flatten ++
    if final.isEmpty then [] else final ++ ['\n']

/-- The line for a text before an offset. -/
def textLine (l : Layout) (offset : Nat) (held : Octets) : Octets :=
  let lead := l.address (offset - held.length)
  lead ++ (if lead.isEmpty then [] else [' ']) ++ held.reverse ++ ['\n']

/-- The texts of at least `n` octets that end with the octet zero or where
reading ends, each after its offset; what has been read of a text is held in
reverse. -/
def texts (l : Layout) (n : Nat) (stop : Option Nat) :
    Octets → Nat → Octets → Octets → Octets
  | [], offset, held, done =>
    if stop = some offset && n ≤ held.length then
      done.reverse ++ l.textLine (offset - 1) held
    else done.reverse
  | c :: cs, offset, held, done =>
    if held.isEmpty && stop.any fun e => e < n || e - n ≤ offset then
      done.reverse
    else if isPrintable c then texts l n stop cs (offset + 1) (c :: held) done
    else if c = Char.ofNat 0 && n ≤ held.length then
      texts l n stop cs (offset + 1) []
        ((l.textLine offset held).reverse ++ done)
    else texts l n stop cs (offset + 1) [] done

end Layout

/-! ### Arguments -/

/-- A number in the value of an option, or what is wrong with it. Its digits
may name their base, and a unit may follow. -/
def amount (letter : Char) (based : Bool) (o : Octets) : Except Octets Nat :=
  let shown (before after : String) : Octets :=
    before.toList ++ '-' :: letter :: " argument \x27".toList ++ o ++
      '\x27' :: after.toList
  let read := match leadingInteger? based o with
    | some (n, rest) => if n < 0 then none else some (n.toNat, rest)
    | none =>
      if based && o.head?.any fun c => (unitSize? [c]).isSome then some (1, o)
      else none
  match read with
  | none => .error (shown "invalid " "")
  | some (n, rest) =>
    match if based then unitSize? rest else if rest.isEmpty then some 1 else none with
    | none => .error (shown "invalid suffix in " "")
    | some u =>
      if 2 ^ 64 ≤ n * u then .error (shown "" " too large") else .ok (n * u)

/-- The offset of an argument in the older form. -/
def olderOffset? (o : Octets) : Option Nat :=
  let cs := match o with
    | '+' :: cs => cs
    | cs => cs
  let isHex := startsWith "0x" cs
  let digits := if isHex then digitsIn 16 (cs.drop 2) else digitsIn 8 cs
  let rest := cs.drop (digits.length + if isHex then 2 else 0)
  let n := ofDigits (if isHex then 16 else 8) digits
  if digits.isEmpty then none
  else if rest.isEmpty then some n
  else if rest = ['b'] || rest = ['B'] then some (n * 512)
  else none

/-- The files among arguments, how much is to be skipped of them, and the
offset that is shown for the start. -/
def olderForm (traditional modern : Bool) (skip : Nat) (args : List Octets) :
    List Octets × Nat × Option Nat :=
  let plus (o : Octets) : Bool := o.head? = some '+'
  let keep := (args, skip, none)
  if modern && !traditional then keep
  else
    match args with
    | [a] =>
      if traditional || plus a then
        match olderOffset? a with
        | some n => ([], n, none)
        | none => keep
      else keep
    | [p, a] =>
      if traditional || plus a || a.head?.any Char.isDigit then
        match olderOffset? a, if traditional then olderOffset? p else none with
        | some n, some m => ([], m, some n)
        | some n, none => ([p], n, none)
        | none, _ => keep
      else keep
    | [p, a, b] =>
      match olderOffset? a, olderOffset? b with
      | some m, some n => if traditional then ([p], m, some n) else keep
      | _, _ => keep
    | _ => keep

/-- What has been read of files. -/
structure Gathered where
  octets : Stream := .empty
  /-- Whether anything could be opened. -/
  opened : Bool := false
  /-- Whether reading has come to what is shown. -/
  shows : Bool := false

/-- A stream after one in which one can go to any place, with octets for those
that are gone past there. -/
def passed (skip : Nat) (s : Stream) : Stream :=
  { s with held := s.held ++
      List.replicate (skip - s.held.length) (Char.ofNat 0) }

/-- The octets of files that are wanted: those before an end, if there is one.
Nothing is opened that is not needed. Octets that are skipped need not be there
in a device or a directory. What is to be said before anything is shown is said
when reading comes to that. -/
def gather (wanted : Option Nat) (skip : Nat) (notice : Work Unit) :
    List Octets → Gathered → Work Gathered
  | [], g => return g
  | p :: ps, g => do
    let s := g.octets
    if s.isEndless || wanted.any (· ≤ s.held.length) && g.opened then return g
    let held := (← get).input
    let begin (s : Stream) : Work Bool := do
      let now := skip ≤ s.held.length || s.isEndless
      if now && !g.shows then notice
      return g.shows || now
    match ← Work.source p with
    | .error r =>
      let opened := p = ['-'] || r = .isADirectory
      let octets := if r = .isADirectory then passed skip s else s
      let shows ← if opened then begin octets else pure g.shows
      if p = ['-'] then
        Work.complain 1 (named "standard input".toList ++ ": ".toList ++
          r.reason.toList)
      else Work.refuse p r
      let opened := g.opened || opened
      gather wanted skip notice ps { octets, opened, shows }
    | .ok t =>
      if p = ['-'] then
        match wanted with
        | some n => Work.leave (held.split (n - s.held.length)).2
        | none => pure ()
      let octets := if t.isDevice then passed skip s else s.append t
      let shows ← begin octets
      gather wanted skip notice ps { octets, opened := true, shows }

/-- What the program is asked to do. -/
structure Task where
  formats : List Format := []
  radix : Char := 'o'
  skip : Nat := 0
  count : Option Nat := none
  width : Option Nat := none
  texts : Option Nat := none
  highFirst : Bool := false
  /-- Whether an option has been given that rules out the older form. -/
  isModern : Bool := false
  /-- Whether a format could not be understood. -/
  isWrong : Bool := false

/-- Whether a value is a negative number. -/
def isNegative (v : Octets) : Bool :=
  (leadingInteger? false v).any fun r => r.1 < 0 && r.2.isEmpty

/-- A task with what one more option asks for. -/
def Task.add (k : Task) (o : Opt) : Except Octets Task :=
  let v := o.value.getD []
  let modern := { k with isModern := true }
  match o.key with
  | "address-radix" =>
    match v.head? with
    | some c =>
      if c ∈ ['d', 'o', 'x', 'n'] then .ok { modern with radix := c }
      else
        .error ("invalid output address radix \x27".toList ++ [c] ++
          "\x27; it must be one character from [doxn]".toList)
    | none => .ok modern
  | "skip-bytes" => do return { modern with skip := ← amount 'j' true v }
  | "read-bytes" => do
    return { modern with count := some (← amount 'N' true v) }
  | "strings" =>
    match o.value with
    | none => .ok { modern with texts := some 3 }
    | some v => do
      return { modern with texts := some (← amount 'S' true v) }
  | "S" => do
    return { modern with
      texts := some (← amount 'S' true v) }
  | "width" =>
    match o.value with
    | none => .ok { modern with width := some 32 }
    | some v =>
      if Dump.isNegative v then .ok { modern with width := some 0 }
      else do
        return { modern with width := some (← amount 'w' false v) }
  | "endian" => .ok { k with highFirst := v = "big".toList }
  | _ => .ok k

/-- A task with what one more option asks for, unless that ends the program.
A format that cannot be understood does not: the options after it are looked
at first. -/
def Task.addOption (k : Task) (o : Opt) : Work (Option Task) := do
  if o.key = "format" || (letterOf? o).isSome then
    let k := { k with isModern := k.isModern || o.key = "format" }
    match formatsOf o with
    | .ok fs => return some { k with formats := k.formats ++ fs }
    | .error m =>
      Work.complain 1 m
      return some { k with isWrong := true }
  else
    Work.accept (Work.complain 1) (k.add o)

/-- The layout that a task asks for, and a warning if its width does not
fit. -/
def Task.layout (k : Task) (all : Bool) (second : Option Int) :
    Layout × Option Octets :=
  let formats := if k.formats.isEmpty then [.usual] else k.formats
  let unit := (formats.map (·.size)).foldl Nat.lcm 1
  let (width, warning) := match k.width with
    | none => (unit * (max 1 (16 / unit)), none)
    | some w =>
      if 0 < w && w % unit = 0 then (w, none)
      else
        (unit, some ("warning: invalid width ".toList ++ Text.decimal w ++
          "; using ".toList ++ Text.decimal unit ++ " instead".toList))
  (⟨formats, k.radix, all, width, k.highFirst, second⟩, warning)

/-- The letters of options that stand for formats. -/
def formatSwitches : List Switch :=
  letterFormats.map fun l => .flag l.1 ""

/-- The options of the program. -/
def switches : List Switch :=
  [.valued 'j' "skip-bytes", .valued 'A' "address-radix",
   .valued 'N' "read-bytes", .valued 't' "format",
   .flag 'v' "output-duplicates", .long "strings" .maybe,
   .valued 'S' "", .long "traditional" .nothing,
   { letter := some 'w', word := "width", takes := .maybe },
   .choice "endian" .value [["little"], ["big"]]] ++ formatSwitches

end Dump

open Dump in
/-- Octets of files as numbers. -/
def od : Program := fun c =>
  c.asked switches true (fun m => Work.misuse 1 m.message) ({} : Task)
    Task.addOption fun k os args => do
    if k.isWrong then return
    let modern := k.isModern || hasOpt os "output-duplicates"
    let (paths, skip, shown) :=
      olderForm (hasOpt os "traditional") modern k.skip args
    let second := shown.map fun (n : Nat) => (n : Int) - skip
    let (l, warning) := k.layout (hasOpt os "output-duplicates") second
    if k.width = some 0 then Work.die 6
    else if k.texts.isSome && !k.formats.isEmpty then
      Work.complain 1 "no type may be specified when dumping strings".toList
    else if hasOpt os "traditional" && 1 < paths.length then do
      Work.complain 1 ("extra operand ".toList ++ quoted ((paths[1]?).getD []))
      Work.misuse 1 "compatibility mode supports at most one file".toList
    else do
      let wanted := k.count.map (skip + ·)
      let paths := if paths.isEmpty then [['-']] else paths
      let notice : Work Unit := do
        match warning with
        | some w => if k.texts.isNone then Work.complain (← get).status w
        | none => pure ()
      let g ← gather wanted skip notice paths {}
      let s := g.octets
      if s.isEndless && wanted.isNone then Work.hang
      let o := match wanted with
        | some n => (s.split n).1
        | none => s.held
      if !g.opened then return
      if o.length < skip then
        Work.complain 1 "cannot skip past end of combined input".toList
      else
        match k.texts with
        | some n => Work.say (l.texts n wanted (o.drop skip) skip [] [])
        | none => Work.say (l.text skip (o.drop skip))
      if paths.contains ['-'] && c.input.fault = some .noWay then
        Work.complain 1 ("standard input: ".toList ++
          FileError.noWay.reason.toList)

end BitProbe.Bench

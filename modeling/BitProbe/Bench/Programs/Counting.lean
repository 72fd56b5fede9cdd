import BitProbe.Bench.Numerals
import BitProbe.Bench.Programs.Passing

/-!
Counting lines, words, characters and octets.

* `Counts`: the numbers of a file, which are added up for several files;
* `Counts.of_nil`: there is nothing to count in an empty file;
* `wc`: the program.
-/

namespace BitProbe.Bench

/-- How much there is of each kind in a file. -/
structure Counts where
  lines : Nat := 0
  words : Nat := 0
  characters : Nat := 0
  octets : Nat := 0
  /-- The length of the longest line. -/
  longest : Nat := 0
  deriving DecidableEq

namespace Counts

/-- The counts of two files together. -/
def add (a b : Counts) : Counts where
  lines := a.lines + b.lines
  words := a.words + b.words
  characters := a.characters + b.characters
  octets := a.octets + b.octets
  longest := max a.longest b.longest

/-- Characters beyond the first 128 that separate words, by their numbers. -/
def isWideSpace (n : Nat) : Bool :=
  n = 0xA0 || n = 0x1680 || 0x2000 ≤ n && n ≤ 0x200A || n = 0x2028 ||
    n = 0x2029 || n = 0x202F || n = 0x205F || n = 0x2060 || n = 0x3000

/-- How many columns a character takes, by its number. -/
def columns (n : Nat) : Nat :=
  if n < 0xA0 then 0
  else if 0x300 ≤ n && n ≤ 0x36F || 0x200B ≤ n && n ≤ 0x200F then 0
  else if 0x1100 ≤ n && n ≤ 0x115F || 0x2E80 ≤ n && n ≤ 0xA4CF ||
      0xAC00 ≤ n && n ≤ 0xD7A3 || 0xF900 ≤ n && n ≤ 0xFAFF ||
      0xFE30 ≤ n && n ≤ 0xFE6F || 0xFF00 ≤ n && n ≤ 0xFF60 ||
      0xFFE0 ≤ n && n ≤ 0xFFE6 || 0x1F300 ≤ n && n ≤ 0x1F64F ||
      0x1F900 ≤ n && n ≤ 0x1F9FF || 0x20000 ≤ n && n ≤ 0x3FFFD then 2
  else 1

/-- How far characters have been counted. -/
structure Progress where
  characters : Nat := 0
  words : Nat := 0
  /-- Whether the last character was in a word. -/
  inWord : Bool := false
  column : Nat := 0
  longest : Nat := 0

/-- The progress by a character that separates words. -/
def Progress.space (p : Progress) (column longest : Nat) : Progress :=
  { p with characters := p.characters + 1, inWord := false, column, longest }

/-- The progress by a character of so many columns. -/
def Progress.letter (p : Progress) (printable : Bool) (width : Nat) :
    Progress :=
  { p with
    characters := p.characters + 1
    words := if printable && !p.inWord then p.words + 1 else p.words
    inWord := p.inWord || printable
    column := p.column + width }

/-- The progress by a character. An octet that is none is passed over. -/
def Progress.step (p : Progress) (w : Octets) : Progress :=
  match w with
  | [c] =>
    if 128 ≤ c.toNat then p
    else if c ∈ ['\n', '\x0d', '\x0c'] then
      p.space 0 (max p.column p.longest)
    else if c = '\t' then p.space (p.column / 8 * 8 + 8) p.longest
    else if c = ' ' then p.space (p.column + 1) p.longest
    else if isSpace c then p.space p.column p.longest
    else p.letter (isPrintable c) (if isPrintable c then 1 else 0)
  | w =>
    let n := ((encodedAt? w).map (·.2.toNat)).getD 0
    if isWideSpace n then p.space (p.column + columns n) p.longest
    else p.letter (0xA0 ≤ n) (columns n)

/-- The characters to count. Where texts are just octets each of them is one,
but only the first 128 are printed. -/
def characterTexts (plain : Bool) (o : Octets) : List Octets :=
  if plain then o.map fun c => [if c.toNat < 128 then c else Char.ofNat 0]
  else Bench.characters o

/-- What there is in octets. -/
def of (plain : Bool) (o : Octets) : Counts :=
  let p := (characterTexts plain o).foldl Progress.step {}
  { lines := o.count '\n'
    words := p.words
    characters := p.characters
    octets := o.length
    longest := max p.column p.longest }

/-- There is nothing to count in an empty file. -/
theorem of_nil (plain : Bool) : of plain [] = {} := by
  cases plain <;> simp [of, characterTexts, Bench.characters, charactersAfter]

/-- The numbers that options ask for, in a fixed order. -/
def asked (os : List Opt) (n : Counts) : List Nat :=
  let keys := ["lines", "words", "chars", "bytes", "max-line-length"]
  let usual := (lastOf os keys).isNone
  let item (key : String) (always : Bool) (n : Nat) : List Nat :=
    if hasOpt os key || always && usual then [n] else []
  item "lines" true n.lines ++ item "words" true n.words ++
    item "chars" false n.characters ++ item "bytes" true n.octets ++
    item "max-line-length" false n.longest

end Counts

/-- When a line with the sums of all numbers is shown. -/
inductive Totals where
  | auto
  | always
  | only
  | never
  deriving DecidableEq

namespace Totals

/-- The way that a word stands for. -/
def ofWord (o : Octets) : Totals :=
  match String.ofList o with
  | "always" => always
  | "only" => only
  | "never" => never
  | _ => auto

end Totals

/-- How wide the numbers of files are shown, by the sizes of those that are
there: nothing for what is there but no file. -/
def numberWidth (sizes : List (Option Nat)) : Nat :=
  let total := (sizes.map (·.getD 0)).sum
  max (Text.decimal total).length (if sizes.all Option.isSome then 1 else 7)

/-- The size of what a path leads to, if something is there. -/
def Call.sizeOf? (c : Call) (path : Octets) : Option (Option Nat) :=
  if path = ['-'] then
    if c.input.fault = some .noWay then none else some c.input.fileSize
  else
    match c.files.lookup path.toText with
    | .ok (.file bytes) => some (some bytes.length)
    | .ok _ => some none
    | .error _ => none

/-- How many lines, words, characters and octets there are. -/
def wc : Program := fun c =>
  let switches : List Switch :=
    [.flag 'c' "bytes", .flag 'm' "chars", .flag 'l' "lines",
     .flag 'w' "words", .flag 'L' "max-line-length",
     .long "files0-from" .value,
     .choice "total" .value [["auto"], ["always"], ["only"], ["never"]]]
  c.given switches true 1 fun os given => do
    let totals := Totals.ofWord ((optValue? os "total").getD [])
    let paths := if given.isEmpty then [['-']] else given
    let sizes := paths.map c.sizeOf?
    let single := paths.length = 1 && (Counts.asked os {}).length = 1
    let width :=
      if single || totals = .only then 1
      else numberWidth (sizes.filterMap id)
    let row (n : Counts) (name : Octets) : Work Unit :=
      Work.sayLine ([' '].intercalate ((Counts.asked os n).map fun k =>
        (Text.decimal k).leftpad width ' ') ++
        (if name.isEmpty then [] else ' ' :: name))
    let title (p : Octets) : Octets := if given.isEmpty then [] else p
    let go (sum : Counts) (p : Octets) : Work Counts := do
      if p.isEmpty then
        Work.complain 1 "invalid zero-length file name".toList
        return sum
      match ← Work.source p with
      | .error r =>
        let shown := if p = ['-'] then named "standard input".toList
          else bareName p
        Work.complain 1 (shown ++ ": ".toList ++ r.reason.toList)
        if (r = .isADirectory || p = ['-']) && totals ≠ .only then
          row {} (title p)
        return sum
      | .ok s =>
        if s.isEndless then Work.hang
        let n := Counts.of (← get).plain s.held
        if totals ≠ .only then row n (title p)
        return sum.add n
    let sum ← paths.foldlM go {}
    if totals = .always || totals = .auto && 1 < paths.length then
      row sum "total".toList
    else if totals = .only then row sum []
    Work.closeInput "-" given

end BitProbe.Bench

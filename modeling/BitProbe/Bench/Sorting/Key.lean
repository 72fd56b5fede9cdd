import BitProbe.Bench.Numerals
import BitProbe.Bench.Versions

/-!
Keys of lines.

A key is a part of a line, from somewhere in one field to somewhere in
another. What it stands for depends on how keys are compared: a text, a
number, a month or the name of a version.

* `Manner`: how keys are compared, and `Manner.letters`, the letters for it;
* `Key`, `Key.text`: a key, and the part of a line that it is;
* `Value`, `Manner.value`: what the text of a key stands for;
* `Value.compare`: the order of values;
* `Key.compare`: the order of two lines by a key;
* `textOrder_eq`: texts of one rank are the same.
-/

namespace BitProbe.Bench.Sorting

/-! ### Orders -/

/-- The order of texts, octet by octet. -/
def textOrder : Octets → Octets → Ordering
  | [], [] => .eq
  | [], _ => .lt
  | _, [] => .gt
  | a :: as, b :: bs =>
    if a = b then textOrder as bs
    else if a < b then .lt else .gt

/-- Texts of one rank are the same. -/
theorem textOrder_eq {a b : Octets} : textOrder a b = .eq ↔ a = b := by
  induction a generalizing b with
  | nil => cases b <;> simp [textOrder]
  | cons c cs ih =>
    cases b with
    | nil => simp [textOrder]
    | cons d ds =>
      by_cases h : c = d
      · simp [textOrder, h, ih]
      · by_cases hl : c < d <;> simp [textOrder, h, hl]

/-- A decimal number without zeros that mean nothing. -/
structure Decimal where
  isNegative : Bool
  whole : Octets
  part : Octets

namespace Decimal

/-- The decimal number at the start of a text. -/
def ofText (o : Octets) : Decimal :=
  let isNegative := o.head? = some '-'
  let o := if isNegative then o.drop 1 else o
  let digits := o.takeWhile Char.isDigit
  let whole := digits.dropWhile (· = '0')
  let part := match o.drop digits.length with
    | '.' :: cs => Text.dropRight (· = '0') (cs.takeWhile Char.isDigit)
    | _ => []
  { isNegative := isNegative && !(whole.isEmpty && part.isEmpty)
    whole, part }

/-- The order of numbers without their signs. -/
def magnitudes (a b : Decimal) : Ordering :=
  (compareOfLessAndEq a.whole.length b.whole.length).then
    ((textOrder a.whole b.whole).then (textOrder a.part b.part))

/-- The order of numbers. -/
def compare (a b : Decimal) : Ordering :=
  match a.isNegative, b.isNegative with
  | false, false => magnitudes a b
  | true, true => magnitudes b a
  | true, false => .lt
  | false, true => .gt

end Decimal

/-- The order of fractions, of which those that are none come first. -/
def fractionOrder : Fraction → Fraction → Ordering
  | .undefined _, .undefined _ => .eq
  | .undefined _, _ => .lt
  | _, .undefined _ => .gt
  | .infinite a, .infinite b => if a = b then .eq else if a then .lt else .gt
  | .infinite a, _ => if a then .lt else .gt
  | _, .infinite b => if b then .gt else .lt
  | .finite a n d, .finite b m e =>
    let x : Int := if a then -(n * e : Nat) else (n * e : Nat)
    let y : Int := if b then -(m * d : Nat) else (m * d : Nat)
    compareOfLessAndEq x y

/-- The letters of units, by the power of a thousand that they stand for. -/
def units : List (Char × Int) :=
  [('K', 1), ('k', 1), ('M', 2), ('G', 3), ('T', 4), ('P', 5), ('E', 6),
   ('Z', 7), ('Y', 8), ('R', 9), ('Q', 10)]

/-- The rank of the unit behind a number; that of a number less than zero is
turned around. -/
def unitRank (o : Octets) : Int :=
  let isNegative := o.head? = some '-'
  let o := if isNegative then o.drop 1 else o
  let digits := o.takeWhile Char.isDigit
  let rest := o.drop digits.length
  let part := match rest with
    | '.' :: cs => cs.takeWhile Char.isDigit
    | _ => []
  let rest := match rest with
    | '.' :: cs => cs.drop part.length
    | cs => cs
  if (digits ++ part).any (· ≠ '0') then
    let n := (rest.head?.bind fun c => units.lookup c).getD 0
    if isNegative then -n else n
  else 0

/-- The first letters of the months. -/
def months : List Octets :=
  ["JAN", "FEB", "MAR", "APR", "MAY", "JUN", "JUL", "AUG", "SEP", "OCT",
   "NOV", "DEC"].map String.toList

/-- The number of the month that a text starts with, or zero. -/
def monthOf (o : Octets) : Nat :=
  let word := (o.take 3).map Char.toUpper
  match months.idxOf? word with
  | some i => i + 1
  | none => 0

/-! ### Values -/

/-- How keys are compared. -/
structure Manner where
  /-- Whether blanks before the start of a key are no part of its field. -/
  skipsStart : Bool := false
  skipsEnd : Bool := false
  /-- Whether only blanks, letters and digits count. -/
  isDictionary : Bool := false
  /-- Whether small letters are the same as large ones. -/
  folds : Bool := false
  isGeneral : Bool := false
  isHuman : Bool := false
  /-- Whether only characters count that can be printed. -/
  isPrinted : Bool := false
  isMonth : Bool := false
  isNumeric : Bool := false
  isRandom : Bool := false
  isReversed : Bool := false
  isVersion : Bool := false
  deriving DecidableEq

namespace Manner

/-- Nothing but the order of texts. -/
def usual : Manner := {}

/-- The letters for a manner of comparing. -/
def letters (m : Manner) : Octets :=
  (if m.isDictionary then ['d'] else []) ++ (if m.folds then ['f'] else []) ++
    (if m.isGeneral then ['g'] else []) ++ (if m.isHuman then ['h'] else []) ++
    (if m.isPrinted && !m.isDictionary then ['i'] else []) ++
    (if m.isMonth then ['M'] else []) ++ (if m.isNumeric then ['n'] else []) ++
    (if m.isRandom then ['R'] else []) ++ (if m.isVersion then ['V'] else [])

/-- Whether a manner is that of more than one kind of value. -/
def isMixed (m : Manner) : Bool :=
  let kinds := [m.isNumeric, m.isGeneral, m.isHuman, m.isMonth,
    m.isVersion || m.isRandom || m.isDictionary || m.isPrinted]
  1 < (kinds.filter id).length

/-- The manner with what a letter adds to it; whether it stands for the start
and for the end of a key. -/
def add (isStart isEnd : Bool) (m : Manner) (c : Char) : Option Manner :=
  match c with
  | 'b' => some { m with
      skipsStart := m.skipsStart || isStart
      skipsEnd := m.skipsEnd || isEnd }
  | 'd' => some { m with isDictionary := true }
  | 'f' => some { m with folds := true }
  | 'g' => some { m with isGeneral := true }
  | 'h' => some { m with isHuman := true }
  | 'i' => some { m with isPrinted := true }
  | 'M' => some { m with isMonth := true }
  | 'n' => some { m with isNumeric := true }
  | 'R' => some { m with isRandom := true }
  | 'r' => some { m with isReversed := true }
  | 'V' => some { m with isVersion := true }
  | _ => none

/-- The manner with what the letters at the start of a text add to it, and the
rest of the text. -/
def addAll (isStart isEnd : Bool) (m : Manner) : Octets → Manner × Octets
  | [] => (m, [])
  | c :: cs =>
    match m.add isStart isEnd c with
    | some m => m.addAll isStart isEnd cs
    | none => (m, c :: cs)

end Manner

/-- Whether an octet stands between fields. -/
def isBlank (c : Char) : Bool := c = ' ' || c = '\t' || c = '\n'

/-- What the text of a key stands for. -/
inductive Value where
  | text (o : Octets)
  | decimal (d : Decimal)
  | sized (unit : Int) (d : Decimal)
  | fraction (f : Option Fraction)
  | month (n : Nat)
  | version (o : Octets)

/-- What a text stands for. -/
def Manner.value (m : Manner) (o : Octets) : Value :=
  let counts (c : Char) : Bool :=
    if m.isDictionary then isBlank c || c.isAlphanum
    else !m.isPrinted || ' ' ≤ c && c ≤ '~'
  let o := if m.isDictionary || m.isPrinted then o.filter counts else o
  let o := if m.folds then o.map Char.toUpper else o
  let start := o.dropWhile isBlank
  if m.isNumeric then .decimal (.ofText start)
  else if m.isGeneral then
    .fraction ((leadingFraction? o).map fun r => (r.1.rounded 64 16384).1)
  else if m.isHuman then .sized (unitRank start) (.ofText start)
  else if m.isMonth then .month (monthOf start)
  else if m.isVersion then .version o
  else .text o

/-- The order of values. -/
def Value.compare : Value → Value → Ordering
  | text a, text b => textOrder a b
  | decimal a, decimal b => a.compare b
  | sized u a, sized v b => (compareOfLessAndEq u v).then (a.compare b)
  | fraction none, fraction none => .eq
  | fraction none, fraction _ => .lt
  | fraction _, fraction none => .gt
  | fraction (some a), fraction (some b) => fractionOrder a b
  | month a, month b => compareOfLessAndEq a b
  | version a, version b => Versions.compare a b
  | _, _ => .eq

/-! ### Keys -/

/-- A key: where it starts and ends, and how it is compared. Fields and the
octets in them are counted from zero. -/
structure Key where
  field : Nat := 0
  skip : Nat := 0
  /-- The number of the last field and how many octets of it belong to the
  key, all of them if that is zero; nothing if it goes on to the end. -/
  last : Option (Nat × Nat) := none
  manner : Manner := {}

namespace Key

/-- A line from a field on, fields being those between separators. -/
def dropSeparated (separator : Char) : Nat → Octets → Octets
  | 0, o => o
  | _, [] => []
  | n + 1, o =>
    dropSeparated separator n ((o.dropWhile (· ≠ separator)).drop 1)

/-- A line from a field on, fields being words with the blanks before
them. -/
def dropWords : Nat → Octets → Octets
  | 0, o => o
  | _, [] => []
  | n + 1, o =>
    dropWords n ((o.dropWhile isBlank).dropWhile (!isBlank ·))

/-- A line from the start of a key on. -/
def fromStart (k : Key) (separator : Option Char) (o : Octets) : Octets :=
  let o := match separator with
    | some c => dropSeparated c k.field o
    | none => dropWords k.field o
  let o := if k.manner.skipsStart then o.dropWhile isBlank else o
  o.drop k.skip

/-- A line from the end of a key on. -/
def fromEnd (k : Key) (separator : Option Char) (o : Octets) : Octets :=
  match k.last with
  | none => []
  | some (field, count) =>
    let isWhole := count = 0
    let o := match separator with
      | none => dropWords (if isWhole then field + 1 else field) o
      | some c =>
        if isWhole then
          (dropSeparated c field o).dropWhile (· ≠ c)
        else dropSeparated c field o
    if isWhole then o
    else (if k.manner.skipsEnd then o.dropWhile isBlank else o).drop count

/-- The part of a line that a key is. -/
def text (k : Key) (separator : Option Char) (o : Octets) : Octets :=
  let o' := k.fromStart separator o
  o'.take (o'.length - (k.fromEnd separator o).length)

/-- The order of values by a key. -/
def compare (k : Key) (a b : Value) : Ordering :=
  let r := a.compare b
  if k.manner.isReversed then r.swap else r

end Key

end BitProbe.Bench.Sorting

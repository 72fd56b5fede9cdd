import BitProbe.Bench.Numerals

/-!
What variables of rules hold.

A cell holds a number or a text, or a text that has been read and counts as a
number if it looks like one. Numbers are floating, and are written through the
fractions that they are.

* `fractionOf`, `floatOf`: floating numbers and fractions;
* `leadingFloat`: the number at the start of octets;
* `wholeText?`: the text of a whole number;
* `Cell`, `Cell.toFloat`, `Cell.isTrue`: what is held, and what it counts as;
* `Cell.compare`: the order of cells.
-/

namespace BitProbe.Bench.Rules

/-! ### Floating numbers -/

/-- A number beyond all others. -/
def infinity : Float := 1.0 / 0.0

/-- What is no number. -/
def undefined : Float := 0.0 / 0.0

/-- The fraction that a floating number is. -/
def fractionOf (x : Float) : Fraction :=
  let bits := x.toBits.toNat
  let negative := decide (2 ^ 63 ≤ bits)
  let exponent := bits / 2 ^ 52 % 2048
  let rest := bits % 2 ^ 52
  if exponent = 2047 then
    if rest = 0 then .infinite negative else .undefined true
  else
    let m := if exponent = 0 then rest else rest + 2 ^ 52
    let e : Int := (max exponent 1 : Nat)
    let q := timesPower 2 (e - 1075) m 1
    .finite negative q.1 q.2

/-- The floating number nearest to a fraction. -/
def floatOf (f : Fraction) : Float :=
  match (f.rounded 53 1024).1 with
  | .finite negative num den =>
    let x := (Float.ofNat num).scaleB (-(Nat.log2 den : Int))
    if negative then -x else x
  | .infinite negative => if negative then -infinity else infinity
  | .undefined _ => undefined

/-- How many digits a number has at most that is floating as it is. -/
def plainDigits : Nat := 15

/-- The number at the start of octets, and what follows it; zero if there is
none. -/
def leadingFloat (o : Octets) : Float × Octets :=
  let cs := o.dropWhile isSpace
  let ds := cs.takeWhile Char.isDigit
  let rest := cs.drop ds.length
  let isPlain := !ds.isEmpty && ds.length ≤ plainDigits &&
    !rest.head?.any fun c => c = '.' || c = 'e' || c = 'E' || c = 'x' || c = 'X'
  if isPlain then (Float.ofNat (ofDigits 10 ds), rest)
  else
    match leadingFraction? o with
    | some (f, rest) => (floatOf f, rest)
    | none => (0, o)

/-- A floating number without its part behind the point. -/
def whole (x : Float) : Float :=
  if x < 0 then x.ceil else x.floor

/-- The whole number of a floating one, between two bounds. -/
def clamped (low high : Int) (x : Float) : Int :=
  match fractionOf (whole x) with
  | .finite negative num den =>
    let n : Int := num / den
    max low (min high (if negative then -n else n))
  | .infinite negative => if negative then low else high
  | .undefined _ => low

/-- The least and the greatest whole number that are counted with. -/
def leastWhole : Int := -(2 ^ 63 - 1)

@[inherit_doc leastWhole]
def greatestWhole : Int := 2 ^ 63 - 1

/-- The text of a whole number that is not too large. -/
def wholeText? (x : Float) : Option Octets :=
  if x < 0 then
    if x.floor == x && -9223372036854775808.0 ≤ x then
      some ('-' :: Nat.toDigits 10 (-x).toUInt64.toNat)
    else none
  else if x.floor == x && x ≤ 18446744073709551616.0 then
    some (Nat.toDigits 10 x.toUInt64.toNat)
  else none

/-- What is left of a number divided by another one. -/
def remainder (x y : Float) : Float :=
  match fractionOf x, fractionOf y with
  | .finite negative a b, .finite _ c d =>
    if c = 0 then undefined
    else floatOf (.finite negative (a * d % (c * b)) (b * d))
  | .finite _ _ _, .infinite _ => x
  | _, _ => undefined

/-! ### Cells -/

/-- What a variable holds. -/
inductive Cell where
  | unset
  | number (x : Float)
  | text (o : Octets)
  /-- A text that has been read. -/
  | input (o : Octets)
  deriving Inhabited

/-- The number that a text looks like, if it looks like one: it starts as one
and ends in a digit or a point. -/
def numberLike? (o : Octets) : Option Float :=
  let cs := o.dropWhile isSpace
  match cs with
  | [] => none
  | c :: _ =>
    if !(c.isDigit || c = '+' || c = '-' || c = '.') then none
    else
      let (x, rest) := leadingFloat cs
      if rest.length = cs.length || !rest.all isSpace then none
      else
        match (cs.reverse.dropWhile isSpace).head? with
        | some d => if d.isDigit || d = '.' then some x else none
        | none => none

namespace Cell

/-- The number that a cell counts as. -/
def toFloat : Cell → Float
  | unset => 0
  | number x => x
  | text o => (leadingFloat o).1
  | input o => (leadingFloat o).1

/-- The number that a cell holds, unless it holds a text. -/
def asNumber? : Cell → Option Float
  | unset => some 0
  | number x => some x
  | text _ => none
  | input o => numberLike? o

/-- Whether a cell counts as true. -/
def isTrue : Cell → Bool
  | unset => false
  | number x => x != 0
  | text o => !o.isEmpty
  | input o =>
    match numberLike? o with
    | some x => x != 0
    | none => !o.isEmpty

/-- A truth value as a number. -/
def ofBool (b : Bool) : Cell := number (if b then 1 else 0)

/-- A whole number. -/
def ofInt (n : Int) : Cell :=
  number (floatOf (.finite (n < 0) n.natAbs 1))

/-- A natural number. -/
def ofNat (n : Nat) : Cell := number (Float.ofNat n)

/-- The order of two cells, whose texts are given: of numbers if both are
numbers. What cannot be compared is equal. -/
def compare (a b : Cell) (shown : Cell → Octets) : Ordering :=
  match a.asNumber?, b.asNumber? with
  | some x, some y =>
    if y < x then .gt else if x < y then .lt else .eq
  | _, _ => Ord.compare (shown a) (shown b)

/-- Nothing counts as false. -/
theorem isTrue_unset : unset.isTrue = false := rfl

/-- A text counts as true unless it is empty. -/
theorem isTrue_text (o : Octets) : (text o).isTrue = !o.isEmpty := rfl

end Cell

end BitProbe.Bench.Rules

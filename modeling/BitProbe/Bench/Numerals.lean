import BitProbe.Bench.Octets

/-!
Numbers as programs read, reckon with and show them.

* `leadingInteger?`: a whole number at the start of octets;
* `sized?`: a number that may end in a unit;
* `Fraction`: fractions, and what is none;
* `leadingFraction?`: a fraction at the start of octets;
* `Fraction.rounded`: the nearest fraction with so many binary digits;
* `Fraction.fixed`, `Fraction.scientific`, `Fraction.general`: a fraction
  written with so many decimals, as a power of ten, and in the shorter way;
* `fixedDigits_zero`: without decimals a whole number is written as it is;
* `Extended`, `Extended.rounded`: quotients that have been rounded to the
  nearest ones with 64 binary digits;
* `Extended.add`, `Extended.mul`, `Extended.div`: reckoning with them;
* `Extended.whole`, with `Extended.whole_ofInt`: the part of a number without
  its decimals;
* `SizeUnit`: what sizes are counted in;
* `SizeUnit.text`: a size in a unit, never too small, and a number if it is
  counted in ones (`SizeUnit.text_one`).
-/

namespace BitProbe.Bench

/-- Whether an octet is blank. -/
def isSpace (c : Char) : Bool := c = ' ' || '\t' ≤ c && c ≤ '\x0d'

/-- The digits at the start of octets that a base has. -/
def digitsIn (base : Nat) (o : Octets) : Octets :=
  o.takeWhile fun c => (Text.hexDigit? c).any (· < base)

/-- The number that digits stand for. -/
def ofDigits (base : Nat) (ds : Octets) : Nat :=
  (Text.value? Text.hexDigit? base ds 0).getD 0

/-- The magnitude at the start of octets, in the base that its first digits
name, and what follows it. -/
def magnitude (o : Octets) : Nat × Octets :=
  let read (base : Nat) (cs : Octets) : Nat × Octets :=
    let ds := digitsIn base cs
    (ofDigits base ds, cs.drop ds.length)
  match o with
  | '0' :: x :: d :: cs =>
    if (x = 'x' || x = 'X') && (Text.hexDigit? d).isSome then
      read 16 (d :: cs)
    else read 8 o
  | '0' :: _ => read 8 o
  | _ => read 10 o

/-- Octets without blanks before them and without a sign, and whether that is
a minus sign. -/
def unsigned (o : Octets) : Bool × Octets :=
  match o.dropWhile isSpace with
  | '-' :: cs => (true, cs)
  | '+' :: cs => (false, cs)
  | cs => (false, cs)

/-- The whole number at the start of octets, and what follows it. Its first
digits may name its base. -/
def leadingInteger? (based : Bool) (o : Octets) : Option (Int × Octets) :=
  let (negative, cs) := unsigned o
  if !cs.head?.any Char.isDigit then none
  else
    let (n, rest) := if based then magnitude cs
      else
        let ds := digitsIn 10 cs
        (ofDigits 10 ds, cs.drop ds.length)
    some (if negative then -n else n, rest)

/-- The letters of units, by the power of a thousand that they stand for. -/
def unitLetters : List (Char × Nat) :=
  [('k', 1), ('K', 1), ('M', 2), ('m', 2), ('G', 3), ('T', 4), ('P', 5),
   ('E', 6), ('Z', 7), ('Y', 8)]

/-- What a unit stands for. Nothing is a unit as well. -/
def unitSize? : Octets → Option Nat
  | [] => some 1
  | ['b'] => some 512
  | c :: rest =>
    (unitLetters.lookup c).bind fun n =>
      match rest with
      | [] => some (1024 ^ n)
      | ['i', 'B'] => some (1024 ^ n)
      | ['B'] => some (1000 ^ n)
      | _ => none

/-- A number that may end in a unit, which needs no digits then. -/
def sized? (o : Octets) : Option Nat :=
  let cs := match o with
    | '+' :: cs => cs
    | cs => cs
  let ds := cs.takeWhile Char.isDigit
  let n := if ds.isEmpty && !cs.isEmpty then some 1 else Text.decimal? ds
  match n, unitSize? (cs.drop ds.length) with
  | some n, some u => some (n * u)
  | _, _ => none

/-! ### Fractions -/

/-- A fraction with a sign, and what is none. -/
inductive Fraction where
  | finite (negative : Bool) (num den : Nat)
  | infinite (negative : Bool)
  | undefined (negative : Bool)

/-- Whether octets start with a word in either case. -/
def startsWith (word : String) (o : Octets) : Bool :=
  (o.take word.length).map Char.toLower = word.toList

/-- Digits with a point among them in a base, as a numerator, a number of
digits after the point and what follows; if there is a digit. -/
def pointed? (base : Nat) (o : Octets) : Option (Nat × Nat × Octets) :=
  let whole := digitsIn base o
  let rest := o.drop whole.length
  let (part, rest) := match rest with
    | '.' :: cs =>
      let part := digitsIn base cs
      if whole.isEmpty && part.isEmpty then ([], rest)
      else (part, cs.drop part.length)
    | cs => ([], cs)
  if whole.isEmpty && part.isEmpty then none
  else some (ofDigits base (whole ++ part), part.length, rest)

/-- The exponent after a letter at the start of octets, and what follows. -/
def exponentAt (letter : Char) (o : Octets) : Int × Octets :=
  match o with
  | c :: cs =>
    let (negative, ds) := match cs with
      | '-' :: ds => (true, ds)
      | '+' :: ds => (false, ds)
      | ds => (false, ds)
    let n := digitsIn 10 ds
    if c.toLower = letter && !n.isEmpty then
      (if negative then -(ofDigits 10 n : Int) else ofDigits 10 n,
        ds.drop n.length)
    else (0, o)
  | [] => (0, o)

/-- A numerator and a denominator multiplied by a power. -/
def timesPower (base : Nat) (e : Int) (num den : Nat) : Nat × Nat :=
  if 0 ≤ e then (num * base ^ e.toNat, den)
  else (num, den * base ^ (-e).toNat)

/-- The largest exponent that is worked out. -/
def exponentLimit : Int := 20000

/-- The fraction at the start of octets, and what follows it. -/
def leadingFraction? (o : Octets) : Option (Fraction × Octets) :=
  let (negative, cs) := unsigned o
  let decimal : Option (Fraction × Octets) :=
    (pointed? 10 cs).map fun (n, places, rest) =>
      let (e, rest) := exponentAt 'e' rest
      let e := max (-exponentLimit) (min e exponentLimit)
      let q := timesPower 10 (e - places) n 1
      (.finite negative q.1 q.2, rest)
  if startsWith "infinity" cs then some (.infinite negative, cs.drop 8)
  else if startsWith "inf" cs then some (.infinite negative, cs.drop 3)
  else if startsWith "nan" cs then some (.undefined negative, cs.drop 3)
  else if startsWith "0x" cs then
    match pointed? 16 (cs.drop 2) with
    | some (n, places, rest) =>
      let (e, rest) := exponentAt 'p' rest
      let e := max (-exponentLimit) (min e exponentLimit)
      let q := timesPower 2 (e - 4 * places) n 1
      some (.finite negative q.1 q.2, rest)
    | none => decimal
  else decimal

namespace Fraction

/-- A quotient rounded to the nearest whole number; one in the middle between
two goes to the even one. -/
def nearest (num den : Nat) : Nat :=
  let q := num / den
  let r := num % den
  if den < 2 * r then q + 1
  else if 2 * r = den then q + q % 2
  else q

/-- The nearest fraction that has so many binary digits. -/
def withBits (bits num den : Nat) : Nat × Nat :=
  if num = 0 then (0, 1)
  else
    let guess : Int := (Nat.log2 num : Int) - Nat.log2 den
    let shift (e : Int) : Nat × Nat := timesPower 2 (bits - 1 - e) num den
    let (e, q) :=
      let q := shift guess
      if q.1 / q.2 < 2 ^ (bits - 1) then (guess - 1, shift (guess - 1))
      else (guess, q)
    timesPower 2 (e - (bits - 1)) (nearest q.1 q.2) 1

/-- The nearest fraction that has so many binary digits. One that is too
large is infinite, and of one that is too small fewer digits are kept; the
flag says so. -/
def rounded (bits limit : Nat) : Fraction → Fraction × Bool
  | finite negative num den =>
    let q := withBits bits num den
    let small := 2 ^ (limit + bits - 3)
    if 2 ^ limit * q.2 ≤ q.1 then (infinite negative, true)
    else if num * 2 ^ (limit - 2) < den then
      let n := nearest (num * small) den
      (finite negative n small, n * den ≠ num * small)
    else (finite negative q.1 q.2, false)
  | f => (f, false)

/-- Whether there is a minus sign. -/
def isNegative : Fraction → Bool
  | finite n _ _ => n
  | infinite n => n
  | undefined n => n

/-- A quotient with so many decimals. -/
def fixedDigits (places : Nat) (point : Bool) (num den : Nat) : Octets :=
  let ds := Text.decimal (nearest (num * 10 ^ places) den)
  let ds := ds.leftpad (places + 1) '0'
  let whole := ds.take (ds.length - places)
  if places = 0 then whole ++ (if point then ['.'] else [])
  else whole ++ '.' :: ds.drop (ds.length - places)

/-- Without decimals a whole number is written as it is. -/
theorem fixedDigits_zero (n : Nat) :
    fixedDigits 0 false n 1 = Text.decimal n := by
  have h : nearest n 1 = n := by simp [nearest, Nat.mod_one]
  have hl : 1 ≤ (Text.decimal n).length := by
    cases hd : Text.decimal n with
    | nil => simp [Text.decimal, Nat.toDigits_ne_nil] at hd
    | cons c cs => simp
  simp [fixedDigits, h, List.leftpad, Nat.sub_eq_zero_of_le hl]

/-- The power of ten that a quotient has, and its digits, so many behind the
first one. -/
def powerDigits (places num den : Nat) : Int × Octets :=
  if num = 0 then (0, List.replicate (places + 1) '0')
  else
    let guess : Int :=
      (Text.decimal num).length - (Text.decimal den).length
    let below (e : Int) : Bool :=
      let q := timesPower 10 (-e) num den
      q.1 < q.2
    let e := if below guess then guess - 1 else guess
    let q := timesPower 10 (places - e) num den
    let ds := Text.decimal (nearest q.1 q.2)
    if places + 1 < ds.length then (e + 1, ds.dropLast) else (e, ds)

/-- Digits as a number times a power of ten. -/
def powerText (point : Bool) (e : Int) (ds : Octets) : Octets :=
  let mark := if ds.length < 2 && !point then [] else ['.']
  ds.take 1 ++ mark ++ ds.drop 1 ++ 'e' :: (if e < 0 then '-' else '+') ::
    (Text.decimal e.natAbs).leftpad 2 '0'

/-- Digits without zeros at the end of their decimals. -/
def trimmedZeros (o : Octets) : Octets :=
  if o.contains '.' then
    Text.dropRight (· = '.') (Text.dropRight (· = '0') o)
  else o

/-- A quotient in the shorter of the two ways, with so many digits that
count. -/
def generalDigits (places : Nat) (full : Bool) (num den : Nat) : Octets :=
  let p := max places 1
  let (e, ds) := powerDigits (p - 1) num den
  if e < -4 ∨ (p : Int) ≤ e then
    if full then powerText true e ds
    else
      let ds := ds.take 1 ++ Text.dropRight (· = '0') (ds.drop 1)
      powerText false e ds
  else
    let o := fixedDigits ((p : Int) - 1 - e).toNat full num den
    if full then o else trimmedZeros o

/-- A quotient as digits of base sixteen times a power of two. The digit
before the point has so many bits after its first one. -/
def binaryText (bits : Nat) (places : Option Nat) (point : Bool)
    (num den : Nat) : Octets :=
  let e : Int :=
    if num = 0 then 0
    else
      let guess : Int := (Nat.log2 num : Int) - Nat.log2 den
      let q := timesPower 2 (-guess) num den
      (if q.1 < q.2 then guess - 1 else guess) - bits
  let q := timesPower 2 (-e) num den
  let p := places.getD 16
  let n := nearest (q.1 * 16 ^ p) q.2
  let behind := if p = 0 then []
    else (Nat.toDigits 16 (n % 16 ^ p)).leftpad p '0'
  let behind := if places.isSome then behind
    else Text.dropRight (· = '0') behind
  '0' :: 'x' :: Nat.toDigits 16 (n / 16 ^ p) ++
    (if behind.isEmpty && !point then [] else '.' :: behind) ++
    'p' :: (if e < 0 then '-' else '+') :: Text.decimal e.natAbs

/-- The octets of a fraction without its sign, in the way that a letter
stands for. A dialect says how many bits the first digit of base sixteen has
after its first one. -/
def text (bits : Nat) (letter : Char) (places : Option Nat) (full : Bool) :
    Fraction → Octets
  | infinite _ => "inf".toList
  | undefined _ => "nan".toList
  | finite _ num den =>
    let p := places.getD 6
    if letter = 'f' then fixedDigits p full num den
    else if letter = 'e' then
      let r := powerDigits p num den
      powerText full r.1 r.2
    else if letter = 'a' then binaryText bits places full num den
    else generalDigits p full num den

end Fraction

/-! ### 64 binary digits -/

/-- A number with 64 binary digits, as a quotient. -/
structure Extended where
  num : Int
  den : Nat

namespace Extended

/-- The nearest number to a quotient. -/
def rounded (num : Int) (den : Nat) : Extended :=
  let q := Fraction.withBits 64 num.natAbs den
  ⟨if num < 0 then -q.1 else q.1, q.2⟩

/-- A whole number, which may have too many digits. -/
def ofInt (n : Int) : Extended := rounded n 1

/-- A sum. -/
def add (x y : Extended) : Extended :=
  rounded (x.num * y.den + y.num * x.den) (x.den * y.den)

/-- The number with the other sign. -/
def neg (x : Extended) : Extended := { x with num := -x.num }

/-- A difference. -/
def sub (x y : Extended) : Extended := x.add y.neg

/-- A product. -/
def mul (x y : Extended) : Extended :=
  rounded (x.num * y.num) (x.den * y.den)

/-- A quotient. Nothing is divided by zero. -/
def div (x y : Extended) : Extended :=
  let sign : Int := if y.num < 0 then -1 else 1
  rounded (x.num * y.den * sign) (x.den * y.num.natAbs)

/-- A number without its sign. -/
def size (x : Extended) : Extended := { x with num := x.num.natAbs }

/-- Whether one number is less than another. -/
def isLess (x y : Extended) : Bool := x.num * y.den < y.num * x.den

/-- The part of a number before the point. -/
def whole (x : Extended) : Int := Int.tdiv x.num x.den

/-- A power by repeated multiplication. -/
def power (base : Nat) (n : Nat) : Extended :=
  n.repeat (fun x => x.mul (ofInt base)) (ofInt 1)

/-- A number as a fraction. -/
def fraction (x : Extended) : Fraction :=
  .finite (x.num < 0) x.num.natAbs x.den

/-- The part before the point of a quotient by one is its numerator. -/
theorem whole_ofInt (n : Int) : (Extended.mk n 1).whole = n := by
  simp [whole]

/-- A number is not less than itself. -/
theorem isLess_self (x : Extended) : x.isLess x = false := by
  simp [isLess]

end Extended

/-! ### Sizes -/

/-- What sizes are counted in. -/
inductive SizeUnit where
  /-- So many at a time, with a text behind the number. -/
  | fixed (size : Nat) (mark : Octets)
  /-- The largest power of a number that is not larger than the size. -/
  | chosen (base : Nat)
  deriving DecidableEq

namespace SizeUnit

/-- The letters of the powers of a thousand. -/
def letters : Octets := ['K', 'M', 'G', 'T', 'P', 'E', 'Z', 'Y', 'R', 'Q']

/-- The least whole number that is not less than a quotient. -/
def upwards (num den : Nat) : Nat := (num + den - 1) / den

/-- A size in the unit that suits it, by the units that have not been tried,
the largest of which is used if none suits. -/
def suited (base n : Nat) : Octets → Nat → Octets
  | [], power => Text.decimal (upwards n power)
  | c :: cs, power =>
    let power := power * base
    if n ≤ (base - 1) * power then
      let tenths := upwards (10 * n) power
      if tenths < 100 then
        Text.decimal (tenths / 10) ++ '.' :: Text.decimal (tenths % 10) ++ [c]
      else Text.decimal (upwards n power) ++ [c]
    else if cs.isEmpty then Text.decimal (upwards n power) ++ [c]
    else suited base n cs power

/-- A size as it is shown. -/
def text (u : SizeUnit) (n : Nat) : Octets :=
  match u with
  | fixed size mark => Text.decimal (upwards n size) ++ mark
  | chosen base =>
    if n < base then Text.decimal n
    else suited base n (if base = 1000 then 'k' :: letters.tail else letters) 1

/-- Counted in ones a size is a number. -/
theorem text_one (n : Nat) : (fixed 1 []).text n = Text.decimal n := by
  simp [text, upwards]

/-- The unit that a word describes: a letter with what may follow it, after a
number that may be left out. -/
def ofWord? (o : Octets) : Option SizeUnit :=
  let o := match o with
    | '\x27' :: cs => cs
    | cs => cs
  if o = "human-readable".toList then some (.chosen 1024)
  else if o = "si".toList then some (.chosen 1000)
  else
    let ds := o.takeWhile Char.isDigit
    let rest := o.drop ds.length
    let n := if ds.isEmpty then 1 else (Text.decimal? ds).getD 0
    let unit : Option (Nat × Octets) := match rest with
      | [] => if ds.isEmpty then none else some (1, [])
      | c :: more =>
        match letters.findIdx? (· = c.toUpper), more with
        | some i, [] => some (1024 ^ (i + 1), [c.toUpper])
        | some i, ['i', 'B'] => some (1024 ^ (i + 1), [c.toUpper, 'i', 'B'])
        | some i, ['B'] =>
          some (1000 ^ (i + 1), [if i = 0 then 'k' else c.toUpper, 'B'])
        | _, _ => none
    unit.bind fun (size, mark) =>
      if n = 0 then none
      else some (.fixed (n * size) (if ds.isEmpty then mark else []))

end SizeUnit

end BitProbe.Bench

import BitProbe.Instances
import BitProbe.Text.Blank

/-!
Numerals.

* `decimal`: a number in base ten, without leading zeros;
* `binary`: a number in base two, filled up with zeros to a width;
* `hexadecimal`: the lowest digits of a number in base sixteen, so many of
  them;
* `decimal?`, `hexadecimal?`: the numbers that digits stand for, reading
  either case;
* `duration`: a number of milliseconds in the largest unit of which there is
  one at least, with as many decimals as it takes.

`decimal?_decimal` reads a decimal numeral back.
-/

namespace BitProbe.Text

/-- A number in base ten. -/
def decimal (n : Nat) : List Char :=
  Nat.toDigits 10 n

/-- A number in base two, filled up with zeros on the left to `width`
digits; a width of zero leaves nothing. -/
def binary (width n : Nat) : List Char :=
  if width = 0 then [] else (Nat.toDigits 2 n).leftpad width '0'

/-- The `width` lowest digits of a number in base sixteen, highest first. -/
def hexadecimal (width n : Nat) : List Char :=
  (List.range width).reverse.map fun i => Nat.digitChar (n / 16 ^ i % 16)

/-- The value of a decimal digit. -/
def decimalDigit? (c : Char) : Option Nat :=
  if c.isDigit then some (c.toNat - '0'.toNat) else none

/-- The value of a hexadecimal digit. -/
def hexDigit? (c : Char) : Option Nat :=
  if c.isDigit then some (c.toNat - '0'.toNat)
  else if 'a' ≤ c && c ≤ 'f' then some (c.toNat - 'a'.toNat + 10)
  else if 'A' ≤ c && c ≤ 'F' then some (c.toNat - 'A'.toNat + 10)
  else none

/-- The number that a list of digits stands for, after the digits read so
far. -/
def value? (digit? : Char → Option Nat) (base : Nat) :
    List Char → Nat → Option Nat
  | [], n => some n
  | c :: cs, n => (digit? c).bind fun d => value? digit? base cs (n * base + d)

/-- The number that decimal digits stand for; there must be one at least. -/
def decimal? (cs : List Char) : Option Nat :=
  if cs.isEmpty then none else value? decimalDigit? 10 cs 0

/-- The number that hexadecimal digits stand for; there must be one at
least. -/
def hexadecimal? (cs : List Char) : Option Nat :=
  if cs.isEmpty then none else value? hexDigit? 16 cs 0

/-- So many digits are asked for, so many are written. -/
@[simp] theorem length_hexadecimal (width n : Nat) :
    (hexadecimal width n).length = width := by
  simp [hexadecimal]

/-- Digits may be read in two portions. -/
theorem value?_append (digit? : Char → Option Nat) (base : Nat)
    (cs ds : List Char) (n : Nat) :
    value? digit? base (cs ++ ds) n =
      (value? digit? base cs n).bind (value? digit? base ds) := by
  induction cs generalizing n with
  | nil => rfl
  | cons c cs ih =>
    simp only [List.cons_append, value?]
    cases digit? c with
    | none => rfl
    | some d => simp [ih]

/-- The digits of decimal numerals have the values they were written for. -/
theorem decimalDigit?_digitChar {d : Nat} (h : d < 10) :
    decimalDigit? (Nat.digitChar d) = some d := by
  have : d = 0 ∨ d = 1 ∨ d = 2 ∨ d = 3 ∨ d = 4 ∨ d = 5 ∨ d = 6 ∨ d = 7 ∨
      d = 8 ∨ d = 9 := by omega
  rcases this with rfl | rfl | rfl | rfl | rfl | rfl | rfl | rfl | rfl | rfl <;>
    rfl

/-- A decimal numeral reads back as its number. -/
theorem decimal?_decimal (n : Nat) : decimal? (decimal n) = some n := by
  have h : ∀ n, value? decimalDigit? 10 (decimal n) 0 = some n := by
    intro n
    induction n using Nat.strongRecOn with
    | _ n ih =>
      unfold decimal at ih ⊢
      by_cases hn : n < 10
      · rw [Nat.toDigits_of_lt_base hn]
        simp [value?, decimalDigit?_digitChar hn]
      · rw [Nat.toDigits_of_base_le (by omega) (by omega), value?_append,
          ih (n / 10) (by omega)]
        simp [value?, decimalDigit?_digitChar (Nat.mod_lt n (by omega))]
        omega
  have hne : (decimal n).isEmpty = false := by
    simp [decimal, Nat.toDigits_ne_nil]
  simp [decimal?, hne, h]

/-! ### Durations -/

/-- A number of thousandths as decimals after a point, without zeros at the
end; no thousandths leave nothing. -/
def thousandths (n : Nat) : List Char :=
  if n = 0 then []
  else '.' :: dropRight (· = '0') ((decimal n).leftpad 3 '0')

/-- A number of milliseconds as text: in seconds if there is one, else in
milliseconds, and nothing is no nanoseconds. -/
def duration (ms : Nat) : String :=
  String.ofList <|
    if 1000 ≤ ms then decimal (ms / 1000) ++ thousandths (ms % 1000) ++ ['s']
    else if ms = 0 then ['0', 'n', 's']
    else decimal ms ++ ['m', 's']

end BitProbe.Text

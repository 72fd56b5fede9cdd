import BitProbe.Text.Numeral
import Mathlib.Data.Nat.Basic
import Mathlib.Tactic.Common

/-!
The digits of numerals.

A decimal numeral is made of digits, and the first of them is a zero only if
it is the only one. A binary numeral of some width has one digit for each bit
below the width, and a hexadecimal one reads back as what its digits hold.

* `Text.number?`, `Text.number?_repr`: reading a text as a number;
* `Text.isDigit_of_mem_decimal`, `Text.head?_decimal`: the digits of a decimal
  numeral;
* `Text.binary_eq`: the digits of a binary numeral;
* `Text.hexadecimal?_hexadecimal`: reading a hexadecimal numeral.
-/

namespace BitProbe.Text

/-! ### Base ten -/

/-- A number as text is its decimal numeral. -/
@[simp] lemma toList_repr (n : Nat) : n.repr.toList = decimal n := by
  rw [Nat.repr, String.toList_ofList, decimal]

/-- The number that a text stands for in base ten. -/
def number? (s : String) : Option Nat :=
  decimal? s.toList

/-- A number as text reads back as the number. -/
@[simp] lemma number?_repr (n : Nat) : number? n.repr = some n := by
  rw [number?, toList_repr, decimal?_decimal]

lemma isDigit_of_mem_decimal {n : Nat} {c : Char} (h : c ∈ decimal n) :
    c.isDigit = true :=
  Nat.isDigit_of_mem_toDigits (by omega) (Nat.le_refl 10) h

/-- The code points of the digits. -/
lemma toNat_of_isDigit {c : Char} (h : c.isDigit = true) :
    48 ≤ c.toNat ∧ c.toNat ≤ 57 := by
  simp only [Char.isDigit, Bool.and_eq_true, decide_eq_true_eq] at h
  exact ⟨UInt32.le_iff_toNat_le.1 h.1, UInt32.le_iff_toNat_le.1 h.2⟩

lemma decimal_ne_nil (n : Nat) : decimal n ≠ [] :=
  Nat.toDigits_ne_nil

/-- The digits of a numeral have its value. -/
lemma value?_decimal (n : Nat) :
    value? decimalDigit? 10 (decimal n) 0 = some n := by
  have h := decimal?_decimal n
  rwa [decimal?, if_neg (by simpa using decimal_ne_nil n)] at h

/-- Zeros in front of a numeral leave its value. -/
lemma value?_leftpad_decimal (width n : Nat) :
    value? decimalDigit? 10 ((decimal n).leftpad width '0') 0 = some n := by
  have hzeros : ∀ k,
      value? decimalDigit? 10 (List.replicate k '0') 0 = some 0 := by
    intro k
    induction k with
    | zero => rfl
    | succ k ih => exact ih
  rw [List.leftpad, value?_append, hzeros, Option.bind_some, value?_decimal]

/-- The first digit of a numeral with several digits is not a zero. -/
lemma head?_decimal {n : Nat} (h : 10 ≤ n) :
    (decimal n).head? ≠ some '0' := by
  induction n using Nat.strongRecOn with
  | _ n ih =>
      rw [decimal, Nat.toDigits_of_base_le (by omega) h, List.head?_append,
        Option.or_of_isSome (List.isSome_head?.2 Nat.toDigits_ne_nil)]
      by_cases hq : 10 ≤ n / 10
      · exact ih (n / 10) (by omega) hq
      · -- the quotient is one digit between one and nine
        have hlt : n / 10 < 10 := by omega
        have hpos : 0 < n / 10 := by omega
        rw [Nat.toDigits_of_lt_base hlt]
        have hall : ∀ d < 10, 0 < d → [Nat.digitChar d].head? ≠ some '0' := by
          decide
        exact hall _ hlt hpos

/-- A numeral that starts with a zero has no other digit. -/
lemma length_decimal_of_head? {n : Nat} (h : (decimal n).head? = some '0') :
    (decimal n).length = 1 := by
  by_cases hn : 10 ≤ n
  · exact absurd h (head?_decimal hn)
  · rw [decimal, Nat.toDigits_of_lt_base (by omega), List.length_singleton]

/-! ### Base two -/

/-- A bit as a digit. -/
def bitDigit (b : Bool) : Char :=
  if b then '1' else '0'

@[simp] lemma bitDigit_eq_one_iff {b : Bool} : bitDigit b = '1' ↔ b = true := by
  cases b <;> decide

/-- The digit of a number below two is that of its only bit. -/
lemma digitChar_eq_bitDigit {n : Nat} (h : n < 2) :
    Nat.digitChar n = bitDigit (n.testBit 0) := by
  have hall : ∀ n < 2, Nat.digitChar n = bitDigit (n.testBit 0) := by decide
  exact hall n h

/-- The bits of a number from the one with number `width - 1` down. -/
def bitDigits (width n : Nat) : List Char :=
  (List.range width).reverse.map fun i => bitDigit (n.testBit i)

/-- The lowest bit comes last, after the bits of half the number. -/
lemma bitDigits_succ (width n : Nat) :
    bitDigits (width + 1) n =
      bitDigits width (n / 2) ++ [bitDigit (n.testBit 0)] := by
  rw [bitDigits, bitDigits, List.range_succ_eq_map, List.reverse_cons,
    List.map_append, List.map_singleton, ← List.map_reverse, List.map_map]
  simp [Function.comp_def, Nat.testBit_add_one]

lemma bitDigits_zero (width : Nat) :
    bitDigits width 0 = List.replicate width '0' := by
  rw [bitDigits, List.eq_replicate_iff]
  simp [bitDigit]

/-- Filled up with zeros, the digits of a number below `2 ^ width` are its
bits. -/
lemma leftpad_toDigits {width n : Nat} (h : n < 2 ^ width) (hw : 0 < width) :
    (Nat.toDigits 2 n).leftpad width '0' = bitDigits width n := by
  induction width generalizing n with
  | zero => exact absurd hw (Nat.lt_irrefl 0)
  | succ width ih =>
      by_cases hn : n < 2
      · rw [Nat.toDigits_of_lt_base hn, bitDigits_succ,
          Nat.div_eq_of_lt hn, bitDigits_zero, List.leftpad,
          digitChar_eq_bitDigit hn]
        rfl
      · have hw' : 0 < width := by
          by_contra h0
          rw [Nat.eq_zero_of_not_pos h0] at h
          exact hn (by simpa using h)
        have hhalf : n / 2 < 2 ^ width := by
          rw [Nat.pow_succ] at h
          omega
        have hbit : n % 2 < 2 := Nat.mod_lt n (by omega)
        rw [Nat.toDigits_of_base_le (by omega) (Nat.not_lt.1 hn),
          bitDigits_succ, ← ih hhalf hw', digitChar_eq_bitDigit hbit]
        simp [List.leftpad]

/-- A binary numeral of some width has a digit for each bit below it. -/
theorem binary_eq {width n : Nat} (h : n < 2 ^ width) :
    binary width n = bitDigits width n := by
  rw [binary]
  by_cases hw : width = 0
  · rw [if_pos hw, hw]
    rfl
  · rw [if_neg hw, leftpad_toDigits h (Nat.pos_of_ne_zero hw)]

/-! ### Base sixteen -/

/-- Only digits have a value together. -/
lemma isSome_of_value? {digit? : Char → Option Nat} {base before n : Nat}
    {cs : List Char} (h : value? digit? base cs before = some n) :
    ∀ c ∈ cs, (digit? c).isSome = true := by
  induction cs generalizing before with
  | nil => exact fun c hc => absurd hc List.not_mem_nil
  | cons c cs ih =>
      obtain ⟨d, hd, hrest⟩ := Option.bind_eq_some_iff.1 h
      intro x hx
      rcases List.mem_cons.1 hx with rfl | hx
      · rw [hd]
        rfl
      · exact ih hrest x hx

lemma isSome_of_hexadecimal? {cs : List Char} {n : Nat}
    (h : hexadecimal? cs = some n) : ∀ c ∈ cs, (hexDigit? c).isSome = true := by
  rw [hexadecimal?] at h
  split at h
  · cases h
  · exact isSome_of_value? h

lemma hexDigit?_digitChar {d : Nat} (h : d < 16) :
    hexDigit? (Nat.digitChar d) = some d := by
  have hall : ∀ d < 16, hexDigit? (Nat.digitChar d) = some d := by decide
  exact hall d h

/-- A numeral of one digit more has the higher digit in front. -/
lemma hexadecimal_succ (width n : Nat) :
    hexadecimal (width + 1) n =
      Nat.digitChar (n / 16 ^ width % 16) :: hexadecimal width n := by
  rw [hexadecimal, hexadecimal, List.range_succ, List.reverse_append]
  rfl

/-- The value of hexadecimal digits after others. -/
lemma value?_hexadecimal (width n before : Nat) :
    value? hexDigit? 16 (hexadecimal width n) before =
      some (before * 16 ^ width + n % 16 ^ width) := by
  induction width generalizing before with
  | zero => simp [hexadecimal, value?, Nat.mod_one]
  | succ width ih =>
      have hd : n / 16 ^ width % 16 < 16 := Nat.mod_lt _ (by omega)
      rw [hexadecimal_succ, value?, hexDigit?_digitChar hd, Option.bind_some,
        ih, Nat.pow_succ, Nat.mod_mul, Nat.add_mul, Nat.mul_assoc,
        Nat.mul_comm 16, Nat.mul_comm (n / 16 ^ width % 16)]
      congr 1
      omega

/-- A hexadecimal numeral reads back as the number, if it has digits enough
for it. -/
theorem hexadecimal?_hexadecimal {width n : Nat} (hw : 0 < width)
    (h : n < 16 ^ width) : hexadecimal? (hexadecimal width n) = some n := by
  have hne : (hexadecimal width n).isEmpty = false := by
    rw [List.isEmpty_eq_false_iff, ← List.length_pos_iff, length_hexadecimal]
    exact hw
  rw [hexadecimal?, hne]
  simp [value?_hexadecimal, Nat.mod_eq_of_lt h]

end BitProbe.Text

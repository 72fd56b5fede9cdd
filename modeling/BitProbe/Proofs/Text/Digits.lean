import BitProbe.Proofs.Text.Numerals
import BitProbe.Word
import Mathlib.Data.Nat.Digits.Defs
import Mathlib.Tactic.Ring

/-!
Digits of either case in base sixteen.

Such digits have their value by their places, the last of them counting once,
the one before it sixteen times. A word is read from at most sixteen of them,
and it has that value.

* `Text.value?_eq_ofDigits`: the value of digits;
* `Word.read?_of_digits`, `Word.toNat_ofDigits`: the word that is read.
-/

namespace BitProbe

namespace Text

/-- Digits in base sixteen, of either case, are below sixteen. -/
lemma lt_of_hexDigit? {c : Char} {d : Nat} (h : hexDigit? c = some d) :
    d < 16 := by
  have hle : ∀ {a : Char}, c ≤ a → c.toNat ≤ a.toNat := fun h =>
    UInt32.le_iff_toNat_le.1 (Char.le_def.1 h)
  rw [hexDigit?] at h
  split at h
  · rename_i hdigit
    have hnine := (toNat_of_isDigit hdigit).2
    cases h
    show c.toNat - 48 < 16
    omega
  split at h
  · rename_i hsmall
    have hf := hle (of_decide_eq_true (Bool.and_eq_true_iff.1 hsmall).2)
    cases h
    show c.toNat - 97 + 10 < 16
    exact Nat.lt_of_le_of_lt
      (Nat.add_le_add_right (Nat.sub_le_sub_right hf 97) 10) (by decide)
  split at h
  · rename_i hcapital
    have hf := hle (of_decide_eq_true (Bool.and_eq_true_iff.1 hcapital).2)
    cases h
    show c.toNat - 65 + 10 < 16
    exact Nat.lt_of_le_of_lt
      (Nat.add_le_add_right (Nat.sub_le_sub_right hf 65) 10) (by decide)
  · cases h

/-- Digits in base sixteen have their value by their places. -/
lemma value?_eq_ofDigits {cs : List Char}
    (h : ∀ c ∈ cs, (hexDigit? c).isSome = true) (before : Nat) :
    value? hexDigit? 16 cs before = some (before * 16 ^ cs.length +
      Nat.ofDigits 16 (cs.filterMap hexDigit?).reverse) := by
  induction cs generalizing before with
  | nil => simp [value?]
  | cons c cs ih =>
      obtain ⟨d, hd⟩ := Option.isSome_iff_exists.1 (h c List.mem_cons_self)
      have hlen : (cs.filterMap hexDigit?).length = cs.length :=
        List.filterMap_length_eq_length.2 fun x hx =>
          h x (List.mem_cons_of_mem c hx)
      rw [value?, hd, Option.bind_some,
        ih fun x hx => h x (List.mem_cons_of_mem c hx),
        List.filterMap_cons_some hd, List.reverse_cons, Nat.ofDigits_append,
        List.length_reverse, hlen]
      simp
      ring

end Text

namespace Word

/-- The mark of base sixteen and digits of either case, not too many of them,
read as the value that the digits have by their places. -/
theorem read?_of_digits {mark : Char} (hmark : mark = 'x' ∨ mark = 'X')
    {digits : List Char} (hne : digits ≠ []) (hlen : digits.length ≤ 16)
    (hdigit : ∀ c ∈ digits, (Text.hexDigit? c).isSome = true) :
    read? ('0' :: mark :: digits) = some (BitVec.ofNat 64
      (Nat.ofDigits 16 (digits.filterMap Text.hexDigit?).reverse)) := by
  have hbody : afterBaseMark ('0' :: mark :: digits) = digits := by
    rcases hmark with rfl | rfl <;> rfl
  have hplus : afterPlus digits = digits := by
    rw [afterPlus]
    rintro cs rfl
    exact absurd (hdigit '+' List.mem_cons_self) (by decide)
  rw [read?, hbody, if_pos hlen, hplus, Text.hexadecimal?,
    if_neg (by simpa using hne), Text.value?_eq_ofDigits hdigit]
  simp

/-- Sixteen digits do not exceed a word. -/
lemma toNat_ofDigits {digits : List Char} (hlen : digits.length ≤ 16) :
    (BitVec.ofNat 64 (Nat.ofDigits 16
      (digits.filterMap Text.hexDigit?).reverse)).toNat =
      Nat.ofDigits 16 (digits.filterMap Text.hexDigit?).reverse := by
  have hlt : ∀ d ∈ (digits.filterMap Text.hexDigit?).reverse, d < 16 := by
    intro d hd
    obtain ⟨c, -, hc⟩ := List.mem_filterMap.1 (List.mem_reverse.1 hd)
    exact Text.lt_of_hexDigit? hc
  have hfew : (digits.filterMap Text.hexDigit?).reverse.length ≤ 16 := by
    rw [List.length_reverse]
    exact Nat.le_trans (List.length_filterMap_le _ _) hlen
  rw [BitVec.toNat_ofNat]
  refine Nat.mod_eq_of_lt ?_
  calc Nat.ofDigits 16 (digits.filterMap Text.hexDigit?).reverse
      < 16 ^ (digits.filterMap Text.hexDigit?).reverse.length :=
        Nat.ofDigits_lt_base_pow_length (by decide) hlt
    _ ≤ 16 ^ 16 := Nat.pow_le_pow_right (by decide) hfew
    _ = 2 ^ 64 := by decide

end Word

end BitProbe

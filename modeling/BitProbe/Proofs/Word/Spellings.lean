import BitProbe.Proofs.Instruction.Comment
import BitProbe.Proofs.Text.Digits
import Mathlib.Data.List.Forall2

/-!
The texts that are read as words.

Such a text is a mark of base sixteen or none, and then digits of either case,
one at least and sixteen at most. Their value is the word: sixteen digits do not
exceed it. A plus sign before the digits is passed over, although it is no
digit; it counts as one of the sixteen. Any other text is refused with a reason
that cites it, and the text of a word is read as this word.

* `Text.IsHexDigit`, `Text.IsHexNumeral`: digits in base sixteen and what they
  are worth;
* `Text.hexadecimal?_eq_some_iff`: these are the digits that are read;
* `Word.Spells`: the texts of a word;
* `Word.ofString_eq_ok_iff_spells`: these are the texts that are read as it;
* `Word.not_forall_spells`: a text with a sign that is read.
-/

namespace BitProbe

namespace Text

/-- A digit in base sixteen with its value, as a small letter or a capital one
from ten on. -/
def IsHexDigit (c : Char) (d : Nat) : Prop :=
  d < 16 ∧ (c = Nat.digitChar d ∨ c = (Nat.digitChar d).toUpper)

/-- Digits in base sixteen, one at least, with the value that they have by their
places, the last of them counting once. -/
def IsHexNumeral (cs : List Char) (n : Nat) : Prop :=
  cs ≠ [] ∧ ∃ ds, List.Forall₂ IsHexDigit cs ds ∧
    n = Nat.ofDigits 16 ds.reverse

/-- Characters in a range have their numbers in it. -/
lemma toNat_of_mem_range {a b c : Char}
    (h : (decide (a ≤ c) && decide (c ≤ b)) = true) :
    a.toNat ≤ c.toNat ∧ c.toNat ≤ b.toNat := by
  simp only [Bool.and_eq_true, decide_eq_true_eq, Char.le_def] at h
  exact ⟨UInt32.le_iff_toNat_le.1 h.1, UInt32.le_iff_toNat_le.1 h.2⟩

/-- The digits whose value is read are those in base sixteen. -/
lemma hexDigit?_eq_some_iff {c : Char} {d : Nat} :
    hexDigit? c = some d ↔ IsHexDigit c d := by
  constructor
  · intro h
    -- a character with a value stands in one of the three ranges of digits
    have hlt : c.toNat < 128 := by
      rw [hexDigit?] at h
      split_ifs at h with hdigit hsmall hcapital
      · exact Nat.lt_of_le_of_lt (toNat_of_isDigit hdigit).2 (by decide)
      · exact Nat.lt_of_le_of_lt (toNat_of_mem_range hsmall).2 (by decide)
      · exact Nat.lt_of_le_of_lt (toNat_of_mem_range hcapital).2 (by decide)
    have hall : ∀ n < 128, ∀ d < 16, hexDigit? (Char.ofNat n) = some d →
        Char.ofNat n = Nat.digitChar d ∨
          Char.ofNat n = (Nat.digitChar d).toUpper := by
      decide +kernel
    have hd := lt_of_hexDigit? h
    rw [← Char.ofNat_toNat c] at h ⊢
    exact ⟨hd, hall _ hlt d hd h⟩
  · rintro ⟨hd, hc⟩
    have hcapital : ∀ d < 16,
        hexDigit? (Nat.digitChar d).toUpper = some d := by decide
    rcases hc with rfl | rfl
    · exact hexDigit?_digitChar hd
    · exact hcapital d hd

lemma IsHexDigit.ne {c : Char} {d : Nat} (h : IsHexDigit c d) {x : Char}
    (hx : hexDigit? x = none) : c ≠ x := by
  rintro rfl
  rw [hexDigit?_eq_some_iff.2 h] at hx
  cases hx

/-- Digits with their values are characters that have these values. -/
lemma forall₂_isHexDigit_iff {cs : List Char} {ds : List Nat} :
    List.Forall₂ IsHexDigit cs ds ↔
      (∀ c ∈ cs, (hexDigit? c).isSome = true) ∧
        cs.filterMap hexDigit? = ds := by
  induction cs generalizing ds with
  | nil =>
      rw [List.forall₂_nil_left_iff, List.filterMap_nil, @eq_comm _ ds]
      exact ⟨fun h => ⟨fun c hc => absurd hc List.not_mem_nil, h⟩, And.right⟩
  | cons c cs ih =>
      rw [List.forall₂_cons_left_iff, List.forall_mem_cons]
      constructor
      · rintro ⟨d, ds, hd, hds, rfl⟩
        have hvalue := hexDigit?_eq_some_iff.2 hd
        obtain ⟨hsome, hmap⟩ := ih.1 hds
        refine ⟨⟨Option.isSome_iff_exists.2 ⟨d, hvalue⟩, hsome⟩, ?_⟩
        rw [List.filterMap_cons_some hvalue, hmap]
      · rintro ⟨⟨hc, hsome⟩, rfl⟩
        obtain ⟨d, hvalue⟩ := Option.isSome_iff_exists.1 hc
        exact ⟨d, _, hexDigit?_eq_some_iff.1 hvalue, ih.2 ⟨hsome, rfl⟩,
          List.filterMap_cons_some hvalue⟩

/-- The numerals in base sixteen are read, and nothing else is. -/
theorem hexadecimal?_eq_some_iff {cs : List Char} {n : Nat} :
    hexadecimal? cs = some n ↔ IsHexNumeral cs n := by
  rw [hexadecimal?, IsHexNumeral]
  by_cases hne : cs = []
  · simp [hne]
  · rw [if_neg (by simpa using hne)]
    simp only [forall₂_isHexDigit_iff]
    constructor
    · intro h
      have hsome := isSome_of_value? h
      rw [value?_eq_ofDigits hsome, Nat.zero_mul, Nat.zero_add] at h
      exact ⟨hne, _, ⟨hsome, rfl⟩, (Option.some.inj h).symm⟩
    · rintro ⟨-, ds, ⟨hsome, rfl⟩, rfl⟩
      rw [value?_eq_ofDigits hsome, Nat.zero_mul, Nat.zero_add]

/-- What has no value stands in no numeral. -/
lemma IsHexNumeral.not_mem {cs : List Char} {n : Nat} (h : IsHexNumeral cs n)
    {x : Char} (hx : hexDigit? x = none) : x ∉ cs := by
  obtain ⟨-, ds, hds, -⟩ := h
  intro hmem
  have hsome := (forall₂_isHexDigit_iff.1 hds).1 x hmem
  rw [hx] at hsome
  cases hsome

/-- A word has room for what sixteen digits are worth. -/
lemma IsHexNumeral.toNat_ofNat {cs : List Char} {n : Nat}
    (h : IsHexNumeral cs n) (hlen : cs.length ≤ 16) :
    (BitVec.ofNat 64 n).toNat = n := by
  obtain ⟨-, ds, hds, rfl⟩ := h
  rw [← (forall₂_isHexDigit_iff.1 hds).2]
  exact Word.toNat_ofDigits hlen

end Text

namespace Word

open Text (IsHexNumeral)

/-- The marks of base sixteen, and none. -/
def baseMarks : List (List Char) :=
  [[], ['0', 'x'], ['0', 'X']]

/-- A text spells a word with a sign or without: after a mark of base sixteen or
none come the sign and digits, at most sixteen characters, and the value of the
digits is the word. -/
def Spells (sign cs : List Char) (w : Word) : Prop :=
  ∃ mark digits, cs = mark ++ (sign ++ digits) ∧ mark ∈ baseMarks ∧
    (sign ++ digits).length ≤ 16 ∧ IsHexNumeral digits w.toNat

/-! ### Marks and signs -/

/-- The mark is all that is taken off. -/
lemma exists_baseMark (cs : List Char) :
    ∃ mark ∈ baseMarks, cs = mark ++ afterBaseMark cs := by
  rw [afterBaseMark.eq_def]
  split
  · exact ⟨['0', 'x'], by decide, rfl⟩
  · exact ⟨['0', 'X'], by decide, rfl⟩
  · exact ⟨[], by decide, rfl⟩

lemma afterBaseMark_append {mark body : List Char} (hmark : mark ∈ baseMarks)
    (hsmall : 'x' ∉ body) (hcapital : 'X' ∉ body) :
    afterBaseMark (mark ++ body) = body := by
  simp only [baseMarks, List.mem_cons, List.not_mem_nil, or_false] at hmark
  rcases hmark with rfl | rfl | rfl
  · rw [List.nil_append, afterBaseMark.eq_def]
    split
    · simp at hsmall
    · simp at hcapital
    · rfl
  · rfl
  · rfl

/-- The sign is all that is taken off. -/
lemma exists_sign (cs : List Char) :
    ∃ sign, (sign = [] ∨ sign = ['+']) ∧ cs = sign ++ afterPlus cs := by
  rw [afterPlus.eq_def]
  split
  · exact ⟨['+'], .inr rfl, rfl⟩
  · exact ⟨[], .inl rfl, rfl⟩

lemma afterPlus_append {sign digits : List Char}
    (hsign : sign = [] ∨ sign = ['+']) (hplus : '+' ∉ digits) :
    afterPlus (sign ++ digits) = digits := by
  rcases hsign with rfl | rfl
  · rw [List.nil_append, afterPlus.eq_def]
    split
    · simp at hplus
    · rfl
  · rfl

/-! ### Reading -/

/-- What is read as a word spells it. -/
lemma exists_spells {cs : List Char} {w : Word} (h : read? cs = some w) :
    ∃ sign, (sign = [] ∨ sign = ['+']) ∧ Spells sign cs w := by
  rw [read?] at h
  split at h
  · rename_i hlen
    obtain ⟨n, hn, rfl⟩ := Option.map_eq_some_iff.1 h
    obtain ⟨mark, hmark, hcs⟩ := exists_baseMark cs
    obtain ⟨sign, hsign, hbody⟩ := exists_sign (afterBaseMark cs)
    have hnumeral := Text.hexadecimal?_eq_some_iff.1 hn
    have hfew : (afterPlus (afterBaseMark cs)).length ≤ 16 := by
      rw [hbody, List.length_append] at hlen
      omega
    refine ⟨sign, hsign, mark, afterPlus (afterBaseMark cs), ?_, hmark, ?_, ?_⟩
    · rw [← hbody]
      exact hcs
    · rw [← hbody]
      exact hlen
    · rwa [hnumeral.toNat_ofNat hfew]
  · cases h

/-- What spells a word is read as this. -/
lemma Spells.read?_eq {sign cs : List Char} {w : Word}
    (hsign : sign = [] ∨ sign = ['+']) (h : Spells sign cs w) :
    read? cs = some w := by
  obtain ⟨mark, digits, rfl, hmark, hlen, hnumeral⟩ := h
  -- the letter of a mark is neither a sign nor a digit
  have hfree : ∀ x, x ≠ '+' → Text.hexDigit? x = none →
      x ∉ sign ++ digits := by
    intro x hplus hx hmem
    rcases List.mem_append.1 hmem with hmem | hmem
    · rcases hsign with rfl | rfl
      · cases hmem
      · exact hplus (List.mem_singleton.1 hmem)
    · exact hnumeral.not_mem hx hmem
  have hbody : afterBaseMark (mark ++ (sign ++ digits)) = sign ++ digits :=
    afterBaseMark_append hmark (hfree 'x' (by decide) rfl)
      (hfree 'X' (by decide) rfl)
  rw [read?, hbody, if_pos hlen, afterPlus_append hsign (hnumeral.not_mem rfl),
    Text.hexadecimal?_eq_some_iff.2 hnumeral, Option.map_some,
    BitVec.ofNat_toNat, BitVec.setWidth_eq]

/-- A text is read as a word exactly if it spells the word, with a plus sign or
without. -/
lemma read?_eq_some_iff_spells {cs : List Char} {w : Word} :
    read? cs = some w ↔ Spells [] cs w ∨ Spells ['+'] cs w := by
  constructor
  · intro h
    obtain ⟨sign, rfl | rfl, hspells⟩ := exists_spells h
    · exact .inl hspells
    · exact .inr hspells
  · rintro (h | h)
    · exact h.read?_eq (.inl rfl)
    · exact h.read?_eq (.inr rfl)

/-- A text is read as a word exactly if it spells the word, be it with a plus
sign before the digits; any other text is refused and cited as it is; and the
text of a word is read as the word. -/
theorem ofString_eq_ok_iff_spells (s : String) :
    (∀ w, ofString s = .ok w ↔ Spells [] s.toList w ∨ Spells ['+'] s.toList w) ∧
    ((∀ w, ¬ Spells [] s.toList w ∧ ¬ Spells ['+'] s.toList w) →
      ofString s = .error (.invalidEncoding s)) ∧
    ∀ w : Word, ofString w.display = .ok w := by
  have hread : ∀ w, ofString s = .ok w ↔
      Spells [] s.toList w ∨ Spells ['+'] s.toList w := by
    intro w
    rw [← read?_eq_some_iff_spells, ← Reading.ofString_eq_ok_iff,
      String.ofList_toList]
  refine ⟨hread, fun hnone => ?_, fun w => ?_⟩
  · cases h : ofString s with
    | ok w => exact absurd ((hread w).1 h) (not_or.2 (hnone w))
    | error e => rw [Reading.ofString_eq_error h]
  · exact Reading.ofString_eq_ok_iff.2 (read?_displayChars w)

/-- A text with a plus sign is read, although the sign is no digit. -/
theorem not_forall_spells :
    ¬ ∀ s w, ofString s = .ok w → Spells [] s.toList w := by
  intro h
  have hread : ofString "0x+5" = .ok 5#64 := by decide +kernel
  obtain ⟨mark, digits, hcs, hmark, -, hnumeral⟩ := h _ _ hread
  have hmem : '+' ∈ mark ++ digits := by
    rw [List.nil_append] at hcs
    rw [← hcs]
    decide
  rcases List.mem_append.1 hmem with hmem | hmem
  · have hmarks : ∀ mark ∈ baseMarks, '+' ∉ mark := by decide
    exact hmarks mark hmark hmem
  · exact hnumeral.not_mem rfl hmem

end Word

end BitProbe

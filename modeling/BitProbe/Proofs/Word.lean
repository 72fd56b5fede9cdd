import BitProbe.Proofs.Text.Numerals
import BitProbe.Word
import Mathlib.Data.List.Nodup
import Mathlib.Data.List.Perm.Subperm
import Mathlib.Data.List.Range
import Mathlib.Data.Nat.Digits.Defs
import Mathlib.Tactic.Common

/-!
The bits of a word, its bytes and its text.

An assignment to distinct positions replaces exactly the bits there. A word
carries an assignment itself, the one that leaves it as it is, and turning
over one bit of that assignment turns over the bit of the word at its
position.

* `Word.assignmentAt`: the assignment that a word carries at some positions;
* `Word.getLsbD_assign_getElem`, `Word.getLsbD_assign_of_not_mem`: the bits of
  a word with an assignment made;
* `Word.assign_assignmentAt`: making the assignment that is there;
* `Word.assign_assignmentAt_xor`: making it with one bit turned over;
* `Word.assign_assign`, `Word.assign_comm`, `Word.assign_eq_assign_iff`:
  assignments one after another, and equal ones;
* `Word.assign_laws`: all of this at once;
* `Word.ofLeBytes_leBytes`: a word is read back from its bytes;
* `Word.read?_displayChars`: a word is read back from its text.
-/

namespace BitProbe.Word

/-- The assignment that a word carries: bit `j` is the bit of the word at the
`j`-th position. -/
def assignmentAt (w : Word) (positions : List Nat) : Nat :=
  Nat.ofBits fun j : Fin positions.length => w.getLsbD positions[j]

lemma testBit_assignmentAt (w : Word) {positions : List Nat} {j : Nat}
    (hj : j < positions.length) :
    (w.assignmentAt positions).testBit j = w.getLsbD positions[j] := by
  rw [assignmentAt, Nat.testBit_ofBits_lt _ _ hj]
  rfl

lemma assignmentAt_lt (w : Word) (positions : List Nat) :
    w.assignmentAt positions < 2 ^ positions.length :=
  Nat.ofBits_lt_two_pow _

/-- Numbers with so many bits are equal if these are. -/
lemma eq_of_testBit {k v v' : Nat} (hv : v < 2 ^ k) (hv' : v' < 2 ^ k)
    (h : ∀ j < k, v.testBit j = v'.testBit j) : v = v' := by
  refine Nat.eq_of_testBit_eq fun j => ?_
  by_cases hj : j < k
  · exact h j hj
  · have hle := Nat.pow_le_pow_right (by decide : 0 < 2) (Nat.not_lt.1 hj)
    rw [Nat.testBit_lt_two_pow (Nat.lt_of_lt_of_le hv hle),
      Nat.testBit_lt_two_pow (Nat.lt_of_lt_of_le hv' hle)]

/-! ### Bits of a word with an assignment made -/

/-- A position is selected if a set bit of the assignment stands for it. -/
lemma mem_selected {positions : List Nat} {v : Word} {p : Nat} :
    p ∈ selected positions v ↔ ∃ j, positions[j]? = some p ∧ v.getLsbD j := by
  simp only [selected, List.mem_map, List.mem_filter, Prod.exists,
    List.mem_zipIdx_iff_getElem?]
  grind

/-- Where there is no position, an assignment changes nothing. -/
lemma getLsbD_assign_of_not_mem (w : Word) {positions : List Nat} (v : Word)
    {i : Nat} (hi : i ∉ positions) :
    (w.assign positions v).getLsbD i = w.getLsbD i := by
  have hs : i ∉ selected positions v := by
    rw [mem_selected]
    rintro ⟨j, hj, -⟩
    exact hi (List.mem_of_getElem? hj)
  rw [assign, BitVec.getLsbD_or, getLsbD_clear, getLsbD_mask]
  simp [hi, hs]

/-- The bit at the `j`-th of distinct positions is bit `j` of the
assignment. -/
lemma getLsbD_assign_getElem (w : Word) {positions : List Nat} (v : Word)
    (hnd : positions.Nodup) {j : Nat} (hj : j < positions.length)
    (hlt : positions[j] < 64) :
    (w.assign positions v).getLsbD positions[j] = v.getLsbD j := by
  have hs : positions[j] ∈ selected positions v ↔ v.getLsbD j := by
    rw [mem_selected]
    constructor
    · rintro ⟨i, hi, hv⟩
      obtain ⟨hi', he⟩ := List.getElem?_eq_some_iff.1 hi
      rwa [← (List.Nodup.getElem_inj_iff hnd).1 he]
    · exact fun hv => ⟨j, List.getElem?_eq_getElem hj, hv⟩
  rw [assign, BitVec.getLsbD_or, getLsbD_clear, getLsbD_mask]
  simp only [List.getElem_mem, decide_true, Bool.not_true, Bool.and_false,
    Bool.false_or, hlt, Bool.true_and, hs, Bool.decide_eq_true]

/-- Distinct bits of a word are at most sixty-four. -/
lemma length_le_of_nodup {positions : List Nat} (hnd : positions.Nodup)
    (hlt : ∀ p ∈ positions, p < 64) : positions.length ≤ 64 := by
  have h : positions ⊆ List.range 64 :=
    fun p hp => List.mem_range.2 (hlt p hp)
  simpa using (List.Nodup.subperm hnd h).length_le

/-- The same of an assignment that is given as a number. -/
lemma getLsbD_assign_ofNat (w : Word) {positions : List Nat} (v : Nat)
    (hnd : positions.Nodup) (hlt : ∀ p ∈ positions, p < 64) {j : Nat}
    (hj : j < positions.length) :
    (w.assign positions (BitVec.ofNat 64 v)).getLsbD positions[j] =
      v.testBit j := by
  have hlen := length_le_of_nodup hnd hlt
  rw [getLsbD_assign_getElem w _ hnd hj (hlt _ (List.getElem_mem hj)),
    BitVec.getLsbD_ofNat]
  simp [show j < 64 by omega]

/-- A word with an assignment made is known by its bits at the positions and
by agreeing with the old word elsewhere. -/
lemma assign_eq_of {w u v : Word} {positions : List Nat}
    (hnd : positions.Nodup) (hlt : ∀ p ∈ positions, p < 64)
    (hat : ∀ (j : Nat) (hj : j < positions.length),
      u.getLsbD positions[j] = v.getLsbD j)
    (hoff : ∀ i, i ∉ positions → u.getLsbD i = w.getLsbD i) :
    w.assign positions v = u := by
  refine BitVec.eq_of_getLsbD_eq fun i _ => ?_
  by_cases hi : i ∈ positions
  · obtain ⟨j, hj, rfl⟩ := List.mem_iff_getElem.1 hi
    rw [getLsbD_assign_getElem w v hnd hj (hlt _ hi), hat j hj]
  · rw [getLsbD_assign_of_not_mem w v hi, hoff i hi]

/-! ### The assignment that a word carries -/

section Carried

variable (w : Word) {positions : List Nat} (hnd : positions.Nodup)
  (hlt : ∀ p ∈ positions, p < 64)

include hnd hlt

/-- A word that agrees with another one outside the positions comes from it
by making the assignment that it carries. -/
theorem assign_assignmentAt_of_agrees {u : Word}
    (hoff : ∀ i < 64, i ∉ positions → u.getLsbD i = w.getLsbD i) :
    w.assign positions (BitVec.ofNat 64 (u.assignmentAt positions)) = u := by
  have hlen := length_le_of_nodup hnd hlt
  refine assign_eq_of hnd hlt (fun j hj => ?_) fun i hi => ?_
  · rw [BitVec.getLsbD_ofNat, testBit_assignmentAt u hj]
    simp [show j < 64 by omega]
  · by_cases h64 : i < 64
    · exact hoff i h64 hi
    · rw [BitVec.getLsbD_of_ge u i (by omega),
        BitVec.getLsbD_of_ge w i (by omega)]

/-- Making the assignment that a word carries leaves the word as it is. -/
theorem assign_assignmentAt :
    w.assign positions (BitVec.ofNat 64 (w.assignmentAt positions)) = w :=
  assign_assignmentAt_of_agrees w hnd hlt fun _ _ _ => rfl

/-- Making the assignment that a word carries with bit `j` turned over turns
over the bit of the word at the `j`-th position. -/
theorem assign_assignmentAt_xor {j : Nat} (hj : j < positions.length) :
    w.assign positions
        (BitVec.ofNat 64 (w.assignmentAt positions ^^^ 2 ^ j)) =
      w.flip positions[j] := by
  have hlen := length_le_of_nodup hnd hlt
  refine assign_eq_of hnd hlt (fun i hi => ?_) fun i hi => ?_
  · have hinj : positions[i] = positions[j] ↔ i = j :=
      List.Nodup.getElem_inj_iff hnd
    have hi64 : positions[i] < 64 := hlt _ (List.getElem_mem hi)
    rw [getLsbD_flip, BitVec.getLsbD_ofNat, Nat.testBit_xor,
      testBit_assignmentAt w hi, Nat.testBit_two_pow]
    simp [show i < 64 by omega, hi64, hinj, eq_comm]
  · have hne : i ≠ positions[j] := by
      rintro rfl
      exact hi (List.getElem_mem hj)
    rw [getLsbD_flip]
    simp [hne]

end Carried

/-- With one bit turned over an assignment is still one to as many
positions. -/
lemma assignmentAt_xor_lt (w : Word) {positions : List Nat} {j : Nat}
    (hj : j < positions.length) :
    w.assignmentAt positions ^^^ 2 ^ j < 2 ^ positions.length :=
  Nat.xor_lt_two_pow (w.assignmentAt_lt positions)
    (Nat.pow_lt_pow_right (by omega) hj)

/-! ### Assignments one after another -/

/-- At a position, an assignment leaves nothing of the old word. -/
lemma getLsbD_assign_of_mem (w : Word) {positions : List Nat} (v : Word)
    {i : Nat} (hi : i ∈ positions) :
    (w.assign positions v).getLsbD i =
      (decide (i < 64) && decide (i ∈ selected positions v)) := by
  rw [assign, BitVec.getLsbD_or, getLsbD_clear, getLsbD_mask]
  simp [hi]

/-- Of two assignments to the same positions the second one counts. -/
theorem assign_assign (w v u : Word) (positions : List Nat) :
    (w.assign positions v).assign positions u = w.assign positions u := by
  refine BitVec.eq_of_getLsbD_eq fun i _ => ?_
  by_cases hi : i ∈ positions
  · rw [getLsbD_assign_of_mem _ u hi, getLsbD_assign_of_mem _ u hi]
  · rw [getLsbD_assign_of_not_mem _ u hi, getLsbD_assign_of_not_mem _ v hi,
      getLsbD_assign_of_not_mem _ u hi]

/-- Assignments that have no position in common can be made in either order. -/
theorem assign_comm {p q : List Nat} (h : p.Disjoint q) (w v u : Word) :
    (w.assign p v).assign q u = (w.assign q u).assign p v := by
  refine BitVec.eq_of_getLsbD_eq fun i _ => ?_
  by_cases hp : i ∈ p
  · have hq : i ∉ q := fun hq => h hp hq
    rw [getLsbD_assign_of_not_mem _ u hq, getLsbD_assign_of_mem _ v hp,
      getLsbD_assign_of_mem _ v hp]
  · rw [getLsbD_assign_of_not_mem _ v hp]
    by_cases hq : i ∈ q
    · rw [getLsbD_assign_of_mem _ u hq, getLsbD_assign_of_mem _ u hq]
    · rw [getLsbD_assign_of_not_mem _ u hq, getLsbD_assign_of_not_mem _ v hp,
        getLsbD_assign_of_not_mem _ u hq]

/-- Assignments to distinct positions make the same word exactly if they have
the same bits for these. -/
theorem assign_eq_assign_iff (w : Word) {positions : List Nat}
    (hnd : positions.Nodup) (hlt : ∀ p ∈ positions, p < 64) {v u : Word} :
    w.assign positions v = w.assign positions u ↔
      ∀ j < positions.length, v.getLsbD j = u.getLsbD j := by
  have hbit : ∀ (a : Word) {j : Nat} (hj : j < positions.length),
      (w.assign positions a).getLsbD positions[j] = a.getLsbD j :=
    fun a j hj => getLsbD_assign_getElem w a hnd hj (hlt _ (List.getElem_mem hj))
  constructor
  · intro h j hj
    rw [← hbit v hj, h, hbit u hj]
  · intro h
    refine assign_eq_of hnd hlt (fun j hj => ?_) fun i hi => ?_
    · rw [hbit u hj, h j hj]
    · exact getLsbD_assign_of_not_mem w u hi

/-- The laws of assignments to distinct positions. An assignment replaces the
bits there with its own, in their order, and no others; a second one replaces the
first; two make the same word exactly if they agree on as many low bits as there
are positions. The assignment that a word carries leaves it as it is, and with
bit `j` turned over it flips the `j`-th position. Assignments without a common
position can be made in either order. -/
theorem assign_laws (e : Word) {p : List Nat} (hnd : p.Nodup)
    (hlt : ∀ i ∈ p, i < 64) :
    let v₀ : Word := BitVec.ofNat 64 (e.assignmentAt p)
    (∀ v : Word,
      (∀ (j : Nat) (hj : j < p.length),
        (e.assign p v).getLsbD p[j] = v.getLsbD j) ∧
      ∀ i ∉ p, (e.assign p v).getLsbD i = e.getLsbD i) ∧
    (∀ v w : Word,
      (e.assign p v).assign p w = e.assign p w ∧
      (e.assign p v = e.assign p w ↔
        ∀ j < p.length, v.getLsbD j = w.getLsbD j)) ∧
    (e.assignmentAt p < 2 ^ p.length ∧
      (∀ (j : Nat) (hj : j < p.length), v₀.getLsbD j = e.getLsbD p[j]) ∧
      e.assign p v₀ = e ∧
      ∀ (j : Nat) (hj : j < p.length),
        e.assign p (v₀ ^^^ BitVec.twoPow 64 j) = e.flip p[j]) ∧
    ∀ q : List Nat, p.Disjoint q → ∀ v w : Word,
      (e.assign p v).assign q w = (e.assign q w).assign p v := by
  intro v₀
  have hlen := length_le_of_nodup hnd hlt
  refine ⟨fun v => ⟨fun j hj => ?_, fun i hi => ?_⟩, fun v w => ⟨?_, ?_⟩,
    ⟨assignmentAt_lt e p, fun j hj => ?_, ?_, fun j hj => ?_⟩,
    fun q hq v w => assign_comm hq e v w⟩
  · exact getLsbD_assign_getElem e v hnd hj (hlt _ (List.getElem_mem hj))
  · exact getLsbD_assign_of_not_mem e v hi
  · exact assign_assign e v w p
  · exact assign_eq_assign_iff e hnd hlt
  · rw [BitVec.getLsbD_ofNat, testBit_assignmentAt e hj]
    simp [show j < 64 by omega]
  · exact assign_assignmentAt e hnd hlt
  · have hpow : BitVec.ofNat 64 (2 ^ j) = BitVec.twoPow 64 j :=
      BitVec.eq_of_toNat_eq (by rw [BitVec.toNat_ofNat, BitVec.toNat_twoPow])
    rw [← hpow, ← BitVec.ofNat_xor, assign_assignmentAt_xor e hnd hlt hj]

/-- Positions that descend, and one between them. -/
theorem assign_laws_descending :
    let e : Word := 0x88#64
    [7, 3].Nodup ∧ (∀ i ∈ [7, 3], i < 64) ∧ [7, 3].Disjoint [5] ∧
      e.assign [7, 3] (BitVec.ofNat 64 (e.assignmentAt [7, 3]) ^^^
        BitVec.twoPow 64 0) = e.flip 7 ∧
      (e.assign [7, 3] 2#64).assign [5] 1#64 =
        (e.assign [5] 1#64).assign [7, 3] 2#64 := by
  intro e
  have hnd : [7, 3].Nodup := by decide
  have hlt : ∀ i ∈ [7, 3], i < 64 := by decide
  have hdisjoint : [7, 3].Disjoint [5] := by simp
  obtain ⟨-, -, ⟨-, -, -, hflip⟩, hcomm⟩ := assign_laws e hnd hlt
  exact ⟨hnd, hlt, hdisjoint, hflip 0 (by decide),
    hcomm [5] hdisjoint 2#64 1#64⟩

/-! ### Words as bytes -/

/-- The word whose bytes these are, lowest first. -/
def ofLeBytes (bytes : List UInt8) : Word :=
  BitVec.ofNat 64 (Nat.ofDigits 256 (bytes.map UInt8.toNat))

/-- The lowest digits of a number are those of its remainder. -/
lemma ofDigits_range (n k : Nat) :
    Nat.ofDigits 256 ((List.range k).map fun i => n / 256 ^ i % 256) =
      n % 256 ^ k := by
  induction k with
  | zero => rw [List.range_zero, List.map_nil, Nat.ofDigits_nil, pow_zero,
      Nat.mod_one]
  | succ k ih =>
      rw [List.range_succ, List.map_append, List.map_singleton,
        Nat.ofDigits_append, ih, Nat.ofDigits_singleton, List.length_map,
        List.length_range, Nat.mod_pow_succ]

/-- A word is read back from its bytes. -/
theorem ofLeBytes_leBytes (w : Word) : ofLeBytes w.leBytes = w := by
  have hdigits : w.leBytes.map UInt8.toNat =
      (List.range 8).map fun i => w.toNat / 256 ^ i % 256 := by
    rw [leBytes, List.map_map]
    rfl
  have hlt : w.toNat < 256 ^ 8 := w.isLt
  rw [ofLeBytes, hdigits, ofDigits_range, Nat.mod_eq_of_lt hlt,
    BitVec.ofNat_toNat, BitVec.setWidth_eq]

/-! ### Words as text -/

/-- A word is written with digits only, none of which is a plus sign. -/
lemma afterPlus_hexadecimal (width n : Nat) :
    afterPlus (Text.hexadecimal width n) = Text.hexadecimal width n := by
  cases width with
  | zero => rfl
  | succ width =>
      have hdigit : ∀ d < 16, Nat.digitChar d ≠ '+' := by decide
      have hne := hdigit _ (Nat.mod_lt (n / 16 ^ width) (by omega))
      rw [Text.hexadecimal_succ, afterPlus]
      exact fun cs h => hne (List.cons.inj h).1

/-- A word is read back from its text. -/
theorem read?_displayChars (w : Word) : read? w.displayChars = some w := by
  have hbody : afterBaseMark w.displayChars = Text.hexadecimal 16 w.toNat :=
    rfl
  have hlt : w.toNat < 16 ^ 16 := w.isLt
  rw [read?, hbody, Text.length_hexadecimal, if_pos (Nat.le_refl 16),
    afterPlus_hexadecimal, Text.hexadecimal?_hexadecimal (by omega) hlt,
    Option.map_some, BitVec.ofNat_toNat, BitVec.setWidth_eq]

end BitProbe.Word

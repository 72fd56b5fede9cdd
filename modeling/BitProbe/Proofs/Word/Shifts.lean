import BitProbe.Proofs.Word
import BitProbe.Proofs.Reading

/-!
Words by checked shifts.

A word can be shifted by less than its width; by more, it is not agreed what
comes out. Here shifting is stuck unless the amount is below the width, and the
operations on words are put together from such shifts: a bit is set by a one
that is shifted to its place, and read by shifting it to place zero. So an
operation that comes to something has kept to the bound in each of its shifts.

* `Checked`: what checked steps come to;
* `Checked.shiftLeft`, `Checked.shiftRight`: the shifts;
* `Checked.flip`, `Checked.mask`, `Checked.clear`, `Checked.bits`,
  `Checked.assign`: operations on words by means of them;
* `Checked.flip_eq`, `Checked.mask_eq`, `Checked.clear_eq`, `Checked.bits_eq`,
  `Checked.assign_eq`: for places within a word, none of them is stuck, and they
  come to the same as without checks;
* `Checked.isSome_flip_iff`, `Checked.isSome_assign_iff`: for other places they
  are stuck.
-/

namespace BitProbe

/-- What checked steps come to: something, or nothing if one of them was
stuck. -/
abbrev Checked : Type → Type := Option

namespace Checked

/-! ### Shifts -/

/-- A word shifted to the left; stuck if the amount reaches the width. -/
def shiftLeft (w : Word) (amount : Nat) : Checked Word :=
  if amount < Word.width then some (w <<< amount) else none

/-- A word shifted to the right; stuck if the amount reaches the width. -/
def shiftRight (w : Word) (amount : Nat) : Checked Word :=
  if amount < Word.width then some (w >>> amount) else none

/-- A one shifted to a place within a word. -/
lemma shiftLeft_one {i : Nat} (h : i < 64) :
    shiftLeft 1#64 i = some (BitVec.twoPow 64 i) := by
  rw [shiftLeft, if_pos (show i < Word.width from h), BitVec.twoPow_eq]

/-! ### Operations on words -/

/-- The word with bit `i` turned over. -/
def flip (w : Word) (i : Nat) : Checked Word := do
  let bit ← shiftLeft 1#64 i
  pure (w ^^^ bit)

/-- A word with one more bit set. -/
def setBit (m : Word) (p : Nat) : Checked Word := do
  let bit ← shiftLeft 1#64 p
  pure (m ||| bit)

/-- The word whose bits are set exactly at the positions listed. -/
def mask (positions : List Nat) : Checked Word :=
  positions.foldlM setBit 0#64

/-- The word with every bit listed cleared. -/
def clear (w : Word) (positions : List Nat) : Checked Word := do
  let m ← mask positions
  pure (w &&& ~~~ m)

/-- Whether bit `j` of an assignment is set. -/
def bitAt (assignment : Word) (j : Nat) : Checked Bool := do
  let shifted ← shiftRight assignment j
  pure (shifted &&& 1#64 == 1#64)

/-- The lowest `n` bits of an assignment, from the lowest. -/
def bits (n : Nat) (assignment : Word) : Checked (List Bool) :=
  (List.range n).mapM (bitAt assignment)

/-- The word whose bit at the `j`-th position listed is bit `j` of the
assignment, and which is otherwise unchanged. -/
def assign (w : Word) (positions : List Nat) (assignment : Word) :
    Checked Word := do
  let base ← clear w positions
  let marks ← bits positions.length assignment
  let m ← mask (((positions.zip marks).filter (·.2)).map (·.1))
  pure (base ||| m)

/-! ### Places within a word -/

/-- Every bit of a word can be flipped. -/
lemma flip_eq (w : Word) {i : Nat} (h : i < 64) :
    flip w i = some (w.flip i) := by
  rw [flip, shiftLeft_one h]
  rfl

/-- Positions within a word are put together to a mask, one after another. -/
lemma mask_eq {positions : List Nat} (h : ∀ p ∈ positions, p < 64) :
    mask positions = some (Word.mask positions) := by
  -- the induction is on the positions, from any bits that are set already
  have hfold : ∀ m : Word, positions.foldlM setBit m =
      some (positions.foldl (fun m p => m ||| BitVec.twoPow 64 p) m) := by
    induction positions with
    | nil => exact fun m => rfl
    | cons p ps ih =>
        intro m
        rw [List.foldlM_cons, setBit, shiftLeft_one (h p List.mem_cons_self)]
        exact ih (fun q hq => h q (List.mem_cons_of_mem p hq)) _
  exact hfold 0#64

/-- They can be cleared. -/
lemma clear_eq (w : Word) {positions : List Nat}
    (h : ∀ p ∈ positions, p < 64) :
    clear w positions = some (w.clear positions) := by
  rw [clear, mask_eq h]
  rfl

/-- Every bit of an assignment can be read. -/
lemma bitAt_eq (v : Word) {j : Nat} (h : j < 64) :
    bitAt v j = some (v.getLsbD j) := by
  have hlow : (v >>> j).getLsbD 0 = v.getLsbD j := by
    rw [BitVec.getLsbD_ushiftRight, Nat.add_zero]
  rw [bitAt, shiftRight, if_pos (show j < Word.width from h),
    Option.bind_eq_bind, Option.bind_some, Option.pure_def,
    BitVec.and_one_eq_setWidth_ofBool_getLsbD, hlow]
  cases v.getLsbD j <;> rfl

/-- So can as many bits as a word has. -/
lemma bits_eq {n : Nat} (v : Word) (h : n ≤ 64) :
    bits n v = some ((List.range n).map v.getLsbD) := by
  exact mapM_eq_some_map fun j hj =>
    bitAt_eq v (Nat.lt_of_lt_of_le (List.mem_range.1 hj) h)

/-- The positions that the bits of an assignment mark. -/
lemma marked_range (positions : List Nat) (v : Word) :
    ((positions.zip ((List.range positions.length).map v.getLsbD)).filter
      (·.2)).map (·.1) = Word.selected positions v := by
  rw [Word.selected, List.zipIdx_eq_zip_range', List.range_eq_range',
    List.zip_map_right, List.filter_map, List.map_map]
  rfl

/-- Positions within a word, as many as a word has at most, can be assigned. -/
lemma assign_eq (w : Word) {positions : List Nat} (v : Word)
    (hlt : ∀ p ∈ positions, p < 64) (hlen : positions.length ≤ 64) :
    assign w positions v = some (w.assign positions v) := by
  have hselected : ∀ p ∈ Word.selected positions v, p < 64 := by
    intro p hp
    obtain ⟨j, hj, -⟩ := Word.mem_selected.1 hp
    exact hlt p (List.mem_of_getElem? hj)
  rw [assign, clear_eq w hlt, Option.bind_eq_bind, Option.bind_some,
    bits_eq v hlen, Option.bind_eq_bind, Option.bind_some, marked_range,
    mask_eq hselected]
  rfl

/-! ### Places past a word -/

/-- An amount that reaches the width of a word is too large. -/
lemma shiftLeft_of_le (w : Word) {amount : Nat} (h : 64 ≤ amount) :
    shiftLeft w amount = none :=
  if_neg (Nat.not_lt.2 h)

@[inherit_doc shiftLeft_of_le]
lemma shiftRight_of_le (w : Word) {amount : Nat} (h : 64 ≤ amount) :
    shiftRight w amount = none :=
  if_neg (Nat.not_lt.2 h)

/-- A bit that is flipped is one of a word. -/
theorem isSome_flip_iff (w : Word) (i : Nat) :
    (flip w i).isSome = true ↔ i < 64 := by
  by_cases h : i < 64
  · simp [flip_eq w h, h]
  · rw [flip, shiftLeft_of_le _ (Nat.not_lt.1 h)]
    simp [h]

/-- So are the bits of a mask. -/
lemma isSome_mask_iff (positions : List Nat) :
    (mask positions).isSome = true ↔ ∀ p ∈ positions, p < 64 := by
  have hfold : ∀ m : Word, (positions.foldlM setBit m).isSome = true →
      ∀ p ∈ positions, p < 64 := by
    induction positions with
    | nil => simp
    | cons p ps ih =>
        intro m hm
        rw [List.foldlM_cons, setBit] at hm
        by_cases hp : p < 64
        · rw [shiftLeft_one hp] at hm
          exact List.forall_mem_cons.2 ⟨hp, ih _ hm⟩
        · rw [shiftLeft_of_le _ (Nat.not_lt.1 hp)] at hm
          cases hm
  refine ⟨hfold 0#64, fun h => ?_⟩
  rw [mask_eq h]
  rfl

/-- And no more bits of an assignment are read than it has. -/
lemma isSome_bits_iff (n : Nat) (v : Word) :
    (bits n v).isSome = true ↔ n ≤ 64 := by
  refine ⟨fun h => Nat.not_lt.1 fun hn => ?_, fun h => by rw [bits_eq v h]; rfl⟩
  obtain ⟨marks, hmarks⟩ := Option.isSome_iff_exists.1 h
  have hread := congrArg (·[64]?) (mapM_eq_some_iff.1 hmarks)
  have hstuck : bitAt v 64 = none := by
    rw [bitAt, shiftRight_of_le v (Nat.le_refl 64)]
    rfl
  simp [hn, hstuck] at hread

/-- Assigning comes to something exactly for positions within a word, of which
there are no more than a word has. -/
theorem isSome_assign_iff (w : Word) (positions : List Nat) (v : Word) :
    (assign w positions v).isSome = true ↔
      (∀ p ∈ positions, p < 64) ∧ positions.length ≤ 64 := by
  refine ⟨fun h => ?_, fun h => by rw [assign_eq w v h.1 h.2]; rfl⟩
  rw [← isSome_mask_iff, ← isSome_bits_iff _ v]
  rw [assign, clear] at h
  cases hmask : mask positions with
  | none => simp [hmask] at h
  | some m =>
      cases hbits : bits positions.length v with
      | none => simp [hmask, hbits] at h
      | some marks => exact ⟨rfl, rfl⟩

end Checked

end BitProbe

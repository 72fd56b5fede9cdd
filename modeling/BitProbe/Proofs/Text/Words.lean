import BitProbe.Proofs.Text.Numerals
import BitProbe.Text.Blank
import BitProbe.Text.Lines
import Mathlib.Tactic.Common

/-!
Words and lines.

A word is not empty and holds no blank. Words with one blank between each two
are cut into the same words again. A text without line feeds stays on one
line. What is put together from such texts is such a text, and so are numerals,
words and what is left of such a text when its ends are cut off.

* `Text.IsWord`;
* `Text.words_intercalate`, `Text.wordsOf_intercalate`: cutting undoes
  joining;
* `Text.IsLine`;
* `Text.isLine_append`, `Text.isLine_intercalate`: put together;
* `Text.isLine_repr`, `Text.IsWord.isLine`, `Text.trim_subset`: what is one
  line.
-/

namespace BitProbe.Text

/-! ### Putting together -/

/-- What is joined has no elements but those of the parts and of what stands
between them. -/
lemma mem_of_mem_intercalate {α : Type} {sep : List α} {ls : List (List α)}
    {a : α} (h : a ∈ sep.intercalate ls) : a ∈ sep ∨ ∃ l ∈ ls, a ∈ l := by
  induction ls with
  | nil => cases h
  | cons l ls ih =>
      cases ls with
      | nil =>
          rw [List.intercalate_singleton] at h
          exact .inr ⟨l, List.mem_cons_self, h⟩
      | cons m ms =>
          rw [List.intercalate_cons_cons, List.mem_append,
            List.mem_append] at h
          rcases h with (h | h) | h
          · exact .inr ⟨l, List.mem_cons_self, h⟩
          · exact .inl h
          · obtain hsep | ⟨k, hk, hmem⟩ := ih h
            · exact .inl hsep
            · exact .inr ⟨k, List.mem_cons_of_mem l hk, hmem⟩

/-! ### Words -/

/-- A text that is one word. -/
def IsWord (cs : List Char) : Prop :=
  cs ≠ [] ∧ ∀ c ∈ cs, isBlank c = false

instance (cs : List Char) : Decidable (IsWord cs) :=
  decidable_of_iff (cs ≠ [] ∧ (cs.all fun c => !isBlank c) = true)
    (by simp [IsWord])

lemma isWord_of_mem_words {cs w : List Char} (h : w ∈ words cs) : IsWord w :=
  ⟨ne_nil_of_mem_words h, not_isBlank_of_mem_words h⟩

lemma isWord_of_mem_wordsOf {s w : String} (h : w ∈ wordsOf s) :
    IsWord w.toList := by
  obtain ⟨cs, hcs, rfl⟩ := List.mem_map.1 h
  rw [String.toList_ofList]
  exact isWord_of_mem_words hcs

/-- A word is cut into itself. -/
lemma words_of_isWord {w : List Char} (h : IsWord w) : words w = [w] := by
  rw [words, List.splitOnP_eq_singleton h.2]
  simp [h.1]

/-- A word before a blank is cut off. -/
lemma words_append_cons {w : List Char} (h : IsWord w) {b : Char}
    (hb : isBlank b = true) (cs : List Char) :
    words (w ++ b :: cs) = w :: words cs := by
  rw [words, List.splitOnP_append_cons_of_forall_mem h.2 b hb,
    List.filter_cons_of_pos (by simp [h.1]), words]

/-- Words with one blank between each two are cut into these words. -/
lemma words_intercalate {ws : List (List Char)} (h : ∀ w ∈ ws, IsWord w) :
    words ([' '].intercalate ws) = ws := by
  induction ws with
  | nil => rfl
  | cons w ws ih =>
      have hw := h w (by simp)
      have hws := ih fun v hv => h v (by simp [hv])
      cases ws with
      | nil => rw [List.intercalate_singleton, words_of_isWord hw]
      | cons v vs =>
          rw [List.intercalate_cons_cons, List.append_assoc,
            List.singleton_append, words_append_cons hw (by decide), hws]

lemma wordsOf_intercalate {ws : List String}
    (h : ∀ w ∈ ws, IsWord w.toList) :
    wordsOf (String.intercalate " " ws) = ws := by
  have hmap : ∀ w ∈ ws.map String.toList, IsWord w := by
    intro w hw
    obtain ⟨s, hs, rfl⟩ := List.mem_map.1 hw
    exact h s hs
  rw [wordsOf, String.toList_intercalate, show " ".toList = [' '] from rfl,
    words_intercalate hmap, List.map_map]
  simp [Function.comp_def]

/-! ### Lines -/

/-- A text without line feeds. -/
def IsLine (s : String) : Prop :=
  '\n' ∉ s.toList

instance (s : String) : Decidable (IsLine s) :=
  inferInstanceAs (Decidable (¬ _))

@[simp] lemma isLine_ofList (cs : List Char) :
    IsLine (String.ofList cs) ↔ '\n' ∉ cs := by
  rw [IsLine, String.toList_ofList]

@[simp] lemma isLine_append (s t : String) :
    IsLine (s ++ t) ↔ IsLine s ∧ IsLine t := by
  rw [IsLine, String.toList_append, List.mem_append, not_or]
  rfl

/-- Lines with a line between each two. -/
lemma isLine_intercalate {sep : String} {ss : List String}
    (hsep : IsLine sep) (h : ∀ s ∈ ss, IsLine s) :
    IsLine (String.intercalate sep ss) := by
  rw [IsLine, String.toList_intercalate]
  intro hmem
  rcases mem_of_mem_intercalate hmem with hmem | ⟨cs, hcs, hmem⟩
  · exact hsep hmem
  · obtain ⟨s, hs, rfl⟩ := List.mem_map.1 hcs
    exact h s hs hmem

/-- A numeral is on one line. -/
@[simp] lemma isLine_repr (n : Nat) : IsLine n.repr := by
  rw [IsLine, toList_repr]
  intro h
  exact absurd (isDigit_of_mem_decimal h) (by decide)

/-- A word is on one line. -/
lemma IsWord.not_mem_lineFeed {cs : List Char} (h : IsWord cs) : '\n' ∉ cs :=
  fun hmem => absurd (h.2 _ hmem) (by decide)

/-- Cutting off the blanks at the ends adds nothing. -/
lemma trim_subset (cs : List Char) : trim cs ⊆ cs :=
  fun _ h => (List.dropWhile_suffix isBlank).subset
    ((dropRight_isPrefix isBlank _).subset h)

end BitProbe.Text

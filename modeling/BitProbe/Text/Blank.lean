/-!
Blank characters, and cutting text at them.

* `isBlank`: the characters with Unicode's White_Space property;
* `trim`: a text without the blanks at its two ends;
* `words`: the maximal runs of other characters, so that no word is empty
  and none holds a blank (`mem_words`);
* `dropRight`: `List.dropWhile` from the other end.
-/

namespace BitProbe.Text

/-- The ranges of code points, both ends included, that have the
White_Space property. -/
def blankRanges : List (Nat × Nat) :=
  [(0x09, 0x0D), (0x20, 0x20), (0x85, 0x85), (0xA0, 0xA0), (0x1680, 0x1680),
   (0x2000, 0x200A), (0x2028, 0x2029), (0x202F, 0x202F), (0x205F, 0x205F),
   (0x3000, 0x3000)]

/-- A character is blank when it has the White_Space property. -/
def isBlank (c : Char) : Bool :=
  blankRanges.any fun r => r.1 ≤ c.toNat && c.toNat ≤ r.2

/-- What is left of a list once the longest tail satisfying `p` is gone. -/
def dropRight {α : Type} (p : α → Bool) (l : List α) : List α :=
  (l.reverse.dropWhile p).reverse

/-- A text without its leading and trailing blanks. -/
def trim (cs : List Char) : List Char :=
  dropRight isBlank (cs.dropWhile isBlank)

/-- The words of a text: what lies between blanks, empty pieces left out. -/
def words (cs : List Char) : List (List Char) :=
  (cs.splitOnP isBlank).filter fun w => !w.isEmpty

/-- The words of a string. -/
def wordsOf (s : String) : List String :=
  (words s.toList).map String.ofList

/-- A string without its leading and trailing blanks. -/
def trimmed (s : String) : String :=
  String.ofList (trim s.toList)

/-- The blanks of the ASCII range are blanks here too. -/
theorem isBlank_of_isWhitespace {c : Char} (h : c.isWhitespace) :
    isBlank c = true := by
  simp only [Char.isWhitespace, Bool.or_eq_true, decide_eq_true_eq,
    or_assoc] at h
  rcases h with rfl | rfl | rfl | rfl <;> decide

/-- Cutting off a tail leaves an initial part. -/
theorem dropRight_isPrefix {α : Type} (p : α → Bool) (l : List α) :
    (dropRight p l).IsPrefix l := by
  have h : l.reverse.dropWhile p <:+ l.reverse := List.dropWhile_suffix p
  simpa [dropRight] using List.reverse_prefix.2 h

/-- No word is empty. -/
theorem ne_nil_of_mem_words {cs w : List Char} (h : w ∈ words cs) :
    w ≠ [] := by
  have h' := (List.mem_filter.1 h).2
  intro hw
  simp [hw] at h'

/-- Every word lies inside the text between two cuts, so it holds no
blank. -/
theorem not_isBlank_of_mem_words {cs w : List Char} (h : w ∈ words cs) :
    ∀ c ∈ w, isBlank c = false := by
  have h' := (List.mem_filter.1 h).1
  clear h
  induction cs generalizing w with
  | nil => simp_all
  | cons a cs ih =>
    rw [List.splitOnP_cons_eq_if_modifyHead] at h'
    split at h'
    · rcases List.mem_cons.1 h' with rfl | h'
      · simp
      · exact ih h'
    · rename_i ha
      cases hs : cs.splitOnP isBlank with
      | nil => simp [hs] at h'
      | cons v vs =>
        rw [hs, List.modifyHead_cons, List.mem_cons] at h'
        rcases h' with rfl | h'
        · intro c hc
          rcases List.mem_cons.1 hc with rfl | hc
          · simpa using ha
          · exact ih (by simp [hs]) c hc
        · exact ih (by simp [hs, h'])

end BitProbe.Text

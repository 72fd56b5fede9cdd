/-!
Lines of a text and of a byte string.

A line ends at a line feed, and a carriage return right before the line feed
is part of the ending; the last line needs no ending.

* `pieces`: what the separators end, together with what follows the last of
  them unless that is nothing;
* `chomp`: a line without one trailing carriage return;
* `lines`, `linesOf`: the lines of a text and of a string.

Ending the last piece as well adds nothing to the cuts
(`pieces_append_separator`), and a piece never holds its separator
(`not_mem_of_mem_pieces`).
-/

namespace BitProbe.Text

/-- The pieces of a list that end at `sep`, the separators left out. What
follows the last separator counts as a piece unless it is empty. -/
def pieces {α : Type} [BEq α] (sep : α) (xs : List α) : List (List α) :=
  let parts := xs.splitOn sep
  if parts.getLast?.any List.isEmpty then parts.dropLast else parts

/-- A line without one trailing carriage return. -/
def chomp {α : Type} [DecidableEq α] (cr : α) (l : List α) : List α :=
  if l.getLast? = some cr then l.dropLast else l

/-- The lines of a text. -/
def lines (cs : List Char) : List (List Char) :=
  (pieces '\n' cs).map (chomp '\r')

/-- The lines of a string. -/
def linesOf (s : String) : List String :=
  (lines s.toList).map String.ofList

/-- An empty list has no pieces. -/
theorem pieces_nil {α : Type} [BEq α] (sep : α) :
    pieces sep ([] : List α) = [] := by
  simp [pieces]

/-- A separator at the very end only ends what was there. -/
theorem pieces_append_separator {α : Type} [BEq α] [ReflBEq α] (sep : α)
    (xs : List α) : pieces sep (xs ++ [sep]) = xs.splitOn sep := by
  simp [pieces, List.splitOn_append_cons_self]

/-- A piece of a cut holds no separator. -/
theorem not_mem_of_mem_splitOn {α : Type} [BEq α] [LawfulBEq α] {sep : α}
    {xs p : List α} (h : p ∈ xs.splitOn sep) : sep ∉ p := by
  induction xs generalizing p with
  | nil => simp_all
  | cons a xs ih =>
    rw [List.splitOn_cons_eq_if_modifyHead] at h
    split at h
    · rcases List.mem_cons.1 h with rfl | h
      · simp
      · exact ih h
    · rename_i ha
      cases hs : xs.splitOn sep with
      | nil => simp [hs] at h
      | cons v vs =>
        rw [hs, List.modifyHead_cons, List.mem_cons] at h
        rcases h with rfl | h
        · intro hm
          rcases List.mem_cons.1 hm with rfl | hm
          · simp at ha
          · exact ih (by simp [hs]) hm
        · exact ih (by simp [hs, h])

/-- A piece holds no separator. -/
theorem not_mem_of_mem_pieces {α : Type} [BEq α] [LawfulBEq α] {sep : α}
    {xs p : List α} (h : p ∈ pieces sep xs) : sep ∉ p := by
  simp only [pieces] at h
  split at h
  · exact not_mem_of_mem_splitOn (List.dropLast_subset _ h)
  · exact not_mem_of_mem_splitOn h

/-- Cutting a carriage return off a line that ends in one gives the rest. -/
theorem chomp_append_return {α : Type} [DecidableEq α] (cr : α)
    (l : List α) : chomp cr (l ++ [cr]) = l := by
  simp [chomp]

end BitProbe.Text

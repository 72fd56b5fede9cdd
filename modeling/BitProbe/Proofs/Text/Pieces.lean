import BitProbe.Text.Lines
import Mathlib.Data.List.Basic
import Mathlib.Tactic.Common

/-!
Pieces.

What separators cut a list into is one list more than there are separators,
and what stands between two of them can be replaced without any change to the
other cuts. The pieces of a list are what is ended by separators, in order,
and a last one without an end unless it would be empty. Another character
before each separator is at the end of each piece that has one; another
separator at the very end adds at most an empty piece.

* `Text.length_splitOn`: how many cuts there are;
* `Text.getElem?_pieces`: the pieces are the cuts, without an empty last one;
* `Text.splitOn_flatMap_ended`: cutting what was put together;
* `Text.isInfix_of_mem_splitOn`, `Text.isInfix_of_mem_pieces`: a piece is inside
  the whole;
* `Text.getElem?_splitOn_replace`: replacing a cut leaves the others alone;
* `Text.EndedBy`: a list as pieces with their ends;
* `Text.pieces_eq_iff`: its pieces are these and no others;
* `Text.withReturns`: another character before each separator;
* `Text.forall₂_pieces_withReturns`: what becomes of the pieces;
* `Text.pieces_append_separator_cases`: a separator at the very end.
-/

namespace BitProbe.Text

variable {α : Type} [DecidableEq α]

/-! ### Pieces by their places -/

/-- There is one cut more than separators. -/
lemma length_splitOn (sep : α) (xs : List α) :
    (xs.splitOn sep).length = xs.count sep + 1 := by
  induction xs with
  | nil => rfl
  | cons x xs ih =>
      rw [List.splitOn_cons_eq_if_modifyHead]
      by_cases hx : x = sep
      · rw [if_pos (beq_iff_eq.2 hx), List.length_cons, ih, hx,
          List.count_cons_self]
      · rw [if_neg (mt beq_iff_eq.1 hx), List.length_modifyHead, ih,
          List.count_cons_of_ne hx]

/-- The last cut is the one whose place is the number of separators. -/
lemma getLast?_splitOn_any_isEmpty (sep : α) (xs : List α) :
    (xs.splitOn sep).getLast?.any List.isEmpty = true ↔
      (xs.splitOn sep)[xs.count sep]? = some [] := by
  rw [List.getLast?_eq_getElem?, length_splitOn, Nat.add_sub_cancel]
  cases h : (xs.splitOn sep)[xs.count sep]? with
  | none => simp
  | some p => simp [List.isEmpty_iff]

/-- The pieces of a list are its cuts, without the last one if that is
empty. -/
lemma getElem?_pieces (sep : α) (xs : List α) (n : Nat) :
    (pieces sep xs)[n]? =
      if n = xs.count sep ∧ (xs.splitOn sep)[n]? = some [] then none
      else (xs.splitOn sep)[n]? := by
  rw [pieces]
  by_cases he : (xs.splitOn sep)[xs.count sep]? = some []
  · rw [if_pos ((getLast?_splitOn_any_isEmpty sep xs).2 he),
      List.getElem?_dropLast, length_splitOn, Nat.add_sub_cancel]
    rcases Nat.lt_trichotomy n (xs.count sep) with hn | hn | hn
    · rw [if_pos hn, if_neg fun h => Nat.ne_of_lt hn h.1]
    · rw [if_neg (by omega), if_pos ⟨hn, hn ▸ he⟩]
    · rw [if_neg (by omega), if_neg fun h => Nat.ne_of_gt hn h.1,
        List.getElem?_eq_none (by rw [length_splitOn]; omega)]
  · rw [if_neg (mt (getLast?_splitOn_any_isEmpty sep xs).1 he), if_neg]
    rintro ⟨rfl, hn⟩
    exact he hn

/-! ### Pieces put together -/

/-- What is joined is inside the result. -/
lemma isInfix_intercalate {α : Type} {sep p : List α} {ps : List (List α)}
    (h : p ∈ ps) : p <:+: sep.intercalate ps := by
  induction ps with
  | nil => cases h
  | cons q qs ih =>
      cases qs with
      | nil =>
          rw [List.intercalate_singleton]
          exact List.mem_singleton.1 h ▸ List.infix_rfl
      | cons r rs =>
          rw [List.intercalate_cons_cons]
          rcases List.mem_cons.1 h with rfl | h
          · exact ((List.prefix_append p sep).trans
              (List.prefix_append _ _)).isInfix
          · exact (ih h).trans (List.suffix_append _ _).isInfix

/-- A cut is inside the list. -/
lemma isInfix_of_mem_splitOn {sep : α} {xs p : List α}
    (h : p ∈ xs.splitOn sep) : p <:+: xs := by
  have hin : p <:+: [sep].intercalate (xs.splitOn sep) :=
    isInfix_intercalate h
  rwa [List.intercalate_splitOn] at hin

/-- So is a piece. -/
lemma isInfix_of_mem_pieces {sep : α} {xs p : List α} (h : p ∈ pieces sep xs) :
    p <:+: xs := by
  have hcut : p ∈ xs.splitOn sep := by
    simp only [pieces] at h
    split at h
    · exact List.dropLast_subset _ h
    · exact h
  exact isInfix_of_mem_splitOn hcut

/-- And a line inside what it was with its end. -/
lemma isInfix_chomp (cr : α) (l : List α) : chomp cr l <:+: l := by
  unfold chomp
  split
  · exact (List.dropLast_prefix l).isInfix
  · exact List.infix_rfl

/-- Lists that are each ended by a separator, and do not hold it otherwise,
are the cuts of the whole, with an empty one after them. -/
lemma splitOn_flatMap_ended {sep : α} {xss : List (List α)}
    (h : ∀ xs ∈ xss, sep ∉ xs) :
    (xss.flatMap fun xs => xs ++ [sep]).splitOn sep = xss ++ [[]] := by
  induction xss with
  | nil => rfl
  | cons xs xss ih =>
      have hxs : ∀ x ∈ xs, (x == sep) = false := fun x hx =>
        beq_false_of_ne (ne_of_mem_of_not_mem hx (h xs List.mem_cons_self))
      have hxss := ih fun ys hys => h ys (List.mem_cons_of_mem xs hys)
      rw [List.splitOn_eq_splitOnP] at hxss ⊢
      rw [List.flatMap_cons, List.append_assoc, List.singleton_append,
        List.splitOnP_append_cons_of_forall_mem hxs sep (beq_self_eq_true sep),
        hxss, List.cons_append]

/-! ### One piece in the place of another -/

/-- What holds no separator is put before the first cut. -/
lemma splitOn_append_of_not_mem {sep : α} {xs : List α} (h : sep ∉ xs)
    (ys : List α) :
    (xs ++ ys).splitOn sep = (ys.splitOn sep).modifyHead (xs ++ ·) := by
  induction xs with
  | nil => cases h : ys.splitOn sep <;> simp [h]
  | cons x xs ih =>
      obtain ⟨hx, hxs⟩ := not_or.1 (mt List.mem_cons.2 h)
      rw [List.cons_append, List.splitOn_cons_eq_if_modifyHead,
        if_neg (mt beq_iff_eq.1 (Ne.symm hx)), ih hxs, List.modifyHead_modifyHead]
      rfl

/-- Replacing what stands between two separators changes the cut there and
no other. -/
lemma getElem?_splitOn_replace {sep : α} {mid mid' : List α}
    (h : sep ∉ mid) (h' : sep ∉ mid') (before after : List α) {n : Nat}
    (hn : n ≠ before.count sep) :
    ((before ++ (mid ++ after)).splitOn sep)[n]? =
      ((before ++ (mid' ++ after)).splitOn sep)[n]? := by
  induction before generalizing n with
  | nil =>
      have hn0 : n ≠ 0 := hn
      simp only [List.nil_append, splitOn_append_of_not_mem h,
        splitOn_append_of_not_mem h', List.getElem?_modifyHead, if_neg hn0]
  | cons x before ih =>
      rw [List.cons_append, List.cons_append,
        List.splitOn_cons_eq_if_modifyHead,
        List.splitOn_cons_eq_if_modifyHead]
      by_cases hx : x = sep
      · rw [if_pos (beq_iff_eq.2 hx), if_pos (beq_iff_eq.2 hx)]
        cases n with
        | zero => rfl
        | succ n =>
            rw [hx, List.count_cons_self] at hn
            exact ih (mt (congrArg (· + 1)) hn)
      · rw [if_neg (mt beq_iff_eq.1 hx), if_neg (mt beq_iff_eq.1 hx)]
        rw [List.count_cons_of_ne hx] at hn
        rw [List.getElem?_modifyHead, List.getElem?_modifyHead, ih hn]

/-! ### Pieces with their ends -/

variable {sep : α}

/-- A list as pieces without separators in them: a separator ends each piece,
and may be missing after the last one if that is not empty. -/
inductive EndedBy (sep : α) : List α → List (List α) → Prop
  | nil : EndedBy sep [] []
  | last {p : List α} : p ≠ [] → sep ∉ p → EndedBy sep p [p]
  | cons {p xs : List α} {ps : List (List α)} : sep ∉ p →
    EndedBy sep xs ps → EndedBy sep (p ++ sep :: xs) (p :: ps)

/-- What has no separator in it is one piece, unless it is empty. -/
lemma pieces_of_not_mem {p : List α} (hne : p ≠ []) (h : sep ∉ p) :
    pieces sep p = [p] := by
  have hcut : p.splitOn sep = [p] := by
    have happend := splitOn_append_of_not_mem h []
    rwa [List.append_nil, List.splitOn_nil, List.modifyHead_cons,
      List.append_nil] at happend
  rw [pieces, hcut]
  exact if_neg (by simpa using hne)

/-- What is ended comes before the pieces of the rest. -/
lemma pieces_append_cons {p : List α} (h : sep ∉ p) (xs : List α) :
    pieces sep (p ++ sep :: xs) = p :: pieces sep xs := by
  have hcut : (p ++ sep :: xs).splitOn sep = p :: xs.splitOn sep := by
    rw [splitOn_append_of_not_mem h, List.splitOn_cons_eq_if_modifyHead,
      if_pos (beq_self_eq_true sep), List.modifyHead_cons, List.append_nil]
  have hne : xs.splitOn sep ≠ [] := by
    rw [← List.length_pos_iff, length_splitOn]
    exact Nat.succ_pos _
  simp only [pieces, hcut, List.getLast?_cons_of_ne_nil hne,
    List.dropLast_cons_of_ne_nil hne]
  split <;> rfl

lemma EndedBy.pieces_eq {xs : List α} {ps : List (List α)}
    (h : EndedBy sep xs ps) : pieces sep xs = ps := by
  induction h with
  | nil => exact pieces_nil sep
  | last hne hp => exact pieces_of_not_mem hne hp
  | cons hp _ ih => rw [pieces_append_cons hp, ih]

/-- Every list is its pieces with their ends. -/
lemma endedBy_pieces (sep : α) (xs : List α) :
    EndedBy sep xs (pieces sep xs) := by
  -- the first piece is taken off
  induction hn : xs.length using Nat.strongRecOn generalizing xs with
  | _ n ih =>
      by_cases hmem : sep ∈ xs
      · obtain ⟨p, ys, rfl, hp⟩ := List.eq_append_cons_of_mem hmem
        have hlt : ys.length < n := by
          rw [← hn, List.length_append, List.length_cons]
          omega
        rw [pieces_append_cons hp]
        exact .cons hp (ih _ hlt ys rfl)
      · by_cases hne : xs = []
        · rw [hne, pieces_nil]
          exact .nil
        · rw [pieces_of_not_mem hne hmem]
          exact .last hne hmem

/-- The pieces of a list are those that it is with their ends. -/
theorem pieces_eq_iff {xs : List α} {ps : List (List α)} :
    pieces sep xs = ps ↔ EndedBy sep xs ps :=
  ⟨fun h => h ▸ endedBy_pieces sep xs, EndedBy.pieces_eq⟩

/-! ### Other ends -/

/-- A list with another element before each separator. -/
def withReturns (cr sep : α) (xs : List α) : List α :=
  xs.flatMap fun x => if x = sep then [cr, sep] else [x]

lemma withReturns_of_not_mem (cr : α) {p : List α} (h : sep ∉ p) :
    withReturns cr sep p = p := by
  induction p with
  | nil => rfl
  | cons x p ih =>
      obtain ⟨hx, hp⟩ := not_or.1 (mt List.mem_cons.2 h)
      rw [withReturns, List.flatMap_cons, if_neg (Ne.symm hx), ← withReturns,
        ih hp]
      rfl

lemma withReturns_append_cons (cr : α) {p : List α} (h : sep ∉ p)
    (xs : List α) :
    withReturns cr sep (p ++ sep :: xs) =
      (p ++ [cr]) ++ sep :: withReturns cr sep xs := by
  have hp := withReturns_of_not_mem cr h
  rw [withReturns] at hp ⊢
  rw [List.flatMap_append, hp, List.flatMap_cons, if_pos rfl, ← withReturns,
    List.append_assoc]
  rfl

/-- Each piece is as before, or it has the other element at its end. -/
lemma forall₂_pieces_withReturns {cr : α} (hcr : cr ≠ sep) (xs : List α) :
    List.Forall₂ (fun p q => q = p ∨ q = p ++ [cr]) (pieces sep xs)
      (pieces sep (withReturns cr sep xs)) := by
  have h := endedBy_pieces sep xs
  generalize pieces sep xs = ps at h
  induction h with
  | nil => exact .nil
  | last hne hp =>
      rw [withReturns_of_not_mem cr hp, pieces_of_not_mem hne hp]
      exact .cons (.inl rfl) .nil
  | @cons p xs ps hp _ ih =>
      have hended : sep ∉ p ++ [cr] := by
        simp [hp, hcr.symm]
      rw [withReturns_append_cons cr hp, pieces_append_cons hended]
      exact .cons (.inr rfl) ih

/-- A separator at the very end ends the last piece, or an empty one. -/
lemma pieces_append_separator_cases (sep : α) (xs : List α) :
    pieces sep (xs ++ [sep]) = pieces sep xs ∨
      pieces sep (xs ++ [sep]) = pieces sep xs ++ [[]] := by
  have h := endedBy_pieces sep xs
  generalize pieces sep xs = ps at h
  induction h with
  | nil => exact .inr (pieces_append_cons List.not_mem_nil [])
  | last _ hp =>
      refine .inl ?_
      rw [pieces_append_cons hp, pieces_nil]
  | cons hp _ ih =>
      rw [List.append_assoc, List.cons_append, pieces_append_cons hp]
      rcases ih with ih | ih
      · exact .inl (congrArg _ ih)
      · exact .inr (congrArg _ ih)

end BitProbe.Text

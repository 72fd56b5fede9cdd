/-!
Sets kept in ascending order.

A set is the list of its members in strictly ascending order, so that two
sets with the same members are equal (`SortedSet.ext_mem`), and what is
printed member by member comes out in order.

* `SortedSet.insert`, `SortedSet.ofList`, `SortedSet.union`;
* `SortedSet.mem_insert`, `SortedSet.mem_ofList`, `SortedSet.mem_union`: what
  the members of the results are;
* `SortedSet.toList_ofList`: the set of a list that ascends.
-/

namespace BitProbe

/-- A finite set, given by the list of its members in strictly ascending
order. -/
structure SortedSet (α : Type) [Ord α] where
  toList : List α
  ascending : toList.Pairwise fun a b => compare a b = .lt
  deriving DecidableEq

namespace SortedSet

variable {α : Type} [Ord α]

instance : Membership α (SortedSet α) where
  mem s a := a ∈ s.toList

instance : EmptyCollection (SortedSet α) where
  emptyCollection := ⟨[], .nil⟩

/-- Whether a set has no members. -/
def isEmpty (s : SortedSet α) : Bool :=
  s.toList.isEmpty

/-- Puts an element at its place in an ascending list, unless it is there. -/
def place (a : α) : List α → List α
  | [] => [a]
  | b :: l =>
    match compare a b with
    | .lt => a :: b :: l
    | .eq => b :: l
    | .gt => b :: place a l

/-- What is in a list after an element has been put into it. -/
theorem mem_of_mem_place {a x : α} {l : List α} (h : x ∈ place a l) :
    x = a ∨ x ∈ l := by
  induction l with
  | nil => simpa [place] using h
  | cons b l ih =>
    simp only [place] at h
    split at h
    · simpa using h
    · exact .inr h
    · rcases List.mem_cons.1 h with rfl | h
      · simp
      · rcases ih h with rfl | h <;> simp [*]

/-- Putting an element at its place keeps a list ascending. -/
theorem pairwise_place [Std.TransOrd α] (a : α) {l : List α}
    (h : l.Pairwise fun a b => compare a b = .lt) :
    (place a l).Pairwise fun a b => compare a b = .lt := by
  induction l with
  | nil => simp [place]
  | cons b l ih =>
    obtain ⟨hb, hl⟩ := List.pairwise_cons.1 h
    simp only [place]
    split
    · rename_i hab
      refine List.pairwise_cons.2 ⟨fun x hx => ?_, h⟩
      rcases List.mem_cons.1 hx with rfl | hx
      · exact hab
      · exact Std.TransCmp.lt_trans hab (hb x hx)
    · exact h
    · rename_i hab
      refine List.pairwise_cons.2 ⟨fun x hx => ?_, ih hl⟩
      rcases mem_of_mem_place hx with rfl | hx
      · exact Std.OrientedCmp.gt_iff_lt.1 hab
      · exact hb x hx

variable [Std.TransOrd α]

/-- The set with one more member. -/
def insert (s : SortedSet α) (a : α) : SortedSet α :=
  ⟨place a s.toList, pairwise_place a s.ascending⟩

/-- The set of the elements of a list. -/
def ofList (l : List α) : SortedSet α :=
  l.foldl insert ∅

/-- The set of the members of either set. -/
def union (s t : SortedSet α) : SortedSet α :=
  t.toList.foldl insert s

omit [Std.TransOrd α] in
/-- The empty set has no members. -/
theorem not_mem_empty (x : α) : x ∉ (∅ : SortedSet α) :=
  List.not_mem_nil

variable [Std.LawfulEqOrd α]

omit [Std.TransOrd α] in
/-- An element is in the list it was put into, with what was there. -/
theorem mem_place {a x : α} {l : List α} :
    x ∈ place a l ↔ x = a ∨ x ∈ l := by
  refine ⟨mem_of_mem_place, fun h => ?_⟩
  induction l with
  | nil => simpa [place] using h
  | cons b l ih =>
    simp only [place]
    split
    · simpa using h
    · rename_i hab
      have : a = b := Std.compare_eq_iff_eq.1 hab
      rcases h with rfl | h <;> simp_all
    · rcases h with rfl | h
      · exact List.mem_cons_of_mem _ (ih (.inl rfl))
      · rcases List.mem_cons.1 h with rfl | h
        · simp
        · exact List.mem_cons_of_mem _ (ih (.inr h))

/-- The members after an insertion. -/
@[simp] theorem mem_insert {s : SortedSet α} {a x : α} :
    x ∈ s.insert a ↔ x = a ∨ x ∈ s :=
  mem_place

/-- The members after inserting the elements of a list one by one. -/
theorem mem_foldl_insert {l : List α} {s : SortedSet α} {x : α} :
    x ∈ l.foldl insert s ↔ x ∈ l ∨ x ∈ s := by
  induction l generalizing s with
  | nil => simp
  | cons a l ih =>
    rw [List.foldl_cons, ih, mem_insert, List.mem_cons]
    grind

/-- The members of the set of a list are its elements. -/
@[simp] theorem mem_ofList {l : List α} {x : α} :
    x ∈ ofList l ↔ x ∈ l := by
  simp [ofList, mem_foldl_insert, not_mem_empty]

/-- The members of a union. -/
@[simp] theorem mem_union {s t : SortedSet α} {x : α} :
    x ∈ s.union t ↔ x ∈ s ∨ x ∈ t := by
  rw [union, mem_foldl_insert, or_comm]
  rfl

/-- Ascending lists with the same elements are equal. -/
theorem eq_of_pairwise_of_mem_iff {l m : List α}
    (hl : l.Pairwise fun a b => compare a b = .lt)
    (hm : m.Pairwise fun a b => compare a b = .lt)
    (h : ∀ x, x ∈ l ↔ x ∈ m) : l = m := by
  have irrefl : ∀ a : α, compare a a ≠ .lt := fun a ha => by
    rw [Std.compare_eq_iff_eq.2 rfl] at ha
    cases ha
  induction l generalizing m with
  | nil => cases m with
    | nil => rfl
    | cons b m => exact absurd ((h b).2 (by simp)) (by simp)
  | cons a l ih =>
    cases m with
    | nil => exact absurd ((h a).1 (by simp)) (by simp)
    | cons b m =>
      obtain ⟨ha, hl'⟩ := List.pairwise_cons.1 hl
      obtain ⟨hb, hm'⟩ := List.pairwise_cons.1 hm
      have hab : a = b := by
        rcases List.mem_cons.1 ((h a).1 (by simp)) with hab | ham
        · exact hab
        · rcases List.mem_cons.1 ((h b).2 (by simp)) with hba | hbl
          · exact hba.symm
          · exact absurd (Std.TransCmp.lt_trans (hb a ham) (ha b hbl))
              (irrefl b)
      subst hab
      congr 1
      refine ih hl' hm' fun x => ⟨fun hx => ?_, fun hx => ?_⟩
      · rcases List.mem_cons.1 ((h x).1 (List.mem_cons_of_mem _ hx)) with
          rfl | hx'
        · exact absurd (ha x hx) (irrefl x)
        · exact hx'
      · rcases List.mem_cons.1 ((h x).2 (List.mem_cons_of_mem _ hx)) with
          rfl | hx'
        · exact absurd (hb x hx) (irrefl x)
        · exact hx'

/-- The set of a strictly ascending list has the list itself for its
members. -/
theorem toList_ofList {l : List α}
    (h : l.Pairwise fun a b => compare a b = .lt) : (ofList l).toList = l :=
  eq_of_pairwise_of_mem_iff (ofList l).ascending h fun _ => mem_ofList

/-- Sets with the same members are equal. -/
theorem ext_mem {s t : SortedSet α} (h : ∀ x, x ∈ s ↔ x ∈ t) : s = t := by
  have : s.toList = t.toList :=
    eq_of_pairwise_of_mem_iff s.ascending t.ascending h
  cases s
  cases t
  simp_all

end SortedSet

end BitProbe

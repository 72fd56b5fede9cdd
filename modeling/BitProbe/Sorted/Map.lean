/-!
Maps kept in ascending order of their keys.

A map is the list of its entries with strictly ascending keys. Inserting
under a key that is there replaces its value.

* `SortedMap.insert`, `SortedMap.insertIfNew`, `SortedMap.ofList`;
* `SortedMap.mapValues`: every value changed alike;
* `SortedMap.find?`, with `SortedMap.find?_insert` and its like for what an
  operation changes.
-/

namespace BitProbe

/-- A finite map, given by the list of its entries with strictly ascending
keys. -/
structure SortedMap (κ β : Type) [Ord κ] where
  entries : List (κ × β)
  ascending : entries.Pairwise fun a b => compare a.1 b.1 = .lt
  deriving DecidableEq

namespace SortedMap

variable {κ β : Type} [Ord κ]

instance : EmptyCollection (SortedMap κ β) where
  emptyCollection := ⟨[], .nil⟩

/-- The keys of a map, ascending. -/
def keys (m : SortedMap κ β) : List κ :=
  m.entries.map (·.1)

/-- How many entries a map has. -/
def size (m : SortedMap κ β) : Nat :=
  m.entries.length

/-- The value under a key, if there is one. -/
def find? (m : SortedMap κ β) (k : κ) : Option β :=
  (m.entries.find? fun e => compare k e.1 == .eq).map (·.2)

/-- The map whose values are what a function makes of the values there. -/
def mapValues {γ : Type} (f : β → γ) (m : SortedMap κ β) : SortedMap κ γ where
  entries := m.entries.map fun e => (e.1, f e.2)
  ascending := List.pairwise_map.2 m.ascending

/-- Puts an entry at its place in an ascending list, instead of the entry
with its key if there is one. -/
def place (k : κ) (v : β) : List (κ × β) → List (κ × β)
  | [] => [(k, v)]
  | e :: l =>
    match compare k e.1 with
    | .lt => (k, v) :: e :: l
    | .eq => (k, v) :: l
    | .gt => e :: place k v l

/-- What is in a list after an entry has been put into it. -/
theorem mem_of_mem_place {k : κ} {v : β} {e : κ × β} {l : List (κ × β)}
    (h : e ∈ place k v l) : e = (k, v) ∨ e ∈ l := by
  induction l with
  | nil => simpa [place] using h
  | cons b l ih =>
    simp only [place] at h
    split at h
    · simpa using h
    · rcases List.mem_cons.1 h with rfl | h <;> simp [*]
    · rcases List.mem_cons.1 h with rfl | h
      · simp
      · rcases ih h with rfl | h <;> simp [*]

/-- Putting an entry at its place keeps the keys ascending. -/
theorem pairwise_place [Std.TransOrd κ] (k : κ) (v : β) {l : List (κ × β)}
    (h : l.Pairwise fun a b => compare a.1 b.1 = .lt) :
    (place k v l).Pairwise fun a b => compare a.1 b.1 = .lt := by
  induction l with
  | nil => simp [place]
  | cons b l ih =>
    obtain ⟨hb, hl⟩ := List.pairwise_cons.1 h
    simp only [place]
    split
    · rename_i hkb
      refine List.pairwise_cons.2 ⟨fun x hx => ?_, h⟩
      rcases List.mem_cons.1 hx with rfl | hx
      · exact hkb
      · exact Std.TransCmp.lt_trans hkb (hb x hx)
    · rename_i hkb
      refine List.pairwise_cons.2 ⟨fun x hx => ?_, hl⟩
      exact Std.TransCmp.lt_of_eq_of_lt hkb (hb x hx)
    · rename_i hkb
      refine List.pairwise_cons.2 ⟨fun x hx => ?_, ih hl⟩
      rcases mem_of_mem_place hx with rfl | hx
      · exact Std.OrientedCmp.gt_iff_lt.1 hkb
      · exact hb x hx

variable [Std.TransOrd κ]

/-- The map with a value under a key, instead of the one that was there. -/
def insert (m : SortedMap κ β) (k : κ) (v : β) : SortedMap κ β :=
  ⟨place k v m.entries, pairwise_place k v m.ascending⟩

/-- The map with a value under a key, unless there is one already. -/
def insertIfNew (m : SortedMap κ β) (k : κ) (v : β) : SortedMap κ β :=
  if (m.find? k).isSome then m else m.insert k v

/-- The map of a list of entries; of two with one key the later counts. -/
def ofList (l : List (κ × β)) : SortedMap κ β :=
  l.foldl (fun m e => m.insert e.1 e.2) ∅

omit [Std.TransOrd κ] in
/-- Looking a key up in the list that an entry has been put into. -/
theorem find?_place [Std.LawfulEqOrd κ] [DecidableEq κ] (k x : κ) (v : β)
    (l : List (κ × β)) :
    ((place k v l).find? fun e => compare x e.1 == .eq).map (·.2) =
      if x = k then some v
      else (l.find? fun e => compare x e.1 == .eq).map (·.2) := by
  have other : x ≠ k → (compare x k == .eq) = false := fun hx => by
    simpa [Std.compare_eq_iff_eq] using hx
  induction l with
  | nil =>
    by_cases hx : x = k
    · simp [place, hx]
    · simp [place, hx, other hx]
  | cons b l ih =>
    simp only [place]
    split
    · by_cases hx : x = k
      · simp [hx]
      · rw [List.find?_cons, other hx]
        simp [hx]
    · rename_i hkb
      have hkb : k = b.1 := Std.compare_eq_iff_eq.1 hkb
      by_cases hx : x = k
      · simp [hx]
      · rw [List.find?_cons, List.find?_cons, ← hkb, other hx]
        simp [hx]
    · rename_i hkb
      rw [List.find?_cons, List.find?_cons]
      by_cases hx : x = k
      · subst hx
        simpa [hkb] using ih
      · split
        · simp [hx]
        · rw [ih]

/-- Looking a key up after an insertion. -/
theorem find?_insert [Std.LawfulEqOrd κ] [DecidableEq κ]
    (m : SortedMap κ β) (k x : κ) (v : β) :
    (m.insert k v).find? x = if x = k then some v else m.find? x :=
  find?_place k x v m.entries

/-- Looking a key up after an insertion that keeps what was there. -/
theorem find?_insertIfNew [Std.LawfulEqOrd κ] [DecidableEq κ]
    (m : SortedMap κ β) (k x : κ) (v : β) :
    (m.insertIfNew k v).find? x =
      if x = k then some ((m.find? k).getD v) else m.find? x := by
  unfold insertIfNew
  cases hk : m.find? k with
  | none =>
      rw [if_neg (by simp), find?_insert]
      rfl
  | some w =>
      by_cases hx : x = k
      · simp [hx, hk]
      · simp [hx]

omit [Std.TransOrd κ] in
/-- Nothing is found in an empty map. -/
@[simp] theorem find?_empty (x : κ) : (∅ : SortedMap κ β).find? x = none :=
  rfl

omit [Std.TransOrd κ] in
/-- Looking a key up once the values are changed. -/
@[simp] theorem find?_mapValues {γ : Type} (f : β → γ) (m : SortedMap κ β)
    (x : κ) : (m.mapValues f).find? x = (m.find? x).map f := by
  simp only [find?, mapValues, List.find?_map, Option.map_map]
  rfl

end SortedMap

end BitProbe

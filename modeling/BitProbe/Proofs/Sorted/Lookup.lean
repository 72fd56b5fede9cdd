import BitProbe.Sorted.Map
import Mathlib.Data.List.Induction
import Mathlib.Tactic.Common

/-!
Looking up in sorted maps.

* `SortedMap.lookup_entries`: looking a key up among the entries;
* `SortedMap.find?_of_mem`, `SortedMap.mem_entries_iff`: an entry is found by
  its key;
* `SortedMap.ext_entries`, `SortedMap.ext_find?`: maps with the same entries
  are equal;
* `SortedMap.entries_eq_filter`: a map in which some values are no longer
  found;
* `SortedMap.find?_ofList`: looking up in a map that was made of a list;
* `SortedMap.place_eq_append`: the place of a key above all others.
-/

namespace BitProbe

namespace SortedMap

variable {κ β : Type} [Ord κ] [Std.LawfulEqOrd κ] [DecidableEq κ]

/-- An entry is found by its key, like in any list of pairs. -/
lemma lookup_entries (m : SortedMap κ β) (x : κ) :
    m.entries.lookup x = m.find? x := by
  rw [find?]
  induction m.entries with
  | nil => rfl
  | cons e es ih =>
      obtain ⟨k, v⟩ := e
      by_cases hx : x = k
      · simp [hx]
      · have hne : (compare x k == .eq) = false := by
          simpa [Std.compare_eq_iff_eq] using hx
        simp [List.lookup_cons, beq_false_of_ne hx, hne, ih]

/-- Of the entries that a map was made of, the last one counts. -/
lemma find?_ofList [Std.TransOrd κ] (l : List (κ × β)) (x : κ) :
    (ofList l).find? x = l.reverse.lookup x := by
  induction l using List.reverseRecOn with
  | nil => rfl
  | append_singleton l e ih =>
      obtain ⟨k, v⟩ := e
      have hstep : ofList (l ++ [(k, v)]) = (ofList l).insert k v := by
        rw [ofList, List.foldl_append]
        rfl
      rw [hstep, find?_insert, ih, List.reverse_append, List.reverse_singleton,
        List.singleton_append, List.lookup_cons]
      by_cases hx : x = k
      · simp [hx]
      · simp [hx, beq_false_of_ne hx]

/-- An entry of a map is found by its key. -/
lemma find?_of_mem {m : SortedMap κ β} {e : κ × β} (h : e ∈ m.entries) :
    m.find? e.1 = some e.2 := by
  obtain ⟨entries, hasc⟩ := m
  dsimp only at h
  rw [← lookup_entries]
  dsimp only
  induction entries with
  | nil => cases h
  | cons b es ih =>
      obtain ⟨k, v⟩ := b
      obtain ⟨hb, hes⟩ := List.pairwise_cons.1 hasc
      rcases List.mem_cons.1 h with rfl | hmem
      · simp
      · have hne : e.1 ≠ k := by
          rintro rfl
          have hlt := hb e hmem
          rw [Std.compare_eq_iff_eq.2 rfl] at hlt
          cases hlt
        rw [List.lookup_cons, beq_false_of_ne hne]
        exact ih hes hmem

/-- The entries of a map are what is found by the keys. -/
lemma mem_entries_iff {m : SortedMap κ β} {e : κ × β} :
    e ∈ m.entries ↔ m.find? e.1 = some e.2 := by
  refine ⟨find?_of_mem, fun h => ?_⟩
  rw [find?, Option.map_eq_some_iff] at h
  obtain ⟨d, hd, hvalue⟩ := h
  have hfound := List.find?_some hd
  have hkey : e.1 = d.1 := Std.compare_eq_iff_eq.1 (beq_iff_eq.1 hfound)
  rw [Prod.ext hkey hvalue.symm]
  exact List.mem_of_find?_eq_some hd

/-- The keys of a map are those by which something is found. -/
lemma mem_keys_iff {m : SortedMap κ β} {k : κ} :
    k ∈ m.keys ↔ (m.find? k).isSome = true := by
  rw [keys, List.mem_map, Option.isSome_iff_exists]
  constructor
  · rintro ⟨e, he, rfl⟩
    exact ⟨e.2, find?_of_mem he⟩
  · rintro ⟨v, hv⟩
    exact ⟨(k, v), mem_entries_iff.2 hv, rfl⟩

omit [DecidableEq κ] in
/-- Maps with the same entries are equal. -/
lemma ext_entries [Std.OrientedOrd κ] {m m' : SortedMap κ β}
    (h : ∀ e, e ∈ m.entries ↔ e ∈ m'.entries) : m = m' := by
  have hnd : ∀ n : SortedMap κ β, n.entries.Nodup := fun n =>
    n.ascending.imp fun hlt heq => by
      rw [heq, Std.compare_eq_iff_eq.2 rfl] at hlt
      cases hlt
  have hentries : m.entries = m'.entries := by
    refine List.Perm.eq_of_pairwise (fun a b _ _ hab hba => ?_) m.ascending
      m'.ascending ((List.perm_ext_iff_of_nodup (hnd m) (hnd m')).2 h)
    -- no two keys are below one another
    exact absurd hba (Std.OrientedCmp.not_lt_of_lt hab)
  cases m
  cases m'
  congr

/-- Maps in which the same is found are equal. -/
lemma ext_find? [Std.OrientedOrd κ] {m m' : SortedMap κ β}
    (h : ∀ k, m.find? k = m'.find? k) : m = m' :=
  ext_entries fun e => by rw [mem_entries_iff, mem_entries_iff, h]

/-- If only the values with some property are found any more, these entries
are left. -/
lemma entries_eq_filter [Std.OrientedOrd κ] {m m' : SortedMap κ β}
    {p : β → Bool} (h : ∀ k, m'.find? k = (m.find? k).filter p) :
    m'.entries = m.entries.filter fun e => p e.2 := by
  have hmap : m' = ⟨m.entries.filter fun e => p e.2,
      m.ascending.sublist List.filter_sublist⟩ := by
    refine ext_entries fun e => ?_
    rw [mem_entries_iff, h, Option.filter_eq_some_iff, ← mem_entries_iff,
      List.mem_filter]
  rw [hmap]

omit [Std.LawfulEqOrd κ] [DecidableEq κ] in
/-- An entry with a key above all others goes to the end. -/
lemma place_eq_append [Std.OrientedOrd κ] {k : κ} {l : List (κ × β)}
    (h : ∀ e ∈ l, compare e.1 k = .lt) (v : β) :
    place k v l = l ++ [(k, v)] := by
  induction l with
  | nil => rfl
  | cons e l ih =>
      have hgt : compare k e.1 = .gt :=
        Std.OrientedCmp.gt_iff_lt.2 (h e List.mem_cons_self)
      rw [place, hgt, ih fun d hd => h d (List.mem_cons_of_mem e hd),
        List.cons_append]

end SortedMap

end BitProbe

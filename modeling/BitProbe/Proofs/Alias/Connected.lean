import BitProbe.Alias
import Mathlib.Combinatorics.SimpleGraph.Connectivity.Connected

/-!
The classes of a table of aliases.

A representative is the first mnemonic of a declared pair, or the mnemonic
itself. One more declaration `a`, `b` touches the class of `b` alone: its
mnemonics get the representative that `a` had. A string that the table does
not hold is no exception, since it is a class of its own.

The pairs of mnemonics that a table is built from are the edges of an
undirected graph on all strings, and the classes are its connected parts. Each
step of the table stays inside a connected part, and each edge joins two
mnemonics of one representative, whatever was declared before or after it.

* `AliasTable.representatives_ofPairs`: representatives while pairs are
  declared one after another;
* `AliasTable.edges`, `AliasTable.graph`: the pairs as edges;
* `AliasTable.reachable_normalize`: a representative is connected to what it
  represents;
* `AliasTable.normalize_eq_of_mem`: a declared pair has one representative;
* `AliasTable.equivalent_mono`: more pairs make more mnemonics equivalent;
* `AliasTable.equivalent_ofPairs_iff_eqvGen`: being equivalent is being
  related by the equivalence that the pairs generate;
* `AliasTable.equivalent_ofPairs_iff`: being equivalent is being equal or
  connected, so that only the set of edges counts.
-/

namespace BitProbe.AliasTable

/-! ### One declaration more -/

/-- A table with one more pair at the end is the table with that pair
declared. -/
lemma ofPairs_append_singleton (pairs : List (String × String))
    (p : String × String) :
    ofPairs (pairs ++ [p]) = (ofPairs pairs).insert p.1 p.2 := by
  simp [ofPairs]

/-- What was equivalent stays so when a pair is declared. -/
lemma normalize_insert_congr {t : AliasTable} {x y : String} (a b : String)
    (h : t.normalize x = t.normalize y) :
    (t.insert a b).normalize x = (t.insert a b).normalize y := by
  rw [normalize_insert, normalize_insert, h]

/-- A declared pair is equivalent. -/
lemma normalize_insert_self (t : AliasTable) (a b : String) :
    (t.insert a b).normalize a = (t.insert a b).normalize b := by
  rw [normalize_insert, normalize_insert, if_pos rfl]
  split <;> rfl

/-! ### Representatives -/

/-- The declared pairs are kept, in their order. -/
lemma pairs_ofPairs (pairs : List (String × String)) :
    (ofPairs pairs).pairs = pairs := by
  induction pairs using List.reverseRecOn with
  | nil => rfl
  | append_singleton pairs p ih =>
      rw [ofPairs_append_singleton, insert, ih]

/-- A mnemonic represents itself, or it is represented by the first mnemonic
of a declared pair. -/
lemma normalize_ofPairs_eq_or (pairs : List (String × String)) (x : String) :
    (ofPairs pairs).normalize x = x ∨
      ∃ p ∈ pairs, (ofPairs pairs).normalize x = p.1 := by
  induction pairs using List.reverseRecOn generalizing x with
  | nil => exact .inl rfl
  | append_singleton pairs p ih =>
      -- an earlier pair is still there
      have hold : ∀ {y}, (∃ q ∈ pairs, (ofPairs pairs).normalize y = q.1) →
          ∃ q ∈ pairs ++ [p], (ofPairs pairs).normalize y = q.1 :=
        fun ⟨q, hq, h⟩ => ⟨q, List.mem_append_left _ hq, h⟩
      rw [ofPairs_append_singleton, normalize_insert]
      split
      · refine .inr ((ih p.1).elim (fun h => ?_) hold)
        exact ⟨p, List.mem_append_right _ (List.mem_singleton_self p), h⟩
      · exact (ih x).imp_right hold

/-- Declaring a pair that is equivalent already changes no
representative. -/
lemma normalize_insert_of_equivalent {t : AliasTable} {a b : String}
    (h : t.equivalent a b = true) (x : String) :
    (t.insert a b).normalize x = t.normalize x := by
  rw [normalize_insert]
  split
  · rename_i hx
    rw [hx, equivalent_iff.1 h]
  · rfl

/-- However a table was built, it keeps the declared pairs in their order, a
representative represents itself, and it is the mnemonic itself or the first
mnemonic of a declared pair, which is equivalent to it. One more declaration
gives every mnemonic that was equivalent to its second one the representative
that its first one had, and leaves all other strings alone; if the two were
equivalent, nothing changes. -/
theorem representatives_ofPairs (pairs : List (String × String)) :
    let t := ofPairs pairs
    t.pairs = pairs ∧
    (∀ x, t.normalize (t.normalize x) = t.normalize x) ∧
    (∀ x, t.normalize x = x ∨
      ∃ p ∈ pairs, t.normalize x = p.1 ∧ t.equivalent p.1 x = true) ∧
    ∀ a b,
      (∀ x, t.equivalent x b = true →
        (t.insert a b).normalize x = t.normalize a) ∧
      (∀ x, t.equivalent x b = false →
        (t.insert a b).normalize x = t.normalize x) ∧
      (t.equivalent a b = true →
        ∀ x, (t.insert a b).normalize x = t.normalize x) := by
  intro t
  refine ⟨pairs_ofPairs pairs, t.normalize_normalize, fun x => ?_,
    fun a b => ⟨fun x hx => ?_, fun x hx => ?_,
      normalize_insert_of_equivalent⟩⟩
  · refine (normalize_ofPairs_eq_or pairs x).imp_right ?_
    rintro ⟨p, hp, hx⟩
    refine ⟨p, hp, hx, equivalent_iff.2 ?_⟩
    rw [← hx]
    exact t.normalize_normalize x
  · rw [normalize_insert, if_pos (equivalent_iff.1 hx)]
  · have hne : t.normalize x ≠ t.normalize b := fun heq => by
      rw [equivalent_iff.2 heq] at hx
      cases hx
    rw [normalize_insert, if_neg hne]

/-- Two classes, of `A` with `B` and of `C` with `D`. Declaring `D`, `B` gives
`A` the representative of `D`, and a string in neither class keeps its own;
declaring `B`, `A` changes nothing. -/
theorem representatives_ofPairs_twoClasses :
    let t := ofPairs [("A", "B"), ("C", "D")]
    t.equivalent "A" "B" = true ∧ t.equivalent "E" "B" = false ∧
    t.equivalent "B" "A" = true ∧
    (t.insert "D" "B").normalize "A" = "C" ∧
    (t.insert "D" "B").normalize "E" = "E" ∧
    ∀ x, (t.insert "B" "A").normalize x = t.normalize x := by
  intro t
  have hab : t.equivalent "A" "B" = true := by decide
  have heb : t.equivalent "E" "B" = false := by decide
  have hba : t.equivalent "B" "A" = true := by decide
  obtain ⟨-, -, -, hinsert⟩ :=
    representatives_ofPairs [("A", "B"), ("C", "D")]
  obtain ⟨hsame, hother, -⟩ := hinsert "D" "B"
  exact ⟨hab, heb, hba, (hsame "A" hab).trans (by decide),
    (hother "E" heb).trans (by decide), (hinsert "B" "A").2.2 hba⟩

/-! ### Edges and representatives -/

/-- Pairs without their orientation. -/
def edges (pairs : List (String × String)) : Set (Sym2 String) :=
  {e | ∃ p ∈ pairs, e = s(p.1, p.2)}

/-- The undirected graph whose edges are the pairs. -/
def graph (pairs : List (String × String)) : SimpleGraph String :=
  .fromEdgeSet (edges pairs)

/-- Pairs among others are edges among theirs. -/
lemma edges_mono {pairs more : List (String × String)} (h : pairs ⊆ more) :
    edges pairs ⊆ edges more := by
  rintro e ⟨p, hp, rfl⟩
  exact ⟨p, h hp, rfl⟩

/-- More edges connect more. -/
lemma graph_mono {pairs more : List (String × String)}
    (h : edges pairs ⊆ edges more) : graph pairs ≤ graph more :=
  SimpleGraph.fromEdgeSet_mono h

/-- A pair is connected. -/
lemma reachable_of_mem {pairs : List (String × String)} {p : String × String}
    (h : p ∈ pairs) : (graph pairs).Reachable p.1 p.2 := by
  by_cases hne : p.1 = p.2
  · rw [hne]
  · refine SimpleGraph.Adj.reachable ?_
    rw [graph, SimpleGraph.fromEdgeSet_adj]
    exact ⟨⟨p, h, rfl⟩, hne⟩

/-- Every mnemonic is connected to its representative. -/
lemma reachable_normalize (pairs : List (String × String)) (x : String) :
    (graph pairs).Reachable x ((ofPairs pairs).normalize x) := by
  induction pairs using List.reverseRecOn generalizing x with
  | nil => exact .rfl
  | append_singleton pairs p ih =>
      have old : ∀ y, (graph (pairs ++ [p])).Reachable y
          ((ofPairs pairs).normalize y) :=
        fun y => (ih y).mono
          (graph_mono (edges_mono (List.subset_append_left _ _)))
      rw [ofPairs_append_singleton, normalize_insert]
      split
      · -- the class of `x` was led over the new edge, from the second end
        -- to the first
        rename_i hx
        have new : (graph (pairs ++ [p])).Reachable p.1 p.2 :=
          reachable_of_mem (by simp)
        have hxb := old x
        rw [hx] at hxb
        exact hxb.trans ((old p.2).symm.trans (new.symm.trans (old p.1)))
      · exact old x

/-- The two mnemonics of a pair have one representative. -/
lemma normalize_eq_of_mem {pairs : List (String × String)}
    {p : String × String} (h : p ∈ pairs) :
    (ofPairs pairs).normalize p.1 = (ofPairs pairs).normalize p.2 := by
  induction pairs using List.reverseRecOn with
  | nil => simp at h
  | append_singleton pairs q ih =>
      rw [ofPairs_append_singleton]
      rcases List.mem_append.1 h with h | h
      · exact normalize_insert_congr _ _ (ih h)
      · rw [List.mem_singleton.1 h]
        exact normalize_insert_self _ _ _

/-- Adjacent mnemonics have one representative. -/
lemma normalize_eq_of_adj {pairs : List (String × String)} {x y : String}
    (h : (graph pairs).Adj x y) :
    (ofPairs pairs).normalize x = (ofPairs pairs).normalize y := by
  rw [graph, SimpleGraph.fromEdgeSet_adj] at h
  obtain ⟨⟨p, hp, he⟩, -⟩ := h
  rcases Sym2.eq_iff.1 he with ⟨rfl, rfl⟩ | ⟨rfl, rfl⟩
  · exact normalize_eq_of_mem hp
  · exact (normalize_eq_of_mem hp).symm

/-- Representatives agree exactly on connected mnemonics. -/
lemma normalize_eq_iff_reachable (pairs : List (String × String))
    (x y : String) :
    (ofPairs pairs).normalize x = (ofPairs pairs).normalize y ↔
      (graph pairs).Reachable x y := by
  constructor
  · intro h
    have hx := reachable_normalize pairs x
    rw [h] at hx
    exact hx.trans (reachable_normalize pairs y).symm
  · rintro ⟨walk⟩
    induction walk with
    | nil => rfl
    | cons hadj _ ih => exact (normalize_eq_of_adj hadj).trans ih

/-! ### Equivalence -/

/-- Whether two mnemonics are declared equal, in this order. -/
def Declared (pairs : List (String × String)) (x y : String) : Prop :=
  (x, y) ∈ pairs

lemma eqvGen_of_adj {pairs : List (String × String)} {x y : String}
    (h : (graph pairs).Adj x y) : Relation.EqvGen (Declared pairs) x y := by
  rw [graph, SimpleGraph.fromEdgeSet_adj] at h
  obtain ⟨⟨p, hp, he⟩, -⟩ := h
  rcases Sym2.eq_iff.1 he with ⟨rfl, rfl⟩ | ⟨rfl, rfl⟩
  · exact .rel _ _ hp
  · exact .symm _ _ (.rel _ _ hp)

/-- Two mnemonics are equivalent exactly when the equivalence that the
declared pairs generate relates them. -/
lemma equivalent_ofPairs_iff_eqvGen (pairs : List (String × String))
    (x y : String) :
    (ofPairs pairs).equivalent x y = true ↔
      Relation.EqvGen (Declared pairs) x y := by
  rw [equivalent_iff]
  constructor
  · rw [normalize_eq_iff_reachable]
    rintro ⟨walk⟩
    induction walk with
    | nil => exact .refl _
    | cons hadj _ ih => exact .trans _ _ _ (eqvGen_of_adj hadj) ih
  · intro h
    induction h with
    | rel x y h => exact normalize_eq_of_mem (p := (x, y)) h
    | refl x => rfl
    | symm x y _ ih => exact ih.symm
    | trans x y z _ _ ih ih' => exact ih.trans ih'

/-- With more edges, what is equivalent stays so, whichever representatives
the classes have then. -/
lemma equivalent_mono {pairs more : List (String × String)}
    (h : edges pairs ⊆ edges more) {x y : String}
    (hxy : (ofPairs pairs).equivalent x y = true) :
    (ofPairs more).equivalent x y = true := by
  rw [equivalent_iff, normalize_eq_iff_reachable] at hxy ⊢
  exact hxy.mono (graph_mono h)

/-- Two mnemonics are equivalent exactly when they are equal or connected by
the pairs. So the order of the pairs, their orientation and repeats do not
count: pairs with the same edges give the same equivalence. -/
theorem equivalent_ofPairs_iff (pairs : List (String × String)) :
    (∀ x y, (ofPairs pairs).equivalent x y = true ↔
      x = y ∨ (graph pairs).Reachable x y) ∧
    ∀ other, edges other = edges pairs →
      ∀ x y, (ofPairs other).equivalent x y =
        (ofPairs pairs).equivalent x y := by
  have key : ∀ (ps : List (String × String)) (x y : String),
      (ofPairs ps).equivalent x y = true ↔
        x = y ∨ (graph ps).Reachable x y := by
    intro ps x y
    rw [equivalent_iff, normalize_eq_iff_reachable]
    refine ⟨.inr, ?_⟩
    rintro (rfl | h)
    · exact .rfl
    · exact h
  refine ⟨key pairs, fun other h x y => ?_⟩
  rw [Bool.eq_iff_iff, key, key, graph, graph, h]

/-- Three pairs that chain four mnemonics, declared in another order, turned
round and repeated: the ends of the chain are equivalent all the same. -/
theorem equivalent_chain_reordered :
    edges [("C", "D"), ("B", "A"), ("C", "B"), ("A", "B"), ("C", "D")] =
        edges [("A", "B"), ("C", "D"), ("B", "C")] ∧
      (ofPairs [("C", "D"), ("B", "A"), ("C", "B"), ("A", "B"),
        ("C", "D")]).equivalent "A" "D" = true := by
  have h : edges [("C", "D"), ("B", "A"), ("C", "B"), ("A", "B"),
      ("C", "D")] = edges [("A", "B"), ("C", "D"), ("B", "C")] := by
    ext e
    simp only [edges, List.mem_cons, List.not_mem_nil, or_false,
      exists_eq_or_imp, exists_eq_left, Set.mem_ofPred_eq,
      Sym2.eq_swap (a := "B") (b := "A"), Sym2.eq_swap (a := "C") (b := "B")]
    tauto
  refine ⟨h, ?_⟩
  rw [(equivalent_ofPairs_iff _).2 _ h]
  decide

end BitProbe.AliasTable

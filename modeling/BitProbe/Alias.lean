import BitProbe.Sorted.Map

/-!
Mnemonics that denote one field value.

A disassembler may print different mnemonics for one value of the opcode
field. A table of aliases is built by declaring pairs of mnemonics equal; the
mnemonics fall into classes, and each class has a representative.

The table leads from a mnemonic to its representative in one step, and a
mnemonic that it does not hold represents itself. Declaring `a` and `b` equal
gives every mnemonic that had the representative of `b` the one of `a`. No
step may lead to a mnemonic from which another step leads on, or a class that
is merged later would fall apart; a table carries the proof that none does.

* `AliasTable.insert`, `AliasTable.ofPairs`;
* `AliasTable.normalize`: the representative of a mnemonic;
* `AliasTable.equivalent`: whether two mnemonics have one representative;
* `AliasTable.normalize_normalize`: a representative represents itself;
* `AliasTable.normalize_insert`: what one declaration changes.
-/

namespace BitProbe

namespace Alias

/-- What a map leads to from a mnemonic, which is the mnemonic itself if the
map does not hold it. -/
def representative (m : SortedMap String String) (mnemonic : String) :
    String :=
  (m.find? mnemonic).getD mnemonic

/-- No step of the map leads to where another step leads on. -/
def IsFlat (m : SortedMap String String) : Prop :=
  ∀ x, representative m (representative m x) = representative m x

/-- The map with the class of the representative `rb` led to `ra`. -/
def redirect (m : SortedMap String String) (ra rb : String) :
    SortedMap String String :=
  if ra = rb then m
  else (m.mapValues fun r => if r = rb then ra else r).insert rb ra

/-- The map with the classes of `a` and `b` joined. Both mnemonics are held
afterwards. -/
def join (m : SortedMap String String) (a b : String) :
    SortedMap String String :=
  let ra := representative m a
  let rb := representative m b
  ((redirect m ra rb).insertIfNew a ra).insert b ra

/-- Inserting a step changes where its start leads. -/
theorem representative_insert (m : SortedMap String String)
    (k v x : String) :
    representative (m.insert k v) x =
      if x = k then v else representative m x := by
  rw [representative, SortedMap.find?_insert]
  split <;> rfl

/-- Inserting a step unless there is one changes nothing if it leads to where
its start leads already. -/
theorem representative_insertIfNew {m : SortedMap String String}
    {k v : String} (h : representative m k = v) (x : String) :
    representative (m.insertIfNew k v) x = representative m x := by
  rw [representative, SortedMap.find?_insertIfNew]
  by_cases hx : x = k
  · subst hx
    cases hf : m.find? x with
    | none => simpa [representative, hf] using h.symm
    | some w => simp [representative, hf]
  · simp [representative, hx]

/-- Redirecting a representative gives its class the other one. -/
theorem representative_redirect {m : SortedMap String String} {ra rb : String}
    (h : representative m rb = rb) (x : String) :
    representative (redirect m ra rb) x =
      if representative m x = rb then ra else representative m x := by
  unfold redirect
  by_cases hr : ra = rb
  · rw [if_pos hr, hr]
    split <;> simp_all
  · rw [if_neg hr, representative_insert]
    by_cases hx : x = rb
    · subst hx
      simp [h]
    · rw [if_neg hx]
      cases hf : m.find? x with
      | none => simp [representative, hf, hx]
      | some r => simp [representative, hf]

/-- Joining two classes gives the mnemonics of the second the representative
of the first, and leaves all others alone. -/
theorem representative_join {m : SortedMap String String} (h : IsFlat m)
    (a b x : String) :
    representative (join m a b) x =
      if representative m x = representative m b then representative m a
      else representative m x := by
  have ha : representative
      (redirect m (representative m a) (representative m b)) a =
        representative m a := by
    rw [representative_redirect (h b)]
    split <;> rfl
  rw [join, representative_insert]
  by_cases hx : x = b
  · subst hx
    simp
  · rw [if_neg hx, representative_insertIfNew ha,
      representative_redirect (h b)]

/-- Joining two classes keeps a map flat. -/
theorem IsFlat.join {m : SortedMap String String} (h : IsFlat m)
    (a b : String) : IsFlat (Alias.join m a b) := by
  intro x
  rw [representative_join h, representative_join h]
  by_cases hx : representative m x = representative m b
  · rw [if_pos hx, h a]
    split <;> rfl
  · rw [if_neg hx, h x, if_neg hx]

end Alias

/-- Pairs of mnemonics declared equal, in the order of the declarations, and
the steps from mnemonics to their representatives that follow from them. -/
structure AliasTable where
  pairs : List (String × String)
  canonical : SortedMap String String
  flat : Alias.IsFlat canonical
  deriving DecidableEq

namespace AliasTable

instance : EmptyCollection AliasTable where
  emptyCollection := ⟨[], ∅, fun _ => rfl⟩

/-- The representative of a mnemonic. -/
def normalize (t : AliasTable) (mnemonic : String) : String :=
  Alias.representative t.canonical mnemonic

/-- Whether two mnemonics denote the same field value. -/
def equivalent (t : AliasTable) (a b : String) : Bool :=
  t.normalize a = t.normalize b

/-- The table with `a` and `b` declared equal. -/
def insert (t : AliasTable) (a b : String) : AliasTable where
  pairs := t.pairs ++ [(a, b)]
  canonical := Alias.join t.canonical a b
  flat := t.flat.join a b

/-- The table of a list of pairs, declared in their order. -/
def ofPairs (pairs : List (String × String)) : AliasTable :=
  pairs.foldl (fun t p => t.insert p.1 p.2) ∅

/-- In an empty table every mnemonic represents itself. -/
@[simp] theorem normalize_empty (x : String) :
    (∅ : AliasTable).normalize x = x :=
  rfl

/-- A representative represents itself. -/
@[simp] theorem normalize_normalize (t : AliasTable) (x : String) :
    t.normalize (t.normalize x) = t.normalize x :=
  t.flat x

/-- Declaring `a` and `b` equal gives the mnemonics that had the
representative of `b` the one of `a`, and leaves all others alone. -/
theorem normalize_insert (t : AliasTable) (a b x : String) :
    (t.insert a b).normalize x =
      if t.normalize x = t.normalize b then t.normalize a
      else t.normalize x :=
  Alias.representative_join t.flat a b x

/-- Mnemonics are equivalent exactly when their representatives agree. -/
theorem equivalent_iff {t : AliasTable} {a b : String} :
    t.equivalent a b = true ↔ t.normalize a = t.normalize b := by
  simp [equivalent]

end AliasTable

end BitProbe

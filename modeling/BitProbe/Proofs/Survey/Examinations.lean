import BitProbe.Proofs.DecodeTable.Rows
import BitProbe.Survey

/-!
What each examination of a survey leaves behind.

An examination makes a consistent sweep of its entry. It makes a table, too,
if modifiers are looked for and the sweep has shown some without being cut
short; the table is then about the entry and the modifier bits of the sweep.
None of this depends on what the oracle answers, or on what was examined
before.

* `Survey.Examination.Sound`: an examination as it should be;
* `Survey.Examination.Regular`: what it also is if its questions are asked in
  another order;
* `Survey.sound_examine`, `Survey.sound_of_mem_examineAll`: every examination
  is;
* `Survey.map_entry_examineAll`, `Survey.exists_of_mem_examineAll`: there is
  one for every entry, in order, and no other;
* `Survey.examineAll_unit`, `Survey.run_ofFunction`: with an oracle without
  states, each entry is examined by itself.
-/

namespace BitProbe.Survey

variable {σ : Type}

/-- Whether a sweep is followed by an enumeration. -/
def enumerates (g : Goal) (sweep : Sweep) : Prop :=
  g = .modifiers ∧ sweep.classes.idxsOf .modifier ≠ [] ∧ sweep.aborted = false

instance (g : Goal) (sweep : Sweep) : Decidable (enumerates g sweep) :=
  inferInstanceAs (Decidable (_ ∧ _ ∧ _))

/-- The sweep of an examination is of its entry and consistent, and there is
a table exactly if it was to be enumerated, about the entry and the modifier
bits. -/
structure Examination.Sound (p : Plan) (g : Goal) (x : Examination) :
    Prop where
  baseline : x.sweep.baseline = x.entry.instruction
  sweep : x.sweep.Consistent p.criteria
  head : x.table.map (fun t => (t.line, t.opcode, t.encoding, t.positions)) =
    if enumerates g x.sweep then
      some (x.entry.line, x.entry.instruction.opcode,
        x.entry.instruction.encoding, x.sweep.classes.idxsOf .modifier)
    else none
  table : ∀ t ∈ x.table, t.Fits p.maxBits

/-- The sweep of an examination is of its entry and consistent, and there is
a table exactly if it was to be enumerated, about the entry and the modifier
bits. How much of it was asked is left open. -/
structure Examination.Regular (p : Plan) (g : Goal) (x : Examination) :
    Prop where
  baseline : x.sweep.baseline = x.entry.instruction
  sweep : x.sweep.Consistent p.criteria
  head : x.table.map (fun t => (t.line, t.opcode, t.encoding, t.positions)) =
    if enumerates g x.sweep then
      some (x.entry.line, x.entry.instruction.opcode,
        x.entry.instruction.encoding, x.sweep.classes.idxsOf .modifier)
    else none

lemma Examination.Sound.regular {p : Plan} {g : Goal} {x : Examination}
    (hx : x.Sound p g) : x.Regular p g :=
  ⟨hx.baseline, hx.sweep, hx.head⟩

/-- The table of an examination is about its entry and the modifier bits. -/
lemma Examination.Regular.head_of_table {p : Plan} {g : Goal}
    {x : Examination} (hx : x.Regular p g) {t : DecodeTable}
    (ht : x.table = some t) :
    t.line = x.entry.line ∧ t.opcode = x.entry.instruction.opcode ∧
      t.encoding = x.entry.instruction.encoding ∧
      t.positions = x.sweep.classes.idxsOf .modifier := by
  have hhead := hx.head
  rw [ht, Option.map_some] at hhead
  by_cases he : enumerates g x.sweep
  · rw [if_pos he] at hhead
    simpa using hhead
  · rw [if_neg he] at hhead
    cases hhead

lemma Examination.Sound.head_of_table {p : Plan} {g : Goal}
    {x : Examination} (hx : x.Sound p g) {t : DecodeTable}
    (ht : x.table = some t) :
    t.line = x.entry.line ∧ t.opcode = x.entry.instruction.opcode ∧
      t.encoding = x.entry.instruction.encoding ∧
      t.positions = x.sweep.classes.idxsOf .modifier :=
  hx.regular.head_of_table ht

/-- A consistent sweep has modifier bits exactly if some bit has that
class. -/
lemma isEmpty_modifierBits {c : Criteria} {s : Sweep} (h : s.Consistent c) :
    s.modifierBits.isEmpty = false ↔ s.classes.idxsOf .modifier ≠ [] := by
  rw [SortedSet.isEmpty, h.modifierBits]
  simp

/-- An examination is regular if the sweep is consistent and there is a table
of its modifier bits exactly if it was to be enumerated. -/
lemma Examination.Regular.of_table {p : Plan} {g : Goal} {e : Listing.Entry}
    {sweep : Sweep} {table : Option DecodeTable}
    (hbase : sweep.baseline = e.instruction)
    (hcons : sweep.Consistent p.criteria)
    (htable : enumerates g sweep → ∃ t, table = some t ∧ t.line = e.line ∧
      t.opcode = sweep.baseline.opcode ∧
      t.encoding = sweep.baseline.encoding ∧
      t.positions =
        (SortedSet.ofList (sweep.classes.idxsOf .modifier)).toList)
    (hnone : ¬ enumerates g sweep → table = none) :
    Examination.Regular p g ⟨e, sweep, table⟩ := by
  refine ⟨hbase, hcons, ?_⟩
  by_cases h : enumerates g sweep
  · obtain ⟨t, ht, hline, hop, henc, hps⟩ := htable h
    have hpos : (SortedSet.ofList (sweep.classes.idxsOf .modifier)).toList =
        sweep.classes.idxsOf .modifier :=
      SortedSet.toList_ofList
        (pairwise_compare_of_pairwise_lt List.pairwise_idxsOf)
    rw [if_pos h, ht, Option.map_some, hline, hop, henc, hps, hpos, hbase]
  · rw [if_neg h, hnone h, Option.map_none]

/-- A sweep that is to be enumerated leads to the table of its modifier
bits. -/
lemma enumerate_of_enumerates {p : Plan} {g : Goal} (o : Oracle σ)
    (line : Nat) {sweep : Sweep} (s : σ) (hs : sweep.Consistent p.criteria)
    (h : enumerates g sweep) :
    (enumerate p g o line sweep s).1 =
      some (DecodeTable.run p.criteria p.maxBits o line sweep.baseline.opcode
        sweep.baseline.encoding (sweep.classes.idxsOf .modifier) s).1 := by
  rw [enumerate, if_pos ⟨h.1, (isEmpty_modifierBits hs).2 h.2.1, h.2.2⟩,
    hs.modifierBits]

/-- Any other sweep leads to no table. -/
lemma enumerate_of_not_enumerates {p : Plan} {g : Goal} (o : Oracle σ)
    (line : Nat) {sweep : Sweep} (s : σ) (hs : sweep.Consistent p.criteria)
    (h : ¬ enumerates g sweep) :
    (enumerate p g o line sweep s).1 = none := by
  rw [enumerate, if_neg]
  rintro ⟨hg, hm, ha⟩
  exact h ⟨hg, (isEmpty_modifierBits hs).1 hm, ha⟩

/-- Every examination is as it should be, whatever the oracle answers. -/
theorem sound_examine (p : Plan) (g : Goal) (o : Oracle σ)
    (e : Listing.Entry) (s : σ) : (examine p g o e s).1.Sound p g := by
  set sweep := (Sweep.run p.criteria o e.instruction s).1 with hsweep
  set s' := (Sweep.run p.criteria o e.instruction s).2
  have hx : (examine p g o e s).1 =
      ⟨e, sweep, (enumerate p g o e.line sweep s').1⟩ := rfl
  have hcons : sweep.Consistent p.criteria := Sweep.consistent_run _ _ _ _
  have hregular : Examination.Regular p g
      ⟨e, sweep, (enumerate p g o e.line sweep s').1⟩ :=
    .of_table (Sweep.baseline_run _ _ _ _) hcons
      (fun h => ⟨_, enumerate_of_enumerates o e.line s' hcons h,
        DecodeTable.head_run _ _ _ _ _ _ _ _⟩)
      (enumerate_of_not_enumerates o e.line s' hcons)
  rw [hx]
  refine ⟨hregular.baseline, hregular.sweep, hregular.head, ?_⟩
  intro t ht
  by_cases h : enumerates g sweep
  · rw [enumerate_of_enumerates o e.line s' hcons h] at ht
    cases ht
    exact DecodeTable.fits_run _ _ _ _ _ _ _ _
  · rw [enumerate_of_not_enumerates o e.line s' hcons h] at ht
    cases ht

/-- The table of an examination is the one that the oracle makes of the
modifier bits that the sweep has shown. -/
lemma table_examine {p : Plan} {g : Goal} {o : Oracle σ} {e : Listing.Entry}
    {s : σ} {t : DecodeTable}
    (h : (examine p g o e s).1.table = some t) :
    let r := Sweep.run p.criteria o e.instruction s
    enumerates g r.1 ∧
      (DecodeTable.run p.criteria p.maxBits o e.line e.instruction.opcode
        e.instruction.encoding (r.1.classes.idxsOf .modifier) r.2).1 = t := by
  intro r
  have hcons : r.1.Consistent p.criteria := Sweep.consistent_run _ _ _ _
  have ht : (enumerate p g o e.line r.1 r.2).1 = some t := h
  by_cases he : enumerates g r.1
  · rw [enumerate_of_enumerates o e.line r.2 hcons he] at ht
    exact ⟨he, Option.some.inj ht⟩
  · rw [enumerate_of_not_enumerates o e.line r.2 hcons he] at ht
    cases ht

/-- Entries are examined in order, each once. -/
lemma map_entry_examineAll (p : Plan) (g : Goal) (o : Oracle σ)
    (es : List Listing.Entry) (s : σ) :
    (examineAll p g o es s).1.map (·.entry) = es := by
  induction es generalizing s with
  | nil => rfl
  | cons e es ih =>
      rw [examineAll, List.map_cons, ih]
      rfl

/-- Each examination is of some entry, in the state that the oracle was left
in before. -/
lemma exists_of_mem_examineAll {p : Plan} {g : Goal} {o : Oracle σ}
    {es : List Listing.Entry} {s : σ} {x : Examination}
    (h : x ∈ (examineAll p g o es s).1) :
    ∃ e s, x = (examine p g o e s).1 := by
  induction es generalizing s with
  | nil => cases h
  | cons e es ih =>
      rw [examineAll] at h
      rcases List.mem_cons.1 h with rfl | h
      · exact ⟨e, s, rfl⟩
      · exact ih h

/-- However many entries come before, every examination is as it should
be. -/
lemma sound_of_mem_examineAll {p : Plan} {g : Goal} {o : Oracle σ}
    {es : List Listing.Entry} {s : σ} {x : Examination}
    (h : x ∈ (examineAll p g o es s).1) : x.Sound p g := by
  obtain ⟨e, s, rfl⟩ := exists_of_mem_examineAll h
  exact sound_examine p g o e s

/-- An oracle without states examines every entry by itself. -/
lemma examineAll_unit (p : Plan) (g : Goal) (o : Oracle Unit)
    (es : List Listing.Entry) :
    (examineAll p g o es ()).1 =
      es.map fun e => (examine p g o e ()).1 := by
  induction es with
  | nil => rfl
  | cons e es ih =>
      rw [List.map_cons, ← ih]
      rfl

/-- With an oracle that is a function, a survey adds up what each entry leads
to by itself. -/
lemma run_ofFunction (p : Plan) (g : Goal) (f : Word → Answer)
    (l : Listing) :
    (run p g (Oracle.ofFunction f) l ()).1 =
      report p.architecture g
        (l.entries.map fun e => (examine p g (Oracle.ofFunction f) e ()).1)
        l.skipped := by
  rw [← examineAll_unit]
  rfl

end BitProbe.Survey

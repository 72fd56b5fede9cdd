import BitProbe.Proofs.DecodeTable.Enumeration

/-!
Surveys whose questions may be asked side by side.

A sweep asks about its mutants one after another or side by side, and so does
an enumeration about the variants. The instructions of a listing are examined
one after another all the same. If nothing is asked side by side, this is the
survey that asks all questions in turn.

What an examination leaves behind does not depend on the order either, except
for how far it came.

* `Oracle.askIn`: asking words in an order;
* `Sweep.runIn`, `DecodeTable.runIn`, `Survey.runIn`: sweeping, enumerating and
  surveying in given orders;
* `Survey.runIn_ascending`: one question after another;
* `Survey.Examination.Regular`, `Survey.regular_examineIn`: what an examination is
  in every order.
-/

namespace BitProbe

variable {σ : Type}

open Enumeration (Order)

/-! ### Asking -/

/-- What asking some words leads to. -/
structure Oracle.Asked (σ : Type) where
  /-- The answer to each word, none where it was not asked. -/
  results : List (Option Answer)
  /-- Whether a process failure was among the answers. -/
  failed : Bool
  /-- The oracle afterwards. -/
  after : σ

/-- Asks words in an order. -/
def Oracle.askIn (o : Oracle σ) (order : Order) (ws : List Word) (s : σ) :
    Asked σ :=
  match order with
  | .ascending =>
    let (answers, s) := o.ask ws s
    ⟨Sweep.padded ws.length answers, answers.any Answer.isFailure, s⟩
  | .sideBySide schedule =>
    let (pool, s) := Pool.playWith o ws schedule s
    ⟨pool.results, pool.flag, s⟩

/-- There is a result for each word. -/
lemma Oracle.length_results_askIn (o : Oracle σ) (order : Order)
    (ws : List Word) (s : σ) :
    (o.askIn order ws s).results.length = ws.length := by
  cases order with
  | ascending => exact Sweep.length_padded (o.length_ask_le ws s)
  | sideBySide schedule =>
      obtain ⟨hpool, hrec⟩ := Pool.recorded_playWith o ws schedule s
      have hlen := congrArg List.length hrec.words
      rw [hpool, List.length_map] at hlen
      exact (List.length_map _).trans hlen

/-! ### Sweeps -/

namespace Sweep

/-- The sweep that an oracle makes in an order. -/
def runIn (c : Criteria) (o : Oracle σ) (order : Order)
    (baseline : Instruction) (s : σ) : Sweep × σ :=
  let asked := o.askIn order (mutants baseline.encoding) s
  (ofVerdicts baseline (asked.results.map (Verdict.ofAnswer c baseline))
    asked.failed, asked.after)

variable (c : Criteria) (o : Oracle σ) (order : Order)
  (baseline : Instruction) (s : σ)

/-- Bits asked about one after another. -/
lemma runIn_ascending :
    runIn c o .ascending baseline s = run c o baseline s := by
  simp only [runIn, run, Oracle.askIn, ofAnswers, any_padded, length_mutants]

/-- Bits asked about side by side. -/
lemma runIn_sideBySide (schedule : List Nat) :
    (runIn c o (.sideBySide schedule) baseline s).1 =
      ofPool c baseline
        (Pool.playWith o (mutants baseline.encoding) schedule s).1 :=
  rfl

/-- In every order the sweep is consistent. -/
theorem consistent_runIn :
    (runIn c o order baseline s).1.Consistent c := by
  refine consistent_ofVerdicts _ ?_ fun new hnew => ?_
  · rw [List.length_map, Oracle.length_results_askIn, length_mutants]
  · obtain ⟨a, -, ha⟩ := List.mem_map.1 hnew
    exact Verdict.not_equivalent_of_ofAnswer ha

end Sweep

/-! ### Tables -/

namespace DecodeTable

/-- The table that an oracle makes of an instruction in an order. -/
def runIn (c : Criteria) (maxBits : Nat) (o : Oracle σ) (order : Order)
    (line : Nat) (opcode : String) (encoding : Word) (positions : List Nat)
    (s : σ) : DecodeTable × σ :=
  let t := start line opcode encoding positions
  if min maxBits positionsCeiling < t.positions.length then
    ({ t with skipped := true }, s)
  else
    let asked := o.askIn order (variants encoding t.positions) s
    ({ t with
        queries := asked.results.countP Option.isSome
        entries := entriesFrom c 0 asked.results
        aborted := asked.failed },
      asked.after)

variable (c : Criteria) (maxBits : Nat) (o : Oracle σ) (line : Nat)
  (opcode : String) (encoding : Word) (positions : List Nat) (s : σ)

/-- Assignments asked about one after another. -/
lemma runIn_ascending :
    runIn c maxBits o .ascending line opcode encoding positions s =
      run c maxBits o line opcode encoding positions s := by
  rw [runIn, run]
  simp only [Oracle.askIn, ofAnswers, Sweep.any_padded]
  rfl

/-- Assignments asked about side by side. -/
lemma runIn_sideBySide (schedule : List Nat) :
    runIn c maxBits o (.sideBySide schedule) line opcode encoding positions s =
      parallelWith c maxBits o line opcode encoding positions schedule s :=
  rfl

/-- The table is about the instruction and the positions. -/
lemma head_runIn (order : Order) :
    let t := (runIn c maxBits o order line opcode encoding positions s).1
    t.line = line ∧ t.opcode = opcode ∧ t.encoding = encoding ∧
      t.positions = (SortedSet.ofList positions).toList := by
  rw [runIn]
  dsimp only
  split <;> exact ⟨rfl, rfl, rfl, rfl⟩

/-- What a table holds was entered by an answer. -/
lemma rendering_of_find?_runIn (order : Order) {v : Nat} {text : String}
    (h : (runIn c maxBits o order line opcode encoding positions s
      ).1.entries.find? v = some text) :
    ∃ a, rendering c a = some text := by
  rw [runIn] at h
  dsimp only at h
  split at h
  · cases h
  · rw [find?_entriesFrom, if_pos (Nat.zero_le v), Option.bind_eq_some_iff] at h
    obtain ⟨a, -, ha⟩ := h
    exact ⟨a, ha⟩

end DecodeTable

/-! ### Surveys -/

namespace Survey

/-- In which orders an examination asks its questions. -/
structure Examination.Orders where
  sweep : Order
  table : Order

/-- The decode table of a sweep's modifier bits, if they are looked for, if
there are some, and if the oracle has not failed during the sweep. -/
def enumerateIn (p : Plan) (g : Goal) (o : Oracle σ) (order : Order)
    (line : Nat) (sweep : Sweep) (s : σ) : Option DecodeTable × σ :=
  if g = .modifiers ∧ sweep.modifierBits.isEmpty = false ∧
      sweep.aborted = false then
    let (t, s) := DecodeTable.runIn p.criteria p.maxBits o order line
      sweep.baseline.opcode sweep.baseline.encoding
      sweep.modifierBits.toList s
    (some t, s)
  else (none, s)

/-- Examines an entry. -/
def examineIn (p : Plan) (g : Goal) (o : Oracle σ)
    (orders : Examination.Orders) (e : Listing.Entry) (s : σ) :
    Examination × σ :=
  let (sweep, s) := Sweep.runIn p.criteria o orders.sweep e.instruction s
  let (table, s) := enumerateIn p g o orders.table e.line sweep s
  (⟨e, sweep, table⟩, s)

/-- Examines entries one after another, each in the orders for its line. -/
def examineAllIn (p : Plan) (g : Goal) (o : Oracle σ)
    (orders : Nat → Examination.Orders) :
    List Listing.Entry → σ → List Examination × σ
  | [], s => ([], s)
  | e :: es, s =>
    let (x, s) := examineIn p g o (orders e.line) e s
    let (xs, s) := examineAllIn p g o orders es s
    (x :: xs, s)

/-- The report on a listing that an oracle leads to. -/
def runIn (p : Plan) (g : Goal) (o : Oracle σ)
    (orders : Nat → Examination.Orders) (l : Listing) (s : σ) : Report × σ :=
  let (xs, s) := examineAllIn p g o orders l.entries s
  (report p.architecture g xs l.skipped, s)

/-! ### One question after another -/

section Ascending

variable (p : Plan) (g : Goal) (o : Oracle σ)

lemma examineIn_ascending (e : Listing.Entry) (s : σ) :
    examineIn p g o ⟨.ascending, .ascending⟩ e s = examine p g o e s := by
  rw [examineIn, examine, Sweep.runIn_ascending]
  simp only [enumerateIn, enumerate, DecodeTable.runIn_ascending]

lemma examineAllIn_ascending (es : List Listing.Entry) (s : σ) :
    examineAllIn p g o (fun _ => ⟨.ascending, .ascending⟩) es s =
      examineAll p g o es s := by
  induction es generalizing s with
  | nil => rfl
  | cons e es ih =>
      rw [examineAllIn, examineAll, examineIn_ascending]
      simp only [ih]

/-- The survey that asks nothing side by side. -/
theorem runIn_ascending (l : Listing) (s : σ) :
    runIn p g o (fun _ => ⟨.ascending, .ascending⟩) l s = run p g o l s := by
  rw [runIn, run, examineAllIn_ascending]

end Ascending

/-! ### What examinations leave behind -/

section Examinations

variable {p : Plan} {g : Goal} {o : Oracle σ}

/-- A sweep that is to be enumerated leads to the table of its modifier
bits. -/
lemma enumerateIn_of_enumerates (order : Order) (line : Nat) {sweep : Sweep}
    (s : σ) (hs : sweep.Consistent p.criteria) (h : enumerates g sweep) :
    (enumerateIn p g o order line sweep s).1 =
      some (DecodeTable.runIn p.criteria p.maxBits o order line
        sweep.baseline.opcode sweep.baseline.encoding
        (sweep.classes.idxsOf .modifier) s).1 := by
  rw [enumerateIn, if_pos ⟨h.1, (isEmpty_modifierBits hs).2 h.2.1, h.2.2⟩,
    hs.modifierBits]

/-- Any other sweep leads to no table. -/
lemma enumerateIn_of_not_enumerates (order : Order) (line : Nat)
    {sweep : Sweep} (s : σ) (hs : sweep.Consistent p.criteria)
    (h : ¬ enumerates g sweep) :
    (enumerateIn p g o order line sweep s).1 = none := by
  rw [enumerateIn, if_neg]
  rintro ⟨hg, hm, ha⟩
  exact h ⟨hg, (isEmpty_modifierBits hs).1 hm, ha⟩

/-- In every order an examination is regular. -/
theorem regular_examineIn (orders : Examination.Orders) (e : Listing.Entry)
    (s : σ) : (examineIn p g o orders e s).1.Regular p g :=
  have hcons := Sweep.consistent_runIn p.criteria o orders.sweep
    e.instruction s
  .of_table rfl hcons
    (fun h => ⟨_, enumerateIn_of_enumerates orders.table e.line _ hcons h,
      DecodeTable.head_runIn _ _ _ _ _ _ _ _ _⟩)
    (enumerateIn_of_not_enumerates orders.table e.line _ hcons)

/-- Entries are examined in order, each once. -/
lemma map_entry_examineAllIn (orders : Nat → Examination.Orders)
    (es : List Listing.Entry) (s : σ) :
    (examineAllIn p g o orders es s).1.map (·.entry) = es := by
  induction es generalizing s with
  | nil => rfl
  | cons e es ih =>
      rw [examineAllIn, List.map_cons, ih]
      rfl

/-- Each examination is of some entry, in the state that the oracle was left
in before. -/
lemma exists_of_mem_examineAllIn {orders : Nat → Examination.Orders}
    {es : List Listing.Entry} {s : σ} {x : Examination}
    (h : x ∈ (examineAllIn p g o orders es s).1) :
    ∃ e s, x = (examineIn p g o (orders e.line) e s).1 := by
  induction es generalizing s with
  | nil => cases h
  | cons e es ih =>
      rw [examineAllIn] at h
      rcases List.mem_cons.1 h with rfl | h
      · exact ⟨e, s, rfl⟩
      · exact ih h

end Examinations

end Survey

end BitProbe

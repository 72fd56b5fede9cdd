import BitProbe.Proofs.Pool.Changing
import BitProbe.Proofs.Survey.Rounds

/-!
Enumerations.

However the assignments of an instruction are asked about, one after another
or side by side, an entry of the table goes back to a call of the oracle about
the word that carries its assignment.

* `Enumeration`, `Enumeration.table`: what an enumeration goes by, and the
  table that it makes;
* `Enumeration.Called`: the call of the oracle about an assignment;
* `Enumeration.positions_table`: the positions of the table;
* `Enumeration.called_of_find?`: the call behind an entry.
-/

namespace BitProbe

/-- In which order assignments are asked about. -/
inductive Enumeration.Order where
  /-- One after another, up to the first process failure. -/
  | ascending
  /-- Side by side, as a schedule says. -/
  | sideBySide (schedule : List Nat)

/-- What an enumeration goes by. -/
structure Enumeration (σ : Type) where
  criteria : Criteria
  maxBits : Nat
  oracle : Oracle σ
  /-- The oracle before the enumeration. -/
  before : σ
  order : Enumeration.Order
  line : Nat
  opcode : String
  encoding : Word
  /-- The positions in any order, perhaps repeated. -/
  positions : List Nat

namespace Enumeration

variable {σ : Type} (e : Enumeration σ)

/-- The table that an enumeration makes. -/
def table : DecodeTable :=
  match e.order with
  | .ascending =>
    (DecodeTable.run e.criteria e.maxBits e.oracle e.line e.opcode e.encoding
      e.positions e.before).1
  | .sideBySide schedule =>
    (DecodeTable.parallelWith e.criteria e.maxBits e.oracle e.line e.opcode
      e.encoding e.positions schedule e.before).1

/-- Whether a call is the one about an assignment: the call with its number,
or one that the task with its number has made and ended with. -/
def Called (assignment : Nat) (call : Call) : Prop :=
  match e.order with
  | .ascending =>
    (DecodeTable.run e.criteria e.maxBits e.oracle.transcribed e.line e.opcode
      e.encoding e.positions ([], e.before)).2.1[assignment]? = some call
  | .sideBySide schedule =>
    let q := Pool.playWith e.oracle.transcribed
      (DecodeTable.questions e.maxBits e.encoding e.positions) schedule
      ([], e.before)
    q.1.tasks[assignment]? = some ⟨call.1, .ended (some call.2)⟩ ∧
      call ∈ q.2.1

/-- Whether there are too many positions to ask at all. -/
def IsTooWide : Prop :=
  min e.maxBits DecodeTable.positionsCeiling <
    (SortedSet.ofList e.positions).toList.length

instance : Decidable e.IsTooWide :=
  inferInstanceAs (Decidable (_ < _))

/-- The table is about the instruction, with the positions in ascending
order. -/
lemma head_table :
    e.table.line = e.line ∧ e.table.opcode = e.opcode ∧
      e.table.encoding = e.encoding ∧
      e.table.positions = (SortedSet.ofList e.positions).toList := by
  rw [table]
  split
  · exact DecodeTable.head_run _ _ _ _ _ _ _ _
  · rw [DecodeTable.parallelWith]
    dsimp only
    split <;> exact ⟨rfl, rfl, rfl, rfl⟩

lemma positions_table :
    e.table.positions = (SortedSet.ofList e.positions).toList :=
  e.head_table.2.2.2

/-- The words that are asked about, unless there are too many positions. -/
lemma questions_of_not_isTooWide (h : ¬ e.IsTooWide) :
    DecodeTable.questions e.maxBits e.encoding e.positions =
      DecodeTable.variants e.encoding e.table.positions := by
  rw [positions_table]
  exact if_neg h

/-- The results of asking about the assignments, one for each: none where it
was not asked. -/
def results : List (Option Answer) :=
  let words := DecodeTable.questions e.maxBits e.encoding e.positions
  match e.order with
  | .ascending =>
    Sweep.padded words.length (e.oracle.ask words e.before).1
  | .sideBySide schedule =>
    (Pool.playWith e.oracle words schedule e.before).1.results

/-- With too many positions the table is skipped. -/
lemma entries_of_isTooWide (h : e.IsTooWide) : e.table.entries = ∅ := by
  rw [table]
  split
  · rw [DecodeTable.run_of_lt _ _ _ _ _ _ _ _ h]
    rfl
  · rw [DecodeTable.parallelWith_of_lt _ _ _ _ _ _ _ _ _ h]
    rfl

/-- Otherwise it holds what the results enter. -/
lemma entries_of_not_isTooWide (h : ¬ e.IsTooWide) :
    e.table.skipped = false ∧
      e.table.entries =
        DecodeTable.entriesFrom e.criteria 0 e.results := by
  rw [results, e.questions_of_not_isTooWide h, positions_table, table]
  cases e.order with
  | ascending =>
      dsimp only
      rw [DecodeTable.run_of_le _ _ _ _ _ _ _ _ (Nat.not_lt.1 h),
        DecodeTable.length_variants]
      exact ⟨rfl, rfl⟩
  | sideBySide schedule =>
      dsimp only
      rw [DecodeTable.parallelWith_of_le _ _ _ _ _ _ _ _ _ (Nat.not_lt.1 h)]
      exact ⟨rfl, rfl⟩

/-- A result goes back to a call about its word. -/
lemma called_of_results (h : ¬ e.IsTooWide) {v : Nat} {a : Answer}
    (hv : e.results[v]? = some (some a)) :
    v < 2 ^ e.table.positions.length ∧
      e.Called v (e.encoding.assign e.table.positions (BitVec.ofNat 64 v),
        a) := by
  rw [results, e.questions_of_not_isTooWide h] at hv
  rw [Called, e.questions_of_not_isTooWide h]
  cases horder : e.order with
  | ascending =>
      rw [horder] at hv
      dsimp only at hv ⊢
      have hans : (e.oracle.ask (DecodeTable.variants e.encoding
          e.table.positions) e.before).1[v]? = some a :=
        Sweep.getElem?_of_padded hv
      have hlt : v < 2 ^ e.table.positions.length := by
        rw [← DecodeTable.length_variants e.encoding]
        exact Nat.lt_of_lt_of_le (List.getElem?_eq_some_iff.1 hans).1
          (e.oracle.length_ask_le _ _)
      refine ⟨hlt, ?_⟩
      rw [DecodeTable.run_transcribed, e.questions_of_not_isTooWide h,
        List.nil_append, Oracle.calls, List.getElem?_zip_eq_some]
      exact ⟨DecodeTable.getElem?_variants _ _ hlt, hans⟩
  | sideBySide schedule =>
      rw [horder] at hv
      dsimp only at hv ⊢
      obtain ⟨hpool, hrec⟩ := Pool.recorded_playWith e.oracle
        (DecodeTable.variants e.encoding e.table.positions) schedule e.before
      rw [← hpool, Pool.results, List.getElem?_map,
        Option.map_eq_some_iff] at hv
      obtain ⟨⟨w, stage⟩, htask, hresult⟩ := hv
      have hended : stage = .ended (some a) := by
        cases stage with
        | waiting | asking | answered => cases hresult
        | ended result => exact congrArg Stage.ended hresult
      have hword := congrArg (·[v]?) hrec.words
      rw [List.getElem?_map, htask, Option.map_some] at hword
      have hlt : v < 2 ^ e.table.positions.length := by
        rw [← DecodeTable.length_variants e.encoding]
        exact (List.getElem?_eq_some_iff.1 hword.symm).1
      rw [DecodeTable.getElem?_variants _ _ hlt, Option.some_inj] at hword
      refine ⟨hlt, ?_, ?_⟩
      · rw [htask, hended, ← hword]
      · rw [← hword]
        exact hrec.answers _ (List.mem_of_getElem? htask) a
          (by rw [hended]; rfl)

/-- Behind each entry is a call about the word that carries its assignment,
and the answer enters the text. -/
theorem called_of_find? {v : Nat} {text : String}
    (hv : e.table.entries.find? v = some text) :
    v < 2 ^ e.table.positions.length ∧
      ∃ answer, e.Called v
          (e.encoding.assign e.table.positions (BitVec.ofNat 64 v), answer) ∧
        DecodeTable.rendering e.criteria (some answer) = some text := by
  by_cases h : e.IsTooWide
  · rw [e.entries_of_isTooWide h] at hv
    cases hv
  · rw [(e.entries_of_not_isTooWide h).2, DecodeTable.find?_entriesFrom,
      if_pos (Nat.zero_le v), Nat.sub_zero, Option.bind_eq_some_iff] at hv
    obtain ⟨result, hresult, htext⟩ := hv
    cases result with
    | none => cases htext
    | some answer =>
        obtain ⟨hlt, hcalled⟩ := e.called_of_results h hresult
        exact ⟨hlt, answer, hcalled, htext⟩

/-- A table with an entry is not skipped, and has few positions. -/
lemma of_entries_ne_empty {v : Nat} {text : String}
    (hv : e.table.entries.find? v = some text) :
    e.table.skipped = false ∧
      e.table.positions.length ≤ DecodeTable.positionsCeiling := by
  by_cases h : e.IsTooWide
  · rw [e.entries_of_isTooWide h] at hv
    cases hv
  · refine ⟨(e.entries_of_not_isTooWide h).1, ?_⟩
    rw [positions_table]
    exact Nat.le_trans (Nat.not_lt.1 h) (Nat.min_le_right _ _)

end Enumeration

end BitProbe

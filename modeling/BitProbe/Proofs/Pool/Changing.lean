import BitProbe.Proofs.DecodeTable.Rows
import BitProbe.Proofs.Oracle.Transcript
import BitProbe.Proofs.Pool.Schedules

/-!
Pools that ask a changing oracle.

The tasks of a pool may also ask an oracle whose answers depend on what it was
asked before. The questions then reach it in the order in which the schedule
lets the tasks ask. An oracle that is a function makes this a pool as before.

Whatever the oracle answers and in whatever order the tasks take their steps,
a task asks about its own word only, and ends with an answer that the oracle
gave to this word.

* `Pool.stepWith`, `Pool.playWith`: a step with a changing oracle, and a
  schedule played from the start;
* `Pool.playWith_ofFunction`: an oracle that is a function;
* `Pool.Recorded`, `Pool.recorded_playWith`: what tasks end with was answered
  to their words;
* `DecodeTable.parallelWith`: enumerating side by side.
-/

namespace BitProbe

variable {σ : Type}

/-- The answer that a task has got. -/
def Stage.answer? : Stage → Option Answer
  | answered a => some a
  | ended result => result
  | _ => none

namespace Pool

/-- A step of the task with a number. If it asks, the oracle changes. -/
def stepWith (o : Oracle σ) (q : Pool × σ) (i : Nat) : Pool × σ :=
  (q.1.step (fun w => (o w q.2).1) i,
    match q.1.tasks[i]? with
    | some ⟨w, .asking⟩ => (o w q.2).2
    | _ => q.2)

/-- The pool and the oracle after steps of tasks in the order of a
schedule. -/
def playWith (o : Oracle σ) (ws : List Word) (schedule : List Nat) (s : σ) :
    Pool × σ :=
  schedule.foldl (stepWith o) (start ws, s)

/-- With an oracle that is a function the pool is the one that asks this
function. -/
theorem playWith_ofFunction (f : Word → Answer) (ws : List Word)
    (schedule : List Nat) :
    (playWith (.ofFunction f) ws schedule ()).1 = play f ws schedule := by
  have hrun : ∀ p : Pool,
      (schedule.foldl (stepWith (.ofFunction f)) (p, ())).1 =
        schedule.foldl (step f) p := by
    induction schedule with
    | nil => exact fun p => rfl
    | cons i schedule ih => exact fun p => ih (p.step f i)
  exact hrun (start ws)

/-! ### What tasks end with -/

/-- A pool whose tasks are about given words, and where each answer that a
task has got is in the transcript as one to its word. -/
structure Recorded (ws : List Word) (p : Pool) (calls : List Call) : Prop where
  words : p.tasks.map (·.word) = ws
  answers : ∀ t ∈ p.tasks, ∀ a, t.stage.answer? = some a →
    (t.word, a) ∈ calls

lemma recorded_start (ws : List Word) : Recorded ws (start ws) [] where
  words := by
    rw [start, List.map_map]
    exact List.map_id ws
  answers := by
    intro t ht a ha
    obtain ⟨w, -, rfl⟩ := List.mem_map.1 ht
    cases ha

/-- The call that a step makes, if it makes one. -/
def callOf (o : Oracle σ) (q : Pool × σ) (i : Nat) : List Call :=
  match q.1.tasks[i]? with
  | some ⟨w, .asking⟩ => [(w, (o w q.2).1)]
  | _ => []

/-- A task that gets an answer in a step, gets that to its word. -/
lemma Recorded.step {ws : List Word} {p : Pool} {calls : List Call}
    (h : Recorded ws p calls) (o : Oracle σ) (s : σ) (i : Nat) :
    Recorded ws (stepWith o (p, s) i).1
      (calls ++ callOf o (p, s) i) where
  words := by
    rw [← h.words]
    refine List.ext_getElem? fun j => ?_
    rw [List.getElem?_map, stepWith, getElem?_step, List.getElem?_map,
      Option.map_map]
    refine Option.map_congr fun t _ => ?_
    dsimp only [Function.comp_apply]
    split <;> rfl
  answers := by
    intro t ht a ha
    obtain ⟨j, hj⟩ := List.getElem?_of_mem ht
    rw [stepWith, getElem?_step, Option.map_eq_some_iff] at hj
    obtain ⟨u, hu, rfl⟩ := hj
    have hold := h.answers u (List.mem_of_getElem? hu) a
    by_cases hij : i = j
    · subst hij
      rw [if_pos rfl] at ha ⊢
      obtain ⟨w, stage⟩ := u
      cases stage with
      | waiting =>
          cases hflag : p.flag <;> simp [hflag, Stage.next, Stage.answer?] at ha
      | asking =>
          have hcall : callOf o (p, s) i = [(w, (o w s).1)] := by
            rw [callOf, hu]
          rw [hcall, ← Option.some_inj.1 ha]
          exact List.mem_append_right _ (List.mem_singleton_self _)
      | answered b => exact List.mem_append_left _ (hold ha)
      | ended r => exact List.mem_append_left _ (hold ha)
    · rw [if_neg hij] at ha ⊢
      exact List.mem_append_left _ (hold ha)

/-- Keeping a transcript changes no step, and adds the call that it makes. -/
lemma stepWith_transcribed (o : Oracle σ) (p : Pool) (calls : List Call)
    (s : σ) (i : Nat) :
    stepWith o.transcribed (p, (calls, s)) i =
      ((stepWith o (p, s) i).1,
        (calls ++ callOf o (p, s) i, (stepWith o (p, s) i).2)) := by
  have hpool : (stepWith o.transcribed (p, (calls, s)) i).1 =
      (stepWith o (p, s) i).1 := rfl
  refine Prod.ext hpool ?_
  dsimp only [stepWith, callOf]
  split
  · rfl
  · rw [List.append_nil]

/-- Keeping a transcript changes nothing about a pool, and each answer that a
task has got is in the transcript as one to its word. -/
theorem recorded_playWith (o : Oracle σ) (ws : List Word)
    (schedule : List Nat) (s : σ) :
    let q := playWith o.transcribed ws schedule ([], s)
    q.1 = (playWith o ws schedule s).1 ∧ Recorded ws q.1 q.2.1 := by
  have hrun : ∀ (p : Pool) (calls : List Call) (s : σ),
      Recorded ws p calls →
      let q := schedule.foldl (stepWith o.transcribed) (p, (calls, s))
      q.1 = (schedule.foldl (stepWith o) (p, s)).1 ∧
        Recorded ws q.1 q.2.1 := by
    induction schedule with
    | nil => exact fun p calls s h => ⟨rfl, h⟩
    | cons i schedule ih =>
        intro p calls s h
        rw [List.foldl_cons, List.foldl_cons, stepWith_transcribed]
        exact ih _ _ _ (h.step o s i)
  exact hrun (start ws) [] s (recorded_start ws)

end Pool

/-! ### Tables -/

namespace DecodeTable

/-- The table whose assignments are asked about side by side, and the oracle
after it. -/
def parallelWith (c : Criteria) (maxBits : Nat) (o : Oracle σ) (line : Nat)
    (opcode : String) (encoding : Word) (positions schedule : List Nat)
    (s : σ) : DecodeTable × σ :=
  let t := blank line opcode encoding (SortedSet.ofList positions).toList
  if min maxBits positionsCeiling < t.positions.length then
    ({ t with skipped := true }, s)
  else
    let (p, s) := Pool.playWith o (variants encoding t.positions) schedule s
    (ofPool c t p, s)

section Parallel

variable (c : Criteria) (maxBits : Nat) (o : Oracle σ) (line : Nat)
  (opcode : String) (encoding : Word) (positions schedule : List Nat) (s : σ)

/-- With too many positions the table is skipped. -/
lemma parallelWith_of_lt (h : min maxBits positionsCeiling <
      (SortedSet.ofList positions).toList.length) :
    (parallelWith c maxBits o line opcode encoding positions schedule s).1 =
      { start line opcode encoding positions with skipped := true } := by
  rw [parallelWith]
  exact congrArg Prod.fst (if_pos h)

/-- Otherwise it is made of what the tasks end with. -/
lemma parallelWith_of_le (h : (SortedSet.ofList positions).toList.length ≤
      min maxBits positionsCeiling) :
    (parallelWith c maxBits o line opcode encoding positions schedule s).1 =
      ofPool c (start line opcode encoding positions)
        (Pool.playWith o
          (variants encoding (SortedSet.ofList positions).toList)
          schedule s).1 := by
  rw [parallelWith]
  exact congrArg Prod.fst (if_neg (Nat.not_lt.2 h))

/-- With an oracle that is a function the table is the one that this function
leads to. -/
theorem parallelWith_ofFunction (f : Word → Answer) :
    (parallelWith c maxBits (.ofFunction f) line opcode encoding positions
        schedule ()).1 =
      parallel c maxBits f line opcode encoding positions schedule := by
  rcases Nat.lt_or_ge (min maxBits positionsCeiling)
      (SortedSet.ofList positions).toList.length with h | h
  · rw [parallelWith_of_lt _ _ _ _ _ _ _ _ _ h]
    exact (if_pos h).symm
  · rw [parallelWith_of_le _ _ _ _ _ _ _ _ _ h, Pool.playWith_ofFunction]
    exact (if_neg (Nat.not_lt.2 h)).symm

end Parallel

end DecodeTable

end BitProbe

import BitProbe.DecodeTable

/-!
Questions asked side by side.

A pool of tasks asks an oracle that is a function about words, one task for
each word. The tasks share one flag. A task first looks at the flag, and if it
is up, ends without a question. Otherwise it asks, and if the answer is a
process failure, raises the flag before it ends. Between any two of these
steps other tasks may take steps of theirs; a schedule says in which order
tasks take steps.

* `Stage`, `Stage.next`: how far a task has come, and its next step;
* `Pool`, `Pool.step`, `Pool.play`: the tasks and the flag, a step of one
  task, and a schedule played from the start;
* `Pool.HasEnded`, `Pool.results`: when all tasks have ended, and the answers
  by task;
* `Sweep.parallel`, `DecodeTable.parallel`: sweeping and enumerating side by
  side.
-/

namespace BitProbe

/-- How far a task has come. -/
inductive Stage where
  /-- It has not looked at the flag. -/
  | waiting
  /-- It has found the flag down, and asks. -/
  | asking
  /-- It has got an answer. -/
  | answered (a : Answer)
  /-- It has ended, without an answer if it did not ask. -/
  | ended (result : Option Answer)

namespace Stage

/-- The next step of a task about a word. A task that has ended takes no
more. -/
def next (f : Word → Answer) (w : Word) (flag : Bool) : Stage → Stage
  | waiting => if flag then ended none else asking
  | asking => answered (f w)
  | answered a => ended (some a)
  | ended result => ended result

/-- Whether the next step raises the flag. -/
def raises : Stage → Bool
  | answered a => a.isFailure
  | _ => false

/-- Whether no step is left. -/
def hasEnded : Stage → Bool
  | ended _ => true
  | _ => false

/-- The answer that a task has ended with. -/
def result : Stage → Option Answer
  | ended result => result
  | _ => none

end Stage

/-- A word to ask about, and how far this has come. -/
structure Task where
  word : Word
  stage : Stage

/-- Tasks, and the flag that they share. -/
structure Pool where
  flag : Bool
  tasks : List Task

namespace Pool

/-- The pool before any step. -/
def start (ws : List Word) : Pool where
  flag := false
  tasks := ws.map fun w => ⟨w, .waiting⟩

/-- A step of the task with a number. -/
def step (f : Word → Answer) (p : Pool) (i : Nat) : Pool where
  flag := p.flag || p.tasks[i]?.any (·.stage.raises)
  tasks := p.tasks.modify i fun t =>
    { t with stage := t.stage.next f t.word p.flag }

/-- The pool after steps of tasks in the order of a schedule. -/
def play (f : Word → Answer) (ws : List Word) (schedule : List Nat) : Pool :=
  schedule.foldl (step f) (start ws)

/-- Whether all tasks have ended. -/
def HasEnded (p : Pool) : Prop :=
  ∀ t ∈ p.tasks, t.stage.hasEnded = true

instance (p : Pool) : Decidable p.HasEnded :=
  inferInstanceAs (Decidable (∀ t ∈ p.tasks, _))

/-- The answers that the tasks have ended with, by task. -/
def results (p : Pool) : List (Option Answer) :=
  p.tasks.map (·.stage.result)

end Pool

/-- The sweep that a pool leads to which has ended. -/
def Sweep.ofPool (c : Criteria) (baseline : Instruction) (p : Pool) : Sweep :=
  ofVerdicts baseline (p.results.map (Verdict.ofAnswer c baseline)) p.flag

/-- The sweep whose bits are asked about side by side. -/
def Sweep.parallel (c : Criteria) (f : Word → Answer) (baseline : Instruction)
    (schedule : List Nat) : Sweep :=
  ofPool c baseline (Pool.play f (mutants baseline.encoding) schedule)

namespace DecodeTable

/-- The table that a pool leads to which has ended. -/
def ofPool (c : Criteria) (t : DecodeTable) (p : Pool) : DecodeTable :=
  { t with
    queries := p.results.countP Option.isSome
    entries := entriesFrom c 0 p.results
    aborted := p.flag }

/-- The table whose assignments are asked about side by side. -/
def parallel (c : Criteria) (maxBits : Nat) (f : Word → Answer) (line : Nat)
    (opcode : String) (encoding : Word) (positions : List Nat)
    (schedule : List Nat) : DecodeTable :=
  let t := blank line opcode encoding (SortedSet.ofList positions).toList
  if min maxBits positionsCeiling < t.positions.length then
    { t with skipped := true }
  else
    ofPool c t (Pool.play f (variants encoding t.positions) schedule)

end DecodeTable

end BitProbe

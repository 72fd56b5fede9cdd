import BitProbe.Pool
import BitProbe.Proofs.Oracle.Asking
import Mathlib.Data.List.Forall2
import Mathlib.Data.List.Nodup

/-!
What a pool comes to, whatever the schedule.

Each task ends with the answer to its own word or without one, and it is
without one only if the flag was up. The flag goes up only for a process
failure that some task has ended with, and every such failure puts it up. So
once all tasks have ended, the flag says whether any word fails, though not
how many tasks have asked.

* `Stage.Fair`, `Pool.Fair`: what holds of a task and of a pool after any
  steps;
* `Pool.Fair.step`, `Pool.fair_play`: a step keeps it, so it holds throughout;
* `Pool.flag_iff`, `Pool.results_eq_of_flag`, `Pool.getElem?_results`: the
  flag and the answers in the end;
* `Pool.hasEnded_of_turns`: tasks with three turns have ended, whatever the
  others do, so there are orders in which all come to an end
  (`Pool.inRounds`).
-/

namespace BitProbe

namespace Stage

variable {f : Word → Answer} {w : Word} {flag : Bool} {s : Stage}

/-- What holds of a task about a word in a pool with a flag: an answer is the
one to the word, the flag is up after a failure, and only tasks that have seen
it up end without an answer. -/
def Fair (f : Word → Answer) (w : Word) (flag : Bool) : Stage → Prop
  | waiting => True
  | asking => True
  | answered a => a = f w
  | ended (some a) => a = f w ∧ (a.isFailure = true → flag = true)
  | ended none => flag = true

/-- A flag that is raised by another task does no harm. -/
lemma Fair.mono (h : s.Fair f w flag) (other : Bool) :
    s.Fair f w (flag || other) := by
  cases s with
  | waiting | asking => trivial
  | answered a => exact h
  | ended result =>
      cases result with
      | none => exact Bool.or_eq_true_iff.2 (.inl h)
      | some a => exact ⟨h.1, fun ha => Bool.or_eq_true_iff.2 (.inl (h.2 ha))⟩

/-- A step of the task keeps what holds of it, with the flag as the step
leaves it. -/
lemma Fair.next (h : s.Fair f w flag) :
    (s.next f w flag).Fair f w (flag || s.raises) := by
  cases s with
  | waiting =>
      cases flag with
      | true => exact rfl
      | false => trivial
  | asking => exact rfl
  | answered a =>
      exact ⟨h, fun ha => Bool.or_eq_true_iff.2 (.inr ha)⟩
  | ended result => exact h.mono _

/-- How many steps a task has taken, or has been spared. -/
def rank : Stage → Nat
  | waiting => 0
  | asking => 1
  | answered _ => 2
  | ended _ => 3

/-- A step leads on until the task has ended. -/
lemma rank_next (f : Word → Answer) (w : Word) (flag : Bool) (s : Stage) :
    min 3 (s.rank + 1) ≤ (s.next f w flag).rank := by
  cases s with
  | waiting => cases flag <;> simp [next, rank]
  | asking | answered | ended => simp [next, rank]

lemma hasEnded_of_rank (h : 3 ≤ s.rank) : s.hasEnded = true := by
  cases s with
  | waiting | asking | answered => exact absurd h (by simp [rank])
  | ended => rfl

end Stage

namespace Pool

variable {f : Word → Answer} {ws : List Word} {p : Pool}

/-- A step changes the one task. -/
lemma getElem?_step (f : Word → Answer) (p : Pool) (i j : Nat) :
    (p.step f i).tasks[j]? = p.tasks[j]?.map fun t : Task =>
      if i = j then { t with stage := t.stage.next f t.word p.flag }
      else t := by
  rw [step, List.getElem?_modify]
  rfl

/-- What holds of a pool about words after any steps: there is a task for each
word, with what holds of a task, and if the flag is up, some task has ended
with a process failure. -/
structure Fair (f : Word → Answer) (ws : List Word) (p : Pool) : Prop where
  words : p.tasks.map (·.word) = ws
  stages : ∀ (j : Nat) (t : Task), p.tasks[j]? = some t →
    t.stage.Fair f t.word p.flag
  failed : p.flag = true → ∃ (j : Nat) (t : Task) (a : Answer),
    p.tasks[j]? = some t ∧ t.stage = .ended (some a) ∧ a.isFailure = true

lemma fair_start (f : Word → Answer) (ws : List Word) :
    (start ws).Fair f ws where
  words := by
    rw [start, List.map_map]
    exact List.map_id ws
  stages := by
    intro j t ht
    rw [start, List.getElem?_map, Option.map_eq_some_iff] at ht
    obtain ⟨w, -, rfl⟩ := ht
    trivial
  failed := fun h => (by cases h)

/-- A step of any task keeps what holds of a pool. -/
theorem Fair.step (h : p.Fair f ws) (i : Nat) : (p.step f i).Fair f ws where
  words := by
    rw [← h.words]
    refine List.ext_getElem? fun j => ?_
    rw [List.getElem?_map, getElem?_step, List.getElem?_map, Option.map_map]
    refine Option.map_congr fun t _ => ?_
    dsimp only [Function.comp_apply]
    split <;> rfl
  stages := by
    intro j t ht
    rw [getElem?_step, Option.map_eq_some_iff] at ht
    obtain ⟨u, hu, rfl⟩ := ht
    by_cases hij : i = j
    · subst hij
      have hflag : (p.step f i).flag = (p.flag || u.stage.raises) := by
        rw [Pool.step, hu, Option.any_some]
      rw [if_pos rfl, hflag]
      exact (h.stages i u hu).next
    · rw [if_neg hij]
      exact (h.stages j u hu).mono _
  failed := by
    intro hflag
    rcases Bool.or_eq_true_iff.1 hflag with hold | hnew
    · -- the task that has failed before takes no more steps
      obtain ⟨j, t, a, ht, hend, ha⟩ := h.failed hold
      refine ⟨j, t, a, ?_, hend, ha⟩
      rw [getElem?_step, ht, Option.map_some]
      congr 1
      split
      · rw [hend, Stage.next, ← hend]
      · rfl
    · -- the task that takes the step ends with its failure
      obtain ⟨t, ht, hraises⟩ := (Option.any_eq_true _ _).1 hnew
      cases hstage : t.stage with
      | waiting | asking | ended =>
          rw [hstage] at hraises
          cases hraises
      | answered a =>
          rw [hstage] at hraises
          have hnext : t.stage.next f t.word p.flag = .ended (some a) := by
            rw [hstage, Stage.next]
          refine ⟨i, { t with stage := .ended (some a) }, a, ?_, rfl, hraises⟩
          rw [getElem?_step, ht, Option.map_some, if_pos rfl, hnext]

/-- Whatever the schedule, the same holds of a pool as at its start. -/
theorem fair_play (f : Word → Answer) (ws : List Word) (schedule : List Nat) :
    (play f ws schedule).Fair f ws := by
  have hrun : ∀ p : Pool, p.Fair f ws →
      (schedule.foldl (Pool.step f) p).Fair f ws := by
    induction schedule with
    | nil => exact fun p hp => hp
    | cons i schedule ih => exact fun p hp => ih _ (hp.step i)
  exact hrun _ (fair_start f ws)

/-! ### In the end -/

section Ended

variable (h : p.Fair f ws) (hend : p.HasEnded)

include h

/-- There is a result for each word. -/
lemma length_results : p.results.length = ws.length := by
  rw [results, List.length_map, ← h.words, List.length_map]

include hend

/-- A result is the answer to the word of its task, or there is none and the
flag is up. -/
lemma getElem?_results {j : Nat} {w : Word} (hw : ws[j]? = some w) :
    (p.results[j]? = some (some (f w)) ∧
      ((f w).isFailure = true → p.flag = true)) ∨
    (p.results[j]? = some none ∧ p.flag = true) := by
  rw [← h.words, List.getElem?_map, Option.map_eq_some_iff] at hw
  obtain ⟨t, ht, rfl⟩ := hw
  have hfair := h.stages j t ht
  have hdone := hend t (List.mem_of_getElem? ht)
  rw [results, List.getElem?_map, ht, Option.map_some]
  cases hs : t.stage with
  | waiting | asking | answered =>
      rw [hs] at hdone
      cases hdone
  | ended result =>
      rw [hs] at hfair
      cases result with
      | none => exact .inr ⟨rfl, hfair⟩
      | some a =>
          obtain ⟨rfl, hflag⟩ := hfair
          exact .inl ⟨rfl, hflag⟩

/-- Task by task, a result is the answer to the word, or there is none. -/
lemma forall₂_results :
    List.Forall₂ (fun r w => r = some (f w) ∨ r = none) p.results ws := by
  rw [results, ← h.words, List.forall₂_map_left_iff,
    List.forall₂_map_right_iff, List.forall₂_same]
  intro t ht
  obtain ⟨j, hj⟩ := List.getElem?_of_mem ht
  have hw : ws[j]? = some t.word := by
    rw [← h.words, List.getElem?_map, hj]
    rfl
  have hr : p.results[j]? = some t.stage.result := by
    rw [results, List.getElem?_map, hj]
    rfl
  rcases getElem?_results h hend hw with ⟨ha, -⟩ | ⟨ha, -⟩
  · exact .inl (Option.some.inj (hr.symm.trans ha))
  · exact .inr (Option.some.inj (hr.symm.trans ha))

omit hend in
/-- A flag that is up has been raised for a failure. -/
lemma exists_of_flag (hflag : p.flag = true) :
    ∃ (j : Nat) (w : Word), ws[j]? = some w ∧
      p.results[j]? = some (some (f w)) ∧ (f w).isFailure = true := by
  obtain ⟨j, t, a, ht, hs, ha⟩ := h.failed hflag
  have hfair := h.stages j t ht
  rw [hs] at hfair
  obtain ⟨rfl, -⟩ := hfair
  refine ⟨j, t.word, ?_, ?_, ha⟩
  · rw [← h.words, List.getElem?_map, ht]
    rfl
  · rw [results, List.getElem?_map, ht, Option.map_some, hs]
    rfl

/-- In the end the flag is up exactly if some word fails. -/
theorem flag_iff : p.flag = true ↔ ∃ w ∈ ws, (f w).isFailure = true := by
  constructor
  · intro hflag
    obtain ⟨j, w, hw, -, hf⟩ := exists_of_flag h hflag
    exact ⟨w, List.mem_of_getElem? hw, hf⟩
  · rintro ⟨w, hw, hf⟩
    obtain ⟨j, hj⟩ := List.getElem?_of_mem hw
    rcases getElem?_results h hend hj with ⟨-, hflag⟩ | ⟨-, hflag⟩
    · exact hflag hf
    · exact hflag

omit hend in
/-- The flag stays down if no word fails. -/
lemma flag_eq_false (hf : ∀ w ∈ ws, (f w).isFailure = false) :
    p.flag = false := by
  by_contra hflag
  rw [Bool.not_eq_false] at hflag
  obtain ⟨j, w, hw, -, hfail⟩ := exists_of_flag h hflag
  rw [hf w (List.mem_of_getElem? hw)] at hfail
  cases hfail

/-- If the flag stays down, all words have been asked about. -/
theorem results_eq_of_flag (hflag : p.flag = false) :
    p.results = ws.map fun w => some (f w) := by
  refine List.ext_getElem? fun j => ?_
  rw [List.getElem?_map]
  cases hw : ws[j]? with
  | none =>
      rw [List.getElem?_eq_none_iff, ← length_results h] at hw
      exact List.getElem?_eq_none hw
  | some w =>
      rcases getElem?_results h hend hw with ⟨hr, -⟩ | ⟨-, hup⟩
      · exact hr
      · rw [hflag] at hup
        cases hup

end Ended

/-! ### Turns -/

/-- A task has taken as many steps as it had turns, as far as it has
steps. -/
lemma count_le_rank (f : Word → Answer) (ws : List Word)
    (schedule : List Nat) {j : Nat} {t : Task}
    (ht : (play f ws schedule).tasks[j]? = some t) :
    min 3 (schedule.count j) ≤ t.stage.rank := by
  have hrun : ∀ (p : Pool) (u : Task), p.tasks[j]? = some u →
      (schedule.foldl (Pool.step f) p).tasks[j]? = some t →
        min 3 (u.stage.rank + schedule.count j) ≤ t.stage.rank := by
    clear ht
    induction schedule with
    | nil =>
        intro p u hu ht
        rw [List.foldl_nil, hu] at ht
        cases ht
        exact Nat.min_le_right _ _
    | cons i schedule ih =>
        intro p u hu ht
        have hstep := getElem?_step f p i j
        rw [hu, Option.map_some] at hstep
        have hle := ih _ _ hstep ht
        by_cases hij : i = j
        · subst hij
          have hnext := u.stage.rank_next f u.word p.flag
          rw [if_pos rfl] at hle
          rw [List.count_cons_self]
          dsimp only at hle
          omega
        · rw [if_neg hij] at hle
          rwa [List.count_cons_of_ne hij]
  have hwords := congrArg (·[j]?) (fair_play f ws schedule).words
  rw [List.getElem?_map, ht, Option.map_some] at hwords
  have hstart : (start ws).tasks[j]? = some ⟨t.word, .waiting⟩ := by
    rw [start, List.getElem?_map, ← hwords]
    rfl
  simpa [Stage.rank] using hrun _ _ hstart ht

/-- If every task has three turns, all tasks have ended, whatever the order of
the turns. -/
theorem hasEnded_of_turns {schedule : List Nat}
    (h : ∀ j < ws.length, 3 ≤ schedule.count j) :
    (play f ws schedule).HasEnded := by
  intro t ht
  obtain ⟨j, hj⟩ := List.getElem?_of_mem ht
  have hlen : j < ws.length := by
    have hlt := (List.getElem?_eq_some_iff.1 hj).1
    rwa [← (fair_play f ws schedule).words, List.length_map]
  have hrank := count_le_rank f ws schedule hj
  rw [Nat.min_eq_left (h j hlen)] at hrank
  exact Stage.hasEnded_of_rank hrank

/-- The order in which all of some tasks look at the flag before any of them
asks, and all of them ask before any of them ends. -/
def inRounds (n : Nat) : List Nat :=
  List.range n ++ List.range n ++ List.range n

/-- After three rounds all tasks have ended. -/
lemma hasEnded_inRounds (f : Word → Answer) (ws : List Word) :
    (play f ws (inRounds ws.length)).HasEnded := by
  refine hasEnded_of_turns fun j hj => ?_
  have hone : (List.range ws.length).count j = 1 :=
    List.count_eq_one_of_mem List.nodup_range (List.mem_range.2 hj)
  have hthree : (inRounds ws.length).count j = 3 := by
    rw [inRounds, List.count_append, List.count_append, hone]
  exact Nat.le_of_eq hthree.symm

end Pool

end BitProbe

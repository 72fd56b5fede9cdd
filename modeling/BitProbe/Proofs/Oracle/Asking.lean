import BitProbe.Oracle
import Mathlib.Tactic.Common

/-!
Asking an oracle one word after another.

The answers end early only at a process failure, so where there is none every
word has been asked. An oracle that is a function gives what the function
gives, up to the first failure.

* `Oracle.length_ask_of_no_failure`: without a failure all words are asked;
* `Oracle.answers`, `Oracle.firstFailure`: the answers to all words, and the
  number of the first failure among them;
* `Oracle.ask_eq_take_answers`: asking is answered up to that one;
* `Oracle.ask_ofFunction_isPrefix`, `Oracle.ask_ofFunction_eq_map`: what an
  oracle answers that is a function.
-/

namespace BitProbe.Oracle

variable {σ : Type}

/-- If no answer is a process failure, every word has been asked. -/
lemma length_ask_of_no_failure (o : Oracle σ) (ws : List Word) (s : σ)
    (h : (o.ask ws s).1.any Answer.isFailure = false) :
    (o.ask ws s).1.length = ws.length := by
  induction ws generalizing s with
  | nil => simp
  | cons w ws ih =>
      rw [ask_cons] at h ⊢
      split at h
      · rename_i hf
        simp [hf] at h
      · rename_i hf
        rw [List.any_cons, Bool.or_eq_false_iff] at h
        rw [if_neg hf, List.length_cons, List.length_cons, ih _ h.2]

/-- The first of some words is always asked. -/
lemma ask_ne_nil (o : Oracle σ) {ws : List Word} (h : ws ≠ []) (s : σ) :
    (o.ask ws s).1 ≠ [] := by
  cases ws with
  | nil => exact absurd rfl h
  | cons w ws =>
      rw [ask_cons]
      split <;> simp

/-- What an oracle answers to words one after another, if no failure puts an
end to the questions. -/
def answers (o : Oracle σ) : List Word → σ → List Answer
  | [], _ => []
  | w :: ws, s => (o w s).1 :: o.answers ws (o w s).2

/-- There is an answer to every word. -/
@[simp] lemma length_answers (o : Oracle σ) (ws : List Word) (s : σ) :
    (o.answers ws s).length = ws.length := by
  induction ws generalizing s with
  | nil => rfl
  | cons w ws ih => rw [answers, List.length_cons, ih, List.length_cons]

/-- The number of the first process failure among answers, or how many answers
there are if none of them is one. -/
def firstFailure (answers : List Answer) : Nat :=
  answers.findIdx Answer.isFailure

lemma firstFailure_cons (a : Answer) (answers : List Answer) :
    firstFailure (a :: answers) =
      if a.isFailure then 0 else firstFailure answers + 1 := by
  rw [firstFailure, List.findIdx_cons]
  cases a.isFailure <;> rfl

/-- Asking is answered up to and including the first process failure. -/
lemma ask_eq_take_answers (o : Oracle σ) (ws : List Word) (s : σ) :
    (o.ask ws s).1 =
      (o.answers ws s).take (firstFailure (o.answers ws s) + 1) := by
  induction ws generalizing s with
  | nil => simp [answers]
  | cons w ws ih =>
      rw [ask_cons, answers, firstFailure_cons]
      by_cases hf : (o w s).1.isFailure = true
      · rw [if_pos hf, if_pos hf]
        rfl
      · rw [if_neg hf, if_neg hf, ih]
        rfl

/-- The answers up to the first failure hold one if its number is that of some
answer. -/
lemma any_isFailure_take_iff (answers : List Answer) :
    (answers.take (firstFailure answers + 1)).any Answer.isFailure = true ↔
      firstFailure answers < answers.length := by
  rw [firstFailure, List.findIdx_lt_length, List.any_eq_true]
  refine ⟨fun ⟨a, ha, hf⟩ => ⟨a, List.mem_of_mem_take ha, hf⟩, fun h => ?_⟩
  have hlt : answers.findIdx Answer.isFailure < answers.length :=
    List.findIdx_lt_length.2 h
  exact ⟨answers[answers.findIdx Answer.isFailure],
    List.mem_take_iff_getElem.2 ⟨_, by omega, rfl⟩, List.findIdx_getElem⟩

/-- No answer before the first failure is one. -/
lemma isFailure_of_lt_firstFailure {answers : List Answer} {i : Nat}
    {a : Answer} (hi : i < firstFailure answers)
    (ha : answers[i]? = some a) : a.isFailure = false := by
  obtain ⟨hlt, rfl⟩ := List.getElem?_eq_some_iff.1 ha
  simpa using List.not_of_lt_findIdx hi

/-- The first failure is one. -/
lemma isFailure_of_getElem?_firstFailure {answers : List Answer} {a : Answer}
    (ha : answers[firstFailure answers]? = some a) : a.isFailure = true := by
  obtain ⟨hlt, rfl⟩ := List.getElem?_eq_some_iff.1 ha
  exact List.findIdx_getElem

/-- An oracle that is a function answers what the function says, as far as
it is asked. -/
lemma ask_ofFunction_isPrefix (f : Word → Answer) (ws : List Word) :
    ((ofFunction f).ask ws ()).1 <+: ws.map f := by
  induction ws with
  | nil => simp
  | cons w ws ih =>
      rw [ask_cons, List.map_cons]
      split
      · exact List.prefix_append [f w] _
      · exact (List.prefix_cons_inj (f w)).2 ih

/-- An oracle that is a function answers what the function says to every
word, if it never fails on the way. -/
lemma ask_ofFunction_eq_map (f : Word → Answer) (ws : List Word)
    (h : ((ofFunction f).ask ws ()).1.any Answer.isFailure = false) :
    ((ofFunction f).ask ws ()).1 = ws.map f := by
  refine (ask_ofFunction_isPrefix f ws).eq_of_length ?_
  rw [length_ask_of_no_failure _ _ _ h, List.length_map]

/-- A function that fails at none of the words is asked about all of them. -/
lemma ask_ofFunction_of_forall (f : Word → Answer) {ws : List Word}
    (h : ∀ w ∈ ws, (f w).isFailure = false) :
    ((ofFunction f).ask ws ()).1 = ws.map f := by
  refine ask_ofFunction_eq_map f ws (List.any_eq_false.2 fun a ha => ?_)
  obtain ⟨w, hw, rfl⟩ :=
    List.mem_map.1 ((ask_ofFunction_isPrefix f ws).subset ha)
  rw [h w hw]
  exact Bool.false_ne_true

end BitProbe.Oracle

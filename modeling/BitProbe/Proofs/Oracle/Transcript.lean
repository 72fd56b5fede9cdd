import BitProbe.Proofs.Oracle.Asking
import Mathlib.Data.List.Basic

/-!
What an oracle is asked and what it answers.

The transcript of a run is the list of its calls in the order in which they
were made. Keeping it changes no answer, so the transcript of a run with any
oracle, also one whose answers depend on what came before, can be read off a
run with the oracle that keeps one.

* `Oracle.transcribed`: the oracle that keeps a transcript;
* `Oracle.calls`, `Oracle.ask_transcribed`: the calls that asking words leads
  to, and that these are what a transcript gains;
* `Oracle.Series`: calls about words in their order, all of them unless the
  last call has failed;
* `Oracle.series_calls`: asking words leads to such calls;
* `Oracle.Series.map_fst`: without a failure, they are about all words.
-/

namespace BitProbe

/-- A question to an oracle, and the answer to it. -/
abbrev Call := Word × Answer

namespace Oracle

variable {σ : Type}

/-- The oracle that keeps its calls, first first. -/
def transcribed (o : Oracle σ) : Oracle (List Call × σ) :=
  fun w s =>
    let (a, t) := o w s.2
    (a, (s.1 ++ [(w, a)], t))

/-- The calls that asking words one after another leads to. -/
def calls (o : Oracle σ) (ws : List Word) (s : σ) : List Call :=
  ws.zip (o.ask ws s).1

@[simp] lemma calls_nil (o : Oracle σ) (s : σ) : o.calls [] s = [] :=
  rfl

/-- The first word is always asked, and the others unless it has failed. -/
lemma calls_cons (o : Oracle σ) (w : Word) (ws : List Word) (s : σ) :
    o.calls (w :: ws) s =
      if (o w s).1.isFailure then [(w, (o w s).1)]
      else (w, (o w s).1) :: o.calls ws (o w s).2 := by
  rw [calls, ask_cons]
  split
  · rw [List.zip_cons_cons, List.zip_nil_right]
  · rfl

/-- The answers of the calls are those that asking gives. -/
lemma map_snd_calls (o : Oracle σ) (ws : List Word) (s : σ) :
    (o.calls ws s).map Prod.snd = (o.ask ws s).1 :=
  List.map_snd_zip (o.length_ask_le ws s)

/-- The calls go through the words up to and including the first that
fails. -/
lemma calls_eq_take (o : Oracle σ) (ws : List Word) (s : σ) :
    o.calls ws s = (ws.zip (o.answers ws s)).take
      (firstFailure (o.answers ws s) + 1) := by
  induction ws generalizing s with
  | nil => rfl
  | cons w ws ih =>
      rw [calls_cons, answers, firstFailure_cons, List.zip_cons_cons]
      by_cases hf : (o w s).1.isFailure = true
      · rw [if_pos hf, if_pos hf]
        rfl
      · rw [if_neg hf, if_neg hf, ih]
        rfl

/-- There are as many calls as answers. -/
lemma length_calls (o : Oracle σ) (ws : List Word) (s : σ) :
    (o.calls ws s).length = (o.ask ws s).1.length := by
  rw [← map_snd_calls, List.length_map]

/-- Asking words changes the transcript by the calls it leads to, and gives
the same answers as without a transcript. -/
theorem ask_transcribed (o : Oracle σ) (ws : List Word)
    (earlier : List Call) (s : σ) :
    o.transcribed.ask ws (earlier, s) =
      ((o.ask ws s).1, (earlier ++ o.calls ws s, (o.ask ws s).2)) := by
  induction ws generalizing earlier s with
  | nil => simp
  | cons w ws ih =>
      have hstep : o.transcribed w (earlier, s) =
          ((o w s).1, (earlier ++ [(w, (o w s).1)], (o w s).2)) := rfl
      rw [ask_cons, ask_cons, calls_cons, hstep]
      dsimp only
      by_cases hf : (o w s).1.isFailure = true
      · rw [if_pos hf, if_pos hf, if_pos hf]
      · rw [if_neg hf, if_neg hf, if_neg hf, ih, List.append_assoc,
          List.singleton_append]

/-! ### Calls in series -/

/-- Calls about words in their order, from the first word on. There is a
call at least, no call comes after a process failure, and if words are left
out, the last call is one. -/
structure Series (words : List Word) (calls : List Call) : Prop where
  isPrefix : calls.map Prod.fst <+: words
  ne_nil : calls ≠ []
  dropLast : ∀ c ∈ calls.dropLast, c.2.isFailure = false
  getLast : calls.length < words.length →
    ∃ c, calls.getLast? = some c ∧ c.2.isFailure = true

/-- One call is a series if it has failed or if there was one word only. -/
lemma Series.singleton (c : Call) {ws : List Word}
    (h : c.2.isFailure = true ∨ ws = []) : Series (c.1 :: ws) [c] where
  isPrefix := by
    rw [List.map_cons, List.map_nil, List.prefix_cons_inj]
    exact List.nil_prefix
  ne_nil := List.cons_ne_nil _ _
  dropLast := by simp
  getLast := by
    intro hlt
    rcases h with h | rfl
    · exact ⟨c, rfl, h⟩
    · exact absurd hlt (by simp)

/-- A call that has not failed comes before a series. -/
lemma Series.cons {c : Call} {ws : List Word} {cs : List Call}
    (hc : c.2.isFailure = false) (h : Series ws cs) :
    Series (c.1 :: ws) (c :: cs) where
  isPrefix := by
    rw [List.map_cons, List.prefix_cons_inj]
    exact h.isPrefix
  ne_nil := List.cons_ne_nil _ _
  dropLast := by
    intro d hd
    rw [List.dropLast_cons_of_ne_nil h.ne_nil] at hd
    rcases List.mem_cons.1 hd with rfl | hd
    · exact hc
    · exact h.dropLast d hd
  getLast := by
    intro hlt
    obtain ⟨d, hd, hf⟩ := h.getLast (by simpa using hlt)
    exact ⟨d, by rw [List.getLast?_cons, hd, Option.getD_some], hf⟩

/-- Asking words, if there are any, leads to a series of calls about
them. -/
theorem series_calls (o : Oracle σ) {ws : List Word} (h : ws ≠ [])
    (s : σ) : Series ws (o.calls ws s) := by
  induction ws generalizing s with
  | nil => exact absurd rfl h
  | cons w ws ih =>
      rw [calls_cons]
      by_cases hf : (o w s).1.isFailure = true
      · rw [if_pos hf]
        exact .singleton (w, (o w s).1) (.inl hf)
      · rw [if_neg hf]
        cases ws with
        | nil => exact .singleton (w, (o w s).1) (.inr rfl)
        | cons v vs =>
            exact .cons (c := (w, (o w s).1)) (by simpa using hf)
              (ih (List.cons_ne_nil _ _) _)

/-- A series without a failure is about all words. -/
lemma Series.map_fst {ws : List Word} {cs : List Call} (h : Series ws cs)
    (hok : ∀ c ∈ cs, c.2.isFailure = false) : cs.map Prod.fst = ws := by
  refine h.isPrefix.eq_of_length_le ?_
  rw [List.length_map]
  by_contra hlt
  obtain ⟨c, hc, hf⟩ := h.getLast (Nat.not_le.1 hlt)
  rw [hok c (List.mem_of_getLast? hc)] at hf
  cases hf

end Oracle

end BitProbe

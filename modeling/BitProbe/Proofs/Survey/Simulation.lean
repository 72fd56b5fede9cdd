import BitProbe.Proofs.Survey.Orders

/-!
Surveys with oracles that answer alike.

Two oracles may have different states and still give the same answers, as long
as their states stay related. A survey then finds the same with both, and
leaves them in related states. What is true of an oracle's state before and
after each question is so before and after a survey; this is the case of one
oracle and states that are equal.

* `Agree`: equal results with related states;
* `Oracle.Simulates`: oracles that answer alike;
* `Oracle.Simulates.runIn`: a survey with such oracles;
* `Oracle.Keeps`, `Oracle.Keeps.runIn`: what questions keep true, a survey keeps
  true;
* `Oracle.simulates_transcribed`: a transcript changes no answer.
-/

namespace BitProbe

variable {σ τ α : Type}

open Enumeration (Order)

/-- Equal results with related states. -/
def Agree (R : σ → τ → Prop) (x : α × σ) (y : α × τ) : Prop :=
  x.1 = y.1 ∧ R x.2 y.2

/-- In related states the oracles answer the same to every word, and their
states are related afterwards. -/
def Oracle.Simulates (R : σ → τ → Prop) (o : Oracle σ) (o' : Oracle τ) :
    Prop :=
  ∀ w s t, R s t → Agree R (o w s) (o' w t)

section Simulates

variable {R : σ → τ → Prop} {o : Oracle σ} {o' : Oracle τ}
  (h : o.Simulates R o')

include h

/-- Asking one word after another. -/
lemma Oracle.Simulates.ask (ws : List Word) {s : σ} {t : τ} (hst : R s t) :
    Agree R (o.ask ws s) (o'.ask ws t) := by
  induction ws generalizing s t with
  | nil => simpa [Agree] using hst
  | cons w ws ih =>
      obtain ⟨ha, hnext⟩ := h w s t hst
      rw [ask_cons, ask_cons, ← ha]
      split
      · exact ⟨rfl, hnext⟩
      · obtain ⟨hrest, hlast⟩ := ih hnext
        exact ⟨congrArg _ hrest, hlast⟩

/-- A step of a pool. -/
lemma Oracle.Simulates.stepWith (p : Pool) (i : Nat) {s : σ} {t : τ}
    (hst : R s t) :
    Agree R (Pool.stepWith o (p, s) i) (Pool.stepWith o' (p, t) i) := by
  have hanswers : (fun w => (o w s).1) = fun w => (o' w t).1 :=
    funext fun w => (h w s t hst).1
  refine ⟨congrArg (p.step · i) hanswers, ?_⟩
  dsimp only [Pool.stepWith]
  split
  · exact (h _ s t hst).2
  · exact hst

/-- Asking side by side. -/
lemma Oracle.Simulates.playWith (ws : List Word) (schedule : List Nat) {s : σ}
    {t : τ} (hst : R s t) :
    Agree R (Pool.playWith o ws schedule s) (Pool.playWith o' ws schedule t) := by
  have hrun : ∀ (p : Pool) {s : σ} {t : τ}, R s t →
      Agree R (schedule.foldl (Pool.stepWith o) (p, s))
        (schedule.foldl (Pool.stepWith o') (p, t)) := by
    induction schedule with
    | nil => exact fun p s t hst => ⟨rfl, hst⟩
    | cons i schedule ih =>
        intro p s t hst
        obtain ⟨hp, hnext⟩ := h.stepWith p i hst
        have hpair : Pool.stepWith o' (p, t) i =
            ((Pool.stepWith o (p, s) i).1, (Pool.stepWith o' (p, t) i).2) :=
          Prod.ext hp.symm rfl
        rw [List.foldl_cons, List.foldl_cons, hpair]
        exact ih _ hnext
  exact hrun (Pool.start ws) hst

/-- Asking in any order. -/
lemma Oracle.Simulates.askIn (order : Order) (ws : List Word) {s : σ} {t : τ}
    (hst : R s t) :
    (o.askIn order ws s).results = (o'.askIn order ws t).results ∧
      (o.askIn order ws s).failed = (o'.askIn order ws t).failed ∧
      R (o.askIn order ws s).after (o'.askIn order ws t).after := by
  cases order with
  | ascending =>
      obtain ⟨ha, hnext⟩ := h.ask ws hst
      exact ⟨congrArg (Sweep.padded ws.length) ha,
        congrArg (List.any · Answer.isFailure) ha, hnext⟩
  | sideBySide schedule =>
      obtain ⟨hp, hnext⟩ := h.playWith ws schedule hst
      exact ⟨congrArg Pool.results hp, congrArg Pool.flag hp, hnext⟩

/-- A sweep. -/
lemma Oracle.Simulates.sweep (c : Criteria) (order : Order)
    (baseline : Instruction) {s : σ} {t : τ} (hst : R s t) :
    Agree R (Sweep.runIn c o order baseline s)
      (Sweep.runIn c o' order baseline t) := by
  obtain ⟨hresults, hfailed, hafter⟩ :=
    h.askIn order (Sweep.mutants baseline.encoding) hst
  refine ⟨?_, hafter⟩
  dsimp only [Sweep.runIn]
  rw [hresults, hfailed]

/-- A table. -/
lemma Oracle.Simulates.table (c : Criteria) (maxBits : Nat) (order : Order)
    (line : Nat) (opcode : String) (encoding : Word) (positions : List Nat)
    {s : σ} {t : τ} (hst : R s t) :
    Agree R
      (DecodeTable.runIn c maxBits o order line opcode encoding positions s)
      (DecodeTable.runIn c maxBits o' order line opcode encoding positions
        t) := by
  dsimp only [DecodeTable.runIn]
  split
  · exact ⟨rfl, hst⟩
  · obtain ⟨hresults, hfailed, hafter⟩ := h.askIn order
      (DecodeTable.variants encoding
        (DecodeTable.start line opcode encoding positions).positions) hst
    refine ⟨?_, hafter⟩
    dsimp only
    rw [hresults, hfailed]

/-- The enumeration after a sweep. -/
lemma Oracle.Simulates.enumerateIn (p : Survey.Plan) (g : Goal) (order : Order)
    (line : Nat) (sweep : Sweep) {s : σ} {t : τ} (hst : R s t) :
    Agree R (Survey.enumerateIn p g o order line sweep s)
      (Survey.enumerateIn p g o' order line sweep t) := by
  dsimp only [Survey.enumerateIn]
  split
  · obtain ⟨htable, hafter⟩ := h.table p.criteria p.maxBits order line
      sweep.baseline.opcode sweep.baseline.encoding
      sweep.modifierBits.toList hst
    exact ⟨congrArg some htable, hafter⟩
  · exact ⟨rfl, hst⟩

/-- An examination. -/
lemma Oracle.Simulates.examineIn (p : Survey.Plan) (g : Goal)
    (orders : Survey.Examination.Orders) (e : Listing.Entry) {s : σ} {t : τ}
    (hst : R s t) :
    Agree R (Survey.examineIn p g o orders e s)
      (Survey.examineIn p g o' orders e t) := by
  obtain ⟨hsweep, hnext⟩ := h.sweep p.criteria orders.sweep e.instruction hst
  obtain ⟨htable, hlast⟩ := h.enumerateIn p g orders.table e.line
    (Sweep.runIn p.criteria o orders.sweep e.instruction s).1 hnext
  dsimp only [Survey.examineIn]
  rw [← hsweep]
  exact ⟨congrArg _ htable, hlast⟩

/-- Examinations one after another. -/
lemma Oracle.Simulates.examineAllIn (p : Survey.Plan) (g : Goal)
    (orders : Nat → Survey.Examination.Orders) (es : List Listing.Entry)
    {s : σ} {t : τ} (hst : R s t) :
    Agree R (Survey.examineAllIn p g o orders es s)
      (Survey.examineAllIn p g o' orders es t) := by
  induction es generalizing s t with
  | nil => exact ⟨rfl, hst⟩
  | cons e es ih =>
      obtain ⟨hx, hnext⟩ := h.examineIn p g (orders e.line) e hst
      obtain ⟨hxs, hlast⟩ := ih hnext
      dsimp only [Survey.examineAllIn]
      rw [hx]
      exact ⟨congrArg _ hxs, hlast⟩

/-- A survey. -/
theorem Oracle.Simulates.runIn (p : Survey.Plan) (g : Goal)
    (orders : Nat → Survey.Examination.Orders) (l : Listing) {s : σ} {t : τ}
    (hst : R s t) :
    Agree R (Survey.runIn p g o orders l s)
      (Survey.runIn p g o' orders l t) := by
  obtain ⟨hxs, hlast⟩ := h.examineAllIn p g orders l.entries hst
  dsimp only [Survey.runIn]
  rw [hxs]
  exact ⟨rfl, hlast⟩

end Simulates

/-! ### What questions keep true -/

/-- What is true of the state before a question is so afterwards. -/
def Oracle.Keeps (P : σ → Prop) (o : Oracle σ) : Prop :=
  ∀ w s, P s → P (o w s).2

/-- A survey keeps true what each question keeps true. -/
theorem Oracle.Keeps.runIn {P : σ → Prop} {o : Oracle σ} (h : o.Keeps P)
    (p : Survey.Plan) (g : Goal) (orders : Nat → Survey.Examination.Orders)
    (l : Listing) {s : σ} (hs : P s) :
    P (Survey.runIn p g o orders l s).2 := by
  have hsim : o.Simulates (fun s t => s = t ∧ P s) o := by
    rintro w s t ⟨rfl, hs⟩
    exact ⟨rfl, rfl, h w s hs⟩
  obtain ⟨-, -, hlast⟩ := hsim.runIn p g orders l ⟨rfl, hs⟩
  exact hlast

/-- Keeping a transcript changes no answer. -/
lemma Oracle.simulates_transcribed (o : Oracle σ) :
    o.transcribed.Simulates (fun s t => s.2 = t) o := by
  rintro w s t rfl
  exact ⟨rfl, rfl⟩

end BitProbe

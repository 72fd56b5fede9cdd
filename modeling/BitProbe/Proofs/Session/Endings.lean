import BitProbe.Proofs.Report.Table
import BitProbe.Proofs.Session.Stages

/-!
How runs end.

A run that fails ends with the status of failure and prints nothing, and every
file is as it was. A run that gets as far as a report ends well if the report
can be written, and the report is printed or is in the file that was asked for.
Failures of the oracle are no failures of the run.

* `Request.performIn`, `Session.runIn`: runs with a transcript of what is asked
  about, side by side if need be;
* `Session.runIn_ascending`: one question after another;
* `Request.Delivered`: where a report has gone;
* `Session.run_ends`: how a run ends in each case.
-/

namespace BitProbe

variable {σ : Type}

open Survey (Examination.Orders)
open FileTree (SameFiles)

namespace Request

/-- What a request leads to if questions are asked in given orders, with the
calls of the oracle during the survey. -/
def performIn (r : Request) (tools : Tools σ)
    (orders : Nat → Examination.Orders) (w : World σ) :
    Except Trouble Ending × List Call × World σ :=
  match r.prepare tools w with
  | (.error e, w) => (.error e, [], w)
  | (.ok p, w) =>
    let (report, calls, w) := Survey.runIn p.plan r.goal
      (p.disassembler.oracle tools).transcribed orders p.listing ([], w)
    let (result, w) := r.finish report w
    (result, calls, w)

end Request

namespace Session

/-- What arguments lead to if questions are asked in given orders, with the
calls of the oracle during the survey. -/
def runIn (tools : Tools σ) (orders : Nat → Examination.Orders)
    (args : List String) (w : World σ) : Ending × List Call × World σ :=
  match CommandLine.read args with
  | .version => ({ status := 0, out := versionText }, [], w)
  | .help => ({ status := 0, out := usageText }, [], w)
  | .misuse => ({ status := misuseStatus, err := usageText }, [], w)
  | .request r =>
    match r.performIn tools orders w with
    | (.ok e, calls, w) => (e, calls, w)
    | (.error t, calls, w) =>
      ({ status := failureStatus, err := t.text }, calls, w)

end Session

/-! ### Surveys with a transcript -/

section Surveys

variable (p : Survey.Plan) (g : Goal) (o : Oracle σ)
  (orders : Nat → Examination.Orders) (l : Listing) (calls : List Call) (s : σ)

/-- A transcript changes neither the report nor what the oracle is left
with. -/
lemma Survey.runIn_transcribed :
    (Survey.runIn p g o.transcribed orders l (calls, s)).1 =
        (Survey.runIn p g o orders l s).1 ∧
      (Survey.runIn p g o.transcribed orders l (calls, s)).2.2 =
        (Survey.runIn p g o orders l s).2 :=
  o.simulates_transcribed.runIn p g orders l rfl

end Surveys

/-- The same for a request, if no questions are asked side by side. -/
lemma Request.performIn_ascending (r : Request) (tools : Tools σ)
    (w : World σ) :
    let run := r.performIn tools (fun _ => ⟨.ascending, .ascending⟩) w
    r.perform tools w = (run.1, run.2.2) := by
  dsimp only
  rw [perform_eq, performIn]
  rcases r.prepare tools w with ⟨_ | p, w'⟩
  · rfl
  · obtain ⟨hreport, hlast⟩ := Survey.runIn_transcribed p.plan r.goal
      (p.disassembler.oracle tools) (fun _ => ⟨.ascending, .ascending⟩)
      p.listing [] w'
    dsimp only
    rw [hreport, hlast, Survey.runIn_ascending]

/-- If no questions are asked side by side, this is the run without a
transcript. -/
theorem Session.runIn_ascending (tools : Tools σ) (args : List String)
    (w : World σ) :
    let run := runIn tools (fun _ => ⟨.ascending, .ascending⟩) args w
    Session.run tools args w = (run.1, run.2.2) := by
  dsimp only
  rw [Session.run, runIn]
  cases CommandLine.read args with
  | version => rfl
  | help => rfl
  | misuse => rfl
  | request r =>
      dsimp only
      rw [r.performIn_ascending]
      rcases r.performIn tools _ w with ⟨_ | _, calls, w'⟩ <;> rfl

/-! ### Reports -/

namespace Request

/-- A report can be written to where a request wants it. -/
def CanDeliver (r : Request) (text : String) (t : FileTree) : Prop :=
  ∀ path, r.output = some path →
    ∃ t', t.write path (Text.Utf8.encode text.toList) = .ok t'

/-- Where a report has gone. Without a path it is printed, as it is if the path
leads to an output. Otherwise it is in the file that the path leads to, at each
place of that file, and nowhere else. -/
inductive Delivered (r : Request) (text : String) (t : FileTree) :
    Ending → FileTree → Prop
  | printed {t' : FileTree} :
    r.output = none → t.SameFiles t' →
    Delivered r text t { status := 0, out := text } t'
  | toOut {path : String} {t' : FileTree} :
    r.output = some path → t.lookup path = .ok (.way 1) → t.SameFiles t' →
    Delivered r text t { status := 0, out := text } t'
  | toErr {path : String} {t' : FileTree} :
    r.output = some path → t.lookup path = .ok (.way 2) → t.SameFiles t' →
    Delivered r text t { status := 0, err := text } t'
  | toFile {path : String} {place : List String} {s t' : FileTree} :
    r.output = some path → t.locate path = .ok place →
    t.IsFreeForFile place → t.SameFiles s →
    s.Holds place (Text.Utf8.encode text.toList) t' →
    Delivered r text t { status := 0 } t'
  | toDevice {path : String} {place : List String} {t' : FileTree} :
    r.output = some path → t.locate path = .ok place →
    ¬t.IsFreeForFile place → t.lookup path ≠ .ok (.way 1) →
    t.lookup path ≠ .ok (.way 2) → t.SameFiles t' →
    Delivered r text t { status := 0 } t'

/-- A run that has delivered its report has ended well. -/
lemma Delivered.status_eq {r : Request} {text : String} {t t' : FileTree}
    {e : Ending} (h : r.Delivered text t e t') : e.status = 0 := by
  cases h <;> rfl

/-- Delivering is writing, unless the path leads to an output. -/
lemma deliver_of_write {r : Request} {text path : String} {w : World σ}
    {s : FileTree} (hout : r.output = some path)
    (hone : w.1.lookup path ≠ .ok (.way 1))
    (htwo : w.1.lookup path ≠ .ok (.way 2))
    (hs : w.1.write path (Text.Utf8.encode text.toList) = .ok s) :
    r.deliver text w = (.ok { status := 0 }, s, w.2) := by
  rw [deliver, hout]
  dsimp only [Option.map_some]
  split
  · next h => cases h
  · next h => exact absurd (Option.some.inj h) hone
  · next h => exact absurd (Option.some.inj h) htwo
  · next hpath _ _ =>
      rw [← Option.some.inj hpath, hs]

/-- A report that can be written is delivered. -/
lemma delivered_of_canDeliver {r : Request} {text : String} {t : FileTree}
    {w : World σ} (hsame : t.SameFiles w.1) (hcan : r.CanDeliver text t) :
    ∃ e w', r.deliver text w = (.ok e, w') ∧ r.Delivered text t e w'.1 := by
  cases hout : r.output with
  | none => exact ⟨_, _, by rw [deliver, hout], .printed hout hsame⟩
  | some path =>
      by_cases hone : t.lookup path = .ok (.way 1)
      · have hone' : w.1.lookup path = .ok (.way 1) := by rwa [hsame.lookup]
        refine ⟨_, w, ?_, .toOut hout hone hsame⟩
        rw [deliver, hout, Option.map_some, hone']
        rfl
      by_cases htwo : t.lookup path = .ok (.way 2)
      · have htwo' : w.1.lookup path = .ok (.way 2) := by rwa [hsame.lookup]
        refine ⟨_, w, ?_, .toErr hout htwo hsame⟩
        rw [deliver, hout, Option.map_some, htwo']
        rfl
      obtain ⟨s, hs⟩ := hsame.exists_write (hcan path hout)
      refine ⟨_, _, deliver_of_write hout (by rwa [hsame.lookup])
        (by rwa [hsame.lookup]) hs, ?_⟩
      cases hplace : w.1.writable path with
      | error e =>
          rw [FileTree.write, hplace] at hs
          cases hs
      | ok place =>
          have hlocate := (FileTree.locate_of_writable hplace).1
          rw [hsame.locate] at hlocate
          by_cases hfree : t.IsFreeForFile place
          · have hfree' : w.1.IsFreeForFile place := by
              simpa only [FileTree.IsFreeForFile, hsame.node?] using hfree
            exact .toFile hout hlocate hfree hsame
              (FileTree.holds_of_write hplace hfree' hs)
          · have hdevice : ¬w.1.IsFreeForFile place := by
              simpa only [FileTree.IsFreeForFile, hsame.node?] using hfree
            rw [FileTree.eq_of_write hplace hdevice hs]
            exact .toDevice hout hlocate hfree hone htwo hsame

/-! ### Requests -/

section Requests

variable {r : Request} {tools : Tools σ} (htools : tools.LeaveFiles)
  {orders : Nat → Examination.Orders} {w : World σ}

include htools

/-- A run that fails before its survey asks nothing, and nothing is run but the
check of one tool. -/
lemma performIn_of_failsAt {stage : Session.Stage}
    (h : r.FailsAt tools orders w stage) (hstage : stage ≠ .rendering) :
    ∃ e w', r.performIn tools orders w = (.error e, [], w') ∧
      (w' = w ∨ ∃ d : Disassembler, w' = (d.check tools w).2) := by
  have hafter := r.snd_prepare tools w
  rw [performIn]
  rcases hprepare : r.prepare tools w with ⟨e | p, w'⟩
  · rw [hprepare] at hafter
    exact ⟨e, w', rfl, hafter⟩
  · exact absurd (prepared_of_prepare htools hprepare).1
      (not_prepared_of_failsAt h hstage p)

/-- A prepared run makes its survey and leaves files alone until its end. -/
lemma performIn_of_prepared {p : Preparation} (h : r.Prepared tools w p) :
    ∃ calls w', w.1.SameFiles w'.1 ∧
      r.performIn tools orders w =
        let last := r.finish (r.reportIn tools orders w p) w'
        (last.1, calls, last.2) := by
  have hprepare := prepare_of_prepared htools h
  have hcheck := Disassembler.sameFiles_check htools p.disassembler w
  have hkept := (Disassembler.keeps_oracle htools p.disassembler w.1).runIn
    p.plan r.goal orders p.listing hcheck
  obtain ⟨hreport, hlast⟩ := Survey.runIn_transcribed p.plan r.goal
    (p.disassembler.oracle tools) orders p.listing []
    (p.disassembler.check tools w).2
  rcases hrun : Survey.runIn p.plan r.goal
    (p.disassembler.oracle tools).transcribed orders p.listing
    ([], (p.disassembler.check tools w).2) with ⟨report, calls, w'⟩
  rw [hrun] at hreport hlast
  dsimp only at hreport hlast
  rw [← hlast] at hkept
  refine ⟨calls, w', hkept, ?_⟩
  rw [performIn, hprepare]
  dsimp only
  rw [hrun, hreport]
  rfl

end Requests

end Request

/-! ### Sessions -/

namespace Session

section Runs

variable {tools : Tools σ} (htools : tools.LeaveFiles) {args : List String}
  {r : Request} (hread : CommandLine.read args = .request r)
  {orders : Nat → Examination.Orders} {w : World σ}

include htools hread

/-- A run that fails says so, prints nothing and leaves files alone. -/
lemma runIn_of_failsAt {stage : Stage} (h : r.FailsAt tools orders w stage) :
    ∃ err calls w',
      runIn tools orders args w = ({ status := 1, err }, calls, w') ∧
        w.1.SameFiles w'.1 ∧
        (stage ≠ .rendering → calls = [] ∧
          (w' = w ∨ ∃ d : Disassembler, w' = (d.check tools w).2)) := by
  rw [runIn, hread]
  dsimp only
  by_cases hlast : stage = .rendering
  · cases hlast
    cases h with
    | rendering hp he =>
        obtain ⟨calls, w', hsame, hperform⟩ :=
          Request.performIn_of_prepared htools hp
        rw [hperform, Request.finish, he]
        exact ⟨_, calls, w', rfl, hsame, fun hne => absurd rfl hne⟩
  · obtain ⟨e, w', hperform, hafter⟩ :=
      Request.performIn_of_failsAt htools h hlast
    rw [hperform]
    refine ⟨_, [], w', rfl, ?_, fun _ => ⟨rfl, hafter⟩⟩
    rcases hafter with rfl | ⟨d, rfl⟩
    · exact .refl _
    · exact Disassembler.sameFiles_check htools d w

/-- A run that gets as far as a text delivers it. -/
lemma runIn_of_renders {text : String} (h : r.Renders tools orders w text)
    (hcan : r.CanDeliver text w.1) :
    ∃ ending calls w',
      runIn tools orders args w = (ending, calls, w') ∧
        r.Delivered text w.1 ending w'.1 := by
  obtain ⟨p, hp, htext⟩ := h
  obtain ⟨calls, w', hsame, hperform⟩ :=
    Request.performIn_of_prepared htools hp
  obtain ⟨ending, w'', hdeliver, hdelivered⟩ :=
    Request.delivered_of_canDeliver hsame hcan
  refine ⟨ending, calls, w'', ?_, hdelivered⟩
  rw [runIn, hread]
  dsimp only
  rw [hperform, Request.finish, htext]
  dsimp only [withContext, Except.mapError]
  rw [hdeliver]

end Runs

end Session

end BitProbe

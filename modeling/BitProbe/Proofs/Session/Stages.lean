import BitProbe.Proofs.FileTree.Changes
import BitProbe.Session

/-!
The stages of a run.

Before its survey a run loads and validates settings, finds the family and
looks at its template, tries the tool and reads the listing. It goes on only if
each of these has succeeded, and until then no word is asked about.

* `Request.Configured`, `Request.Profiled`, `Request.Equipped`,
  `Request.Prepared`: how far a run gets;
* `Session.Stage`, `Request.FailsAt`: where it fails;
* `Request.prepare`, `Request.finish`, `Request.perform_eq`: a run, divided into
  what comes before the survey, the survey and what comes after it;
* `Request.snd_prepare`: what comes before the survey runs nothing but the check
  of the tool;
* `Request.prepared_of_prepare`, `Request.prepare_of_prepared`: it succeeds if
  each stage does;
* `Request.not_prepared_of_failsAt`, `Request.failsAt_or_prepared`: a run fails
  before its survey or is prepared, and not both.
-/

namespace BitProbe

variable {σ : Type}

/-- What a survey of a run goes by. -/
structure Preparation where
  settings : Settings
  architecture : Architecture
  listing : Listing

namespace Preparation

/-- The disassembler that is asked. -/
def disassembler (p : Preparation) : Disassembler :=
  .ofSettings p.settings p.architecture

/-- The plan of the survey. -/
def plan (p : Preparation) : Survey.Plan :=
  .ofSettings p.settings p.architecture

end Preparation

namespace Request

/-! ### How far a run gets -/

/-- The settings in the file of a request; without one, all of them have their
defaults. -/
def loaded (r : Request) (t : FileTree) : Except Failure Settings :=
  match r.settings with
  | some path => Settings.ofFile t path
  | none => .ok {}

/-- The settings are loaded, adjusted and valid. -/
def Configured (r : Request) (t : FileTree) (c : Settings) : Prop :=
  ∃ c₀, r.loaded t = .ok c₀ ∧ r.adjust c₀ = c ∧ c.validate = .ok ()

/-- Besides, the family is known and its template can be patched. -/
def Profiled (r : Request) (t : FileTree) (c : Settings) (a : Architecture) :
    Prop :=
  r.Configured t c ∧ Architecture.ofName r.architecture = .ok a ∧
    (c.profileFor a).validate t = .ok ()

/-- Besides, the tool can be run. -/
def Equipped (r : Request) (tools : Tools σ) (w : World σ) (c : Settings)
    (a : Architecture) : Prop :=
  r.Profiled w.1 c a ∧
    ((Disassembler.ofSettings c a).check tools w).1 = .ok ()

/-- Besides, the listing can be read and has an instruction. -/
def Prepared (r : Request) (tools : Tools σ) (w : World σ) (p : Preparation) :
    Prop :=
  r.Equipped tools w p.settings p.architecture ∧
    Listing.ofFile p.settings.maxLines.toNat w.1 r.listing = .ok p.listing ∧
    p.listing.entries ≠ []

end Request

/-- What can fail in a run before it writes the report. -/
inductive Session.Stage where
  | loading
  | validation
  | architecture
  | template
  | tool
  | reading
  | emptiness
  | rendering
  deriving DecidableEq

namespace Request

/-- The report of the survey that follows a preparation. -/
def reportIn (r : Request) (tools : Tools σ)
    (orders : Nat → Survey.Examination.Orders) (w : World σ)
    (p : Preparation) : Report :=
  (Survey.runIn p.plan r.goal (p.disassembler.oracle tools) orders p.listing
    (p.disassembler.check tools w).2).1

/-- A run gets as far as a stage and fails there. -/
inductive FailsAt (r : Request) (tools : Tools σ)
    (orders : Nat → Survey.Examination.Orders) (w : World σ) : Session.Stage → Prop
  | loading {e : Failure} :
    r.loaded w.1 = .error e → FailsAt r tools orders w .loading
  | validation {c : Settings} {e : Failure} :
    r.loaded w.1 = .ok c → (r.adjust c).validate = .error e →
    FailsAt r tools orders w .validation
  | architecture {c : Settings} {e : Failure} :
    r.Configured w.1 c → Architecture.ofName r.architecture = .error e →
    FailsAt r tools orders w .architecture
  | template {c : Settings} {a : Architecture} {e : Failure} :
    r.Configured w.1 c → Architecture.ofName r.architecture = .ok a →
    (c.profileFor a).validate w.1 = .error e →
    FailsAt r tools orders w .template
  | tool {c : Settings} {a : Architecture} {e : Failure} :
    r.Profiled w.1 c a →
    ((Disassembler.ofSettings c a).check tools w).1 = .error e →
    FailsAt r tools orders w .tool
  | reading {c : Settings} {a : Architecture} {e : Failure} :
    r.Equipped tools w c a →
    Listing.ofFile c.maxLines.toNat w.1 r.listing = .error e →
    FailsAt r tools orders w .reading
  | emptiness {c : Settings} {a : Architecture} {l : Listing} :
    r.Equipped tools w c a →
    Listing.ofFile c.maxLines.toNat w.1 r.listing = .ok l →
    l.entries = [] → FailsAt r tools orders w .emptiness
  | rendering {p : Preparation} {e : Failure} :
    r.Prepared tools w p →
    (r.reportIn tools orders w p).render r.format = .error e →
    FailsAt r tools orders w .rendering

/-- A run gets as far as a report with a text. -/
def Renders (r : Request) (tools : Tools σ)
    (orders : Nat → Survey.Examination.Orders) (w : World σ) (text : String) :
    Prop :=
  ∃ p, r.Prepared tools w p ∧
    (r.reportIn tools orders w p).render r.format = .ok text

/-! ### Runs in three parts -/

/-- What a request leads to before its survey. -/
def prepare (r : Request) (tools : Tools σ) (w : World σ) :
    Except Trouble Preparation × World σ :=
  match r.load w.1 with
  | .error e => (.error e, w)
  | .ok c =>
    match r.family c w.1 with
    | .error e => (.error e, w)
    | .ok a =>
      let d := Disassembler.ofSettings c a
      match d.check tools w with
      | (.error e, w) =>
        (.error (.inContext
          ("Disassembler \x27" ++ d.profile.tool ++ "\x27 is not usable") e),
          w)
      | (.ok (), w) => ((r.entries c w.1).map (Preparation.mk c a), w)

/-- What a request leads to after its survey. -/
def finish (r : Request) (report : Report) (w : World σ) :
    Except Trouble Ending × World σ :=
  match withContext ("Failed to render " ++ r.format.name ++ " report")
      (report.render r.format) with
  | .error e => (.error e, w)
  | .ok text => r.deliver text w

/-- A run is a preparation, a survey and what comes after it. -/
lemma perform_eq (r : Request) (tools : Tools σ) (w : World σ) :
    r.perform tools w =
      match r.prepare tools w with
      | (.error e, w) => (.error e, w)
      | (.ok p, w) =>
        let (report, w) := Survey.run p.plan r.goal
          (p.disassembler.oracle tools) p.listing w
        r.finish report w := by
  rw [perform, prepare]
  cases r.load w.1 with
  | error e => rfl
  | ok c =>
      dsimp only
      cases r.family c w.1 with
      | error e => rfl
      | ok a =>
          dsimp only
          rcases (Disassembler.ofSettings c a).check tools w with ⟨_ | _, w'⟩
          · rfl
          · dsimp only
            cases r.entries c w'.1 <;> rfl

/-! ### Preparations -/

/-- What follows a result follows only a result. -/
lemma bind_eq_ok {ε α β : Type} {x : Except ε α} {f : α → Except ε β} {b : β} :
    x.bind f = .ok b ↔ ∃ a, x = .ok a ∧ f a = .ok b := by
  cases x <;> simp [Except.bind]

/-- A context changes failures only. -/
lemma mapError_eq_ok {ε ε' α : Type} {x : Except ε α} {f : ε → ε'} {a : α} :
    x.mapError f = .ok a ↔ x = .ok a := by
  cases x <;> simp [Except.mapError]

/-- What is no failure is a result. -/
lemma exists_ok {ε α : Type} {x : Except ε α} (h : ∀ e, x ≠ .error e) :
    ∃ a, x = .ok a := by
  cases x with
  | error e => exact absurd rfl (h e)
  | ok a => exact ⟨a, rfl⟩

section Preparations

variable {r : Request} {t : FileTree} {c : Settings} {a : Architecture}
  {l : Listing}

/-- Settings that are loaded are those that are configured. -/
lemma load_eq_ok : r.load t = .ok c ↔ r.Configured t c := by
  have hload : r.load t =
      ((r.loaded t).mapError (Trouble.inContext
        ("Failed to load config " ++ r.settings.getD ""))).bind fun c₀ =>
          (withContext "Invalid configuration" (r.adjust c₀).validate).bind
            fun _ => .ok (r.adjust c₀) := by
    rw [load, loaded]
    cases r.settings <;> rfl
  simp only [hload, bind_eq_ok, mapError_eq_ok, withContext, Except.ok.injEq]
  constructor
  · rintro ⟨c₀, hc₀, u, hvalid, rfl⟩
    exact ⟨c₀, hc₀, rfl, hvalid⟩
  · rintro ⟨c₀, hc₀, rfl, hvalid⟩
    exact ⟨c₀, hc₀, (), hvalid, rfl⟩

/-- A family is found if its profile can be used. -/
lemma family_eq_ok :
    r.family c t = .ok a ↔
      Architecture.ofName r.architecture = .ok a ∧
        (c.profileFor a).validate t = .ok () := by
  have hfamily : r.family c t =
      ((Architecture.ofName r.architecture).mapError Trouble.bare).bind fun a =>
        (withContext ("Unusable " ++ a.display ++ " profile")
          ((c.profileFor a).validate t)).bind fun _ => .ok a := rfl
  simp only [hfamily, bind_eq_ok, mapError_eq_ok, withContext, Except.ok.injEq]
  constructor
  · rintro ⟨a, ha, u, hvalid, rfl⟩
    exact ⟨ha, hvalid⟩
  · rintro ⟨ha, hvalid⟩
    exact ⟨a, ha, (), hvalid, rfl⟩

/-- A listing is read if it has an instruction. -/
lemma entries_eq_ok :
    r.entries c t = .ok l ↔
      Listing.ofFile c.maxLines.toNat t r.listing = .ok l ∧
        l.entries ≠ [] := by
  have hentries : r.entries c t =
      (withContext ("Failed to read corpus " ++ r.listing)
        (Listing.ofFile c.maxLines.toNat t r.listing)).bind fun l =>
          if l.entries.isEmpty then
            .error ⟨"No usable instructions in " ++ r.listing ++ " (" ++
              toString l.skipped.length ++ " lines skipped)", []⟩
          else .ok l := rfl
  simp only [hentries, bind_eq_ok, withContext, mapError_eq_ok]
  constructor
  · rintro ⟨l', hl', hok⟩
    split at hok
    · cases hok
    · next hne =>
        cases hok
        exact ⟨hl', by simpa using hne⟩
  · rintro ⟨hl, hne⟩
    exact ⟨l, hl, if_neg (by simpa using hne)⟩

end Preparations

section Failures

variable {r : Request} {tools : Tools σ} {w : World σ}

lemma Configured.unique {t : FileTree} {c c' : Settings}
    (h : r.Configured t c) (h' : r.Configured t c') : c = c' :=
  Except.ok.inj ((load_eq_ok.2 h).symm.trans (load_eq_ok.2 h'))

lemma Profiled.unique {t : FileTree} {c c' : Settings} {a a' : Architecture}
    (h : r.Profiled t c a) (h' : r.Profiled t c' a') : c = c' ∧ a = a' :=
  ⟨h.1.unique h'.1, Except.ok.inj (h.2.1.symm.trans h'.2.1)⟩

/-- A run that fails before its survey is never prepared. -/
theorem not_prepared_of_failsAt {orders : Nat → Survey.Examination.Orders}
    {stage : Session.Stage} (h : r.FailsAt tools orders w stage)
    (hstage : stage ≠ .rendering) (p : Preparation) :
    ¬r.Prepared tools w p := by
  rintro ⟨⟨hprofiled, hcheck⟩, hl, hne⟩
  have ⟨hconf, ha, ht⟩ := hprofiled
  cases h with
  | loading he =>
      obtain ⟨c₀, hc₀, -⟩ := hconf
      cases hc₀.symm.trans he
  | validation hc he =>
      obtain ⟨c₀, hc₀, hadj, hvalid⟩ := hconf
      cases hc₀.symm.trans hc
      rw [← hadj, he] at hvalid
      cases hvalid
  | architecture hc he => cases ha.symm.trans he
  | template hc ha' he =>
      cases hc.unique hconf
      cases ha'.symm.trans ha
      cases he.symm.trans ht
  | tool hp he =>
      obtain ⟨rfl, rfl⟩ := hp.unique hprofiled
      cases he.symm.trans hcheck
  | reading hp he =>
      obtain ⟨rfl, rfl⟩ := hp.1.unique hprofiled
      cases he.symm.trans hl
  | emptiness hp hl' hempty =>
      obtain ⟨rfl, rfl⟩ := hp.1.unique hprofiled
      cases hl'.symm.trans hl
      exact hne hempty
  | rendering => exact hstage rfl

/-- A run fails before its survey, or it is prepared. -/
theorem failsAt_or_prepared (r : Request) (tools : Tools σ)
    (orders : Nat → Survey.Examination.Orders) (w : World σ) :
    (∃ stage, r.FailsAt tools orders w stage) ∨
      ∃ p, r.Prepared tools w p := by
  by_cases hfail : ∃ stage, r.FailsAt tools orders w stage
  · exact .inl hfail
  · rw [not_exists] at hfail
    obtain ⟨c₀, hc₀⟩ := exists_ok fun e he => hfail _ (.loading he)
    obtain ⟨_, hv⟩ := exists_ok fun e he => hfail _ (.validation hc₀ he)
    have hc : r.Configured w.1 (r.adjust c₀) := ⟨c₀, hc₀, rfl, hv⟩
    obtain ⟨a, ha⟩ := exists_ok fun e he => hfail _ (.architecture hc he)
    obtain ⟨_, ht⟩ := exists_ok fun e he => hfail _ (.template hc ha he)
    have hp : r.Profiled w.1 (r.adjust c₀) a := ⟨hc, ha, ht⟩
    obtain ⟨_, hcheck⟩ := exists_ok fun e he => hfail _ (.tool hp he)
    have he : r.Equipped tools w (r.adjust c₀) a := ⟨hp, hcheck⟩
    obtain ⟨l, hl⟩ := exists_ok fun e he' => hfail _ (.reading he he')
    exact .inr ⟨⟨r.adjust c₀, a, l⟩, he, hl,
      fun hempty => hfail _ (.emptiness he hl hempty)⟩

end Failures

/-- Before the survey nothing is run but the check of one tool. -/
lemma snd_prepare (r : Request) (tools : Tools σ) (w : World σ) :
    (r.prepare tools w).2 = w ∨
      ∃ d : Disassembler, (r.prepare tools w).2 = (d.check tools w).2 := by
  rw [prepare]
  cases r.load w.1 with
  | error e => exact .inl rfl
  | ok c =>
      dsimp only
      cases r.family c w.1 with
      | error e => exact .inl rfl
      | ok a =>
          refine .inr ⟨.ofSettings c a, ?_⟩
          dsimp only
          split <;> next heq => rw [heq]

section Tools

variable {r : Request} {tools : Tools σ} (htools : tools.LeaveFiles)
  {w : World σ}

include htools

/-- A preparation is one in which each stage before the survey succeeds; the
last thing to happen is the check of the tool. -/
lemma prepared_of_prepare {p : Preparation} {w' : World σ}
    (h : r.prepare tools w = (.ok p, w')) :
    r.Prepared tools w p ∧ (p.disassembler.check tools w).2 = w' := by
  rw [prepare] at h
  split at h
  · cases h
  next c hc =>
  split at h
  · cases h
  next a ha =>
  have hsame := Disassembler.sameFiles_check htools (.ofSettings c a) w
  dsimp only at h
  split at h
  · cases h
  next after hcheck =>
  obtain ⟨hmap, rfl⟩ := Prod.mk.inj h
  rw [hcheck] at hsame
  cases hl : r.entries c after.1 with
  | error e =>
      rw [hl] at hmap
      cases hmap
  | ok l =>
      rw [hl] at hmap
      cases hmap
      rw [entries_eq_ok, hsame.ofFile] at hl
      have hok := congrArg Prod.fst hcheck
      exact ⟨⟨⟨⟨load_eq_ok.1 hc, family_eq_ok.1 ha⟩, hok⟩, hl⟩,
        congrArg Prod.snd hcheck⟩

/-- If each stage before the survey succeeds, there is a preparation. -/
lemma prepare_of_prepared {p : Preparation} (h : r.Prepared tools w p) :
    r.prepare tools w = (.ok p, (p.disassembler.check tools w).2) := by
  obtain ⟨⟨⟨hc, ha⟩, hok⟩, hl⟩ := h
  have hsame := Disassembler.sameFiles_check htools p.disassembler w
  rw [← hsame.ofFile, ← entries_eq_ok] at hl
  rw [prepare, load_eq_ok.2 hc]
  dsimp only
  rw [family_eq_ok.2 ha]
  dsimp only
  split
  · next e after hcheck =>
      have hres := congrArg Prod.fst hcheck
      cases hres.symm.trans hok
  · next after hcheck =>
      have hafter : (p.disassembler.check tools w).2 = after :=
        congrArg Prod.snd hcheck
      rw [hafter] at hl ⊢
      rw [hl]
      rfl

end Tools

end Request

end BitProbe

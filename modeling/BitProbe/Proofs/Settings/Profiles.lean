import BitProbe.CommandLine
import Mathlib.Tactic.Common

/-!
The profiles that changes make.

A field of a profile has the value that the last change of its family gives it,
and its built-in value if none does. Changes of other families, and changes
whose names stand for no family, make no difference. Settings that are valid
have no change with a value that no profile can show, and a template or an
offset on the command line is the last change of the family named there.

* `Architecture.named?_eq_some_iff`: names and the families they stand for;
* `ProfileChange.Unset`, `ProfileChange.Settles`: what changes say about a field
  of a family;
* `ProfileChange.Settled`: the profile that changes make;
* `Settings.profileFor_eq_iff`: it is that of the family;
* `ProfileChange.Shown`, `Settings.exists_shown`: what a change of valid
  settings is seen by;
* `Request.Adjusts`, `Request.adjusts_adjust`: changes on the command line;
* `Settings.profiles_follow_changes`: all of this.
-/

namespace BitProbe

/-! ### Names -/

/-- A name stands for a family exactly if it is one of its accepted names. -/
lemma Architecture.named?_eq_some_iff {name : String} {a : Architecture} :
    named? name = some a ↔ (name, a) ∈ names := by
  constructor
  · intro h
    obtain ⟨n, hn, rfl⟩ := Option.map_eq_some_iff.1 h
    have hname := List.find?_some hn
    rw [decide_eq_true_iff] at hname
    exact hname ▸ List.mem_of_find?_eq_some hn
  · -- no name is accepted for two families
    have hnames : ∀ n ∈ names, named? n.1 = some n.2 := by decide
    exact hnames (name, a)

/-- What a name stands for is an accepted family, or the name is refused. -/
lemma Architecture.ofName_eq_ok_iff {name : String} {a : Architecture} :
    ofName name = .ok a ↔ (name, a) ∈ names := by
  rw [← named?_eq_some_iff, ofName]
  cases named? name with
  | none => exact iff_of_false nofun nofun
  | some b => simp

/-- The built-in profile of a family is one of the family. -/
lemma Profile.architecture_builtIn (a : Architecture) :
    (builtIn a).architecture = a := by
  cases a <;> rfl

namespace ProfileChange

/-- A change is of a family if it has one of the names of this. -/
def IsOf (c : ProfileChange) (a : Architecture) : Prop :=
  (c.architecture, a) ∈ Architecture.names

instance (c : ProfileChange) (a : Architecture) : Decidable (c.IsOf a) :=
  inferInstanceAs (Decidable ((c.architecture, a) ∈ Architecture.names))

lemma appliesTo_iff {c : ProfileChange} {a : Architecture} :
    c.appliesTo a = true ↔ c.IsOf a := by
  rw [appliesTo, decide_eq_true_iff, Architecture.named?_eq_some_iff, IsOf]

section Belonging

variable {a : Architecture} {c : ProfileChange}

lemma filter_cons_of_isOf (h : c.IsOf a) (changes : List ProfileChange) :
    (c :: changes).filter (·.appliesTo a) =
      c :: changes.filter (·.appliesTo a) := by
  have happlies : c.appliesTo a = true := appliesTo_iff.2 h
  rw [List.filter_cons, if_pos happlies]

lemma filter_cons_of_not_isOf (h : ¬ c.IsOf a) (changes : List ProfileChange) :
    (c :: changes).filter (·.appliesTo a) =
      changes.filter (·.appliesTo a) := by
  have happlies : ¬ c.appliesTo a = true := mt appliesTo_iff.1 h
  rw [List.filter_cons, if_neg happlies]

end Belonging

/-! ### Fields -/

section Fields

variable {α : Type}

/-- None of some changes that are of a family gives a field a value. -/
def Unset (a : Architecture) (field : ProfileChange → Option α)
    (changes : List ProfileChange) : Prop :=
  ∀ c ∈ changes, c.IsOf a → field c = none

instance [DecidableEq α] (a : Architecture) (field : ProfileChange → Option α)
    (changes : List ProfileChange) : Decidable (Unset a field changes) :=
  inferInstanceAs (Decidable (∀ c ∈ changes, c.IsOf a → field c = none))

/-- The value of a field by some changes: the one that the last change of the
family to give it any gives it, or the built-in value if none does. -/
inductive Settles (a : Architecture) (field : ProfileChange → Option α)
    (builtIn : α) : List ProfileChange → α → Prop
  | builtIn {changes : List ProfileChange} : Unset a field changes →
    Settles a field builtIn changes builtIn
  | last {before after : List ProfileChange} {c : ProfileChange} {v : α} :
    c.IsOf a → field c = some v → Unset a field after →
    Settles a field builtIn (before ++ c :: after) v

/-- A field with the changes of a family made in order. -/
def settle (a : Architecture) (field : ProfileChange → Option α) (v : α)
    (changes : List ProfileChange) : α :=
  (changes.filter (·.appliesTo a)).foldl (fun v c => (field c).getD v) v

variable {a : Architecture} {field : ProfileChange → Option α}

lemma settle_cons_of_isOf {c : ProfileChange} (h : c.IsOf a) (v : α)
    (changes : List ProfileChange) :
    settle a field v (c :: changes) =
      settle a field ((field c).getD v) changes := by
  rw [settle, filter_cons_of_isOf h, List.foldl_cons, settle]

lemma settle_cons_of_not_isOf {c : ProfileChange} (h : ¬ c.IsOf a) (v : α)
    (changes : List ProfileChange) :
    settle a field v (c :: changes) = settle a field v changes := by
  rw [settle, filter_cons_of_not_isOf h, settle]

lemma settle_append (v : α) (before after : List ProfileChange) :
    settle a field v (before ++ after) =
      settle a field (settle a field v before) after := by
  rw [settle, List.filter_append, List.foldl_append, settle, settle]

lemma Unset.of_cons {c : ProfileChange} {changes : List ProfileChange}
    (h : Unset a field (c :: changes)) : Unset a field changes :=
  fun d hd => h d (List.mem_cons_of_mem c hd)

lemma Unset.cons {c : ProfileChange} {changes : List ProfileChange}
    (hc : c.IsOf a → field c = none) (h : Unset a field changes) :
    Unset a field (c :: changes) :=
  List.forall_mem_cons.2 ⟨hc, h⟩

/-- Without a change that gives it a value, a field is as before. -/
lemma Unset.settle_eq {changes : List ProfileChange}
    (h : Unset a field changes) (v : α) : settle a field v changes = v := by
  induction changes with
  | nil => rfl
  | cons c changes ih =>
      by_cases hc : c.IsOf a
      · rw [settle_cons_of_isOf hc, h c List.mem_cons_self hc]
        exact ih h.of_cons
      · rw [settle_cons_of_not_isOf hc]
        exact ih h.of_cons

lemma Settles.settle_eq {changes : List ProfileChange} {v w : α}
    (h : Settles a field v changes w) : settle a field v changes = w := by
  cases h with
  | builtIn h => exact h.settle_eq v
  | last hc hv h =>
      rw [settle_append, settle_cons_of_isOf hc, hv]
      exact h.settle_eq w

lemma Settles.cons {changes : List ProfileChange} {c : ProfileChange} {v w : α}
    (hc : c.IsOf a → field c = none) (h : Settles a field v changes w) :
    Settles a field v (c :: changes) w := by
  cases h with
  | builtIn h => exact .builtIn (h.cons hc)
  | last hd hw h =>
      rw [← List.cons_append]
      exact .last hd hw h

/-- A first change that gives a field a value takes the place of the built-in
one for those after it. -/
lemma Settles.cons_of_eq_some {changes : List ProfileChange} {c : ProfileChange}
    {u v w : α} (hc : c.IsOf a) (hw : field c = some w)
    (h : Settles a field w changes u) : Settles a field v (c :: changes) u := by
  cases h with
  | builtIn h =>
      rw [← List.nil_append (c :: changes)]
      exact .last hc hw h
  | last hd hu h =>
      rw [← List.cons_append]
      exact .last hd hu h

/-- Whatever the changes are, one value is settled by them. -/
lemma settles_settle (a : Architecture) (field : ProfileChange → Option α)
    (v : α) (changes : List ProfileChange) :
    Settles a field v changes (settle a field v changes) := by
  -- what the first change gives is what those after it start from
  induction changes generalizing v with
  | nil => exact .builtIn fun _ hd => absurd hd List.not_mem_nil
  | cons c changes ih =>
      by_cases hc : c.IsOf a
      · rw [settle_cons_of_isOf hc]
        cases hw : field c with
        | none => exact (ih v).cons fun _ => hw
        | some w => exact (ih w).cons_of_eq_some hc hw
      · rw [settle_cons_of_not_isOf hc]
        exact (ih v).cons fun h => absurd h hc

lemma Settles.unique {changes : List ProfileChange} {u v w : α}
    (h : Settles a field v changes u) (h' : Settles a field v changes w) :
    u = w :=
  h.settle_eq.symm.trans h'.settle_eq

end Fields

/-! ### Profiles -/

/-- What is settled by changes about what the disassembler is given: a container
and an offset if it is given these, and nothing otherwise. -/
inductive SettlesInvocation (a : Architecture) (changes : List ProfileChange) :
    Invocation → Invocation → Prop
  | raw : SettlesInvocation a changes .raw .raw
  | templated {template template' : String} {offset offset' : UInt64} :
    Settles a (·.template) template changes template' →
    Settles a (·.patchOffset) offset changes offset' →
    SettlesInvocation a changes (.templated template offset)
      (.templated template' offset')

/-- The profile of a family that some changes make of the built-in one. -/
structure Settled (a : Architecture) (changes : List ProfileChange)
    (p : Profile) : Prop where
  architecture : p.architecture = a
  tool : Settles a (·.tool) (Profile.builtIn a).tool changes p.tool
  toolArgs :
    Settles a (·.toolArgs) (Profile.builtIn a).toolArgs changes p.toolArgs
  invocation :
    SettlesInvocation a changes (Profile.builtIn a).invocation p.invocation
  lineIndex :
    Settles a (·.lineIndex) (Profile.builtIn a).lineIndex changes p.lineIndex

/-- A container that is replaced has a path and an offset before and after. -/
lemma SettlesInvocation.exists_templated {a : Architecture}
    {changes : List ProfileChange} {i i' : Invocation}
    (h : SettlesInvocation a changes i i') (hi : i ≠ .raw) :
    ∃ template template' offset offset', i' = .templated template' offset' ∧
      Settles a (·.template) template changes template' ∧
      Settles a (·.patchOffset) offset changes offset' := by
  cases h with
  | raw => exact absurd rfl hi
  | templated ht ho => exact ⟨_, _, _, _, rfl, ht, ho⟩

/-- What the disassembler is given, with the changes of a family made. -/
def settleInvocation (a : Architecture) (changes : List ProfileChange) :
    Invocation → Invocation
  | .raw => .raw
  | .templated template offset =>
    .templated (settle a (·.template) template changes)
      (settle a (·.patchOffset) offset changes)

lemma settleInvocation_eq_iff {a : Architecture} {changes : List ProfileChange}
    {i i' : Invocation} :
    settleInvocation a changes i = i' ↔ SettlesInvocation a changes i i' := by
  constructor
  · rintro rfl
    cases i with
    | raw => exact .raw
    | templated template offset =>
        exact .templated (settles_settle ..) (settles_settle ..)
  · rintro (_ | ⟨ht, ho⟩)
    · rfl
    · rw [settleInvocation, ht.settle_eq, ho.settle_eq]

/-- Changes are made field by field. -/
lemma foldl_apply (a : Architecture) (changes : List ProfileChange)
    (p : Profile) :
    (changes.filter (·.appliesTo a)).foldl apply p =
      { p with
        tool := settle a (·.tool) p.tool changes
        toolArgs := settle a (·.toolArgs) p.toolArgs changes
        lineIndex := settle a (·.lineIndex) p.lineIndex changes
        invocation := settleInvocation a changes p.invocation } := by
  induction changes generalizing p with
  | nil => cases p with | mk _ _ _ i _ => cases i <;> rfl
  | cons c changes ih =>
      by_cases hc : c.IsOf a
      · rw [filter_cons_of_isOf hc, List.foldl_cons, ih]
        simp only [settle_cons_of_isOf hc]
        cases p with
        | mk _ _ _ i _ =>
            cases i <;>
              simp only [apply, settleInvocation, settle_cons_of_isOf hc]
      · rw [filter_cons_of_not_isOf hc, ih]
        simp only [settle_cons_of_not_isOf hc]
        cases p with
        | mk _ _ _ i _ =>
            cases i <;> simp only [settleInvocation, settle_cons_of_not_isOf hc]

end ProfileChange

namespace Settings

open ProfileChange (Settled)

/-- The profile of a family is what the changes make of it. -/
theorem profileFor_eq_iff {c : Settings} {a : Architecture} {p : Profile} :
    c.profileFor a = p ↔ Settled a c.profiles p := by
  rw [profileFor, ProfileChange.foldl_apply]
  constructor
  · rintro rfl
    exact ⟨Profile.architecture_builtIn a, ProfileChange.settles_settle ..,
      ProfileChange.settles_settle ..,
      ProfileChange.settleInvocation_eq_iff.1 rfl,
      ProfileChange.settles_settle ..⟩
  · intro h
    rw [h.tool.settle_eq, h.toolArgs.settle_eq, h.lineIndex.settle_eq,
      ProfileChange.settleInvocation_eq_iff.2 h.invocation,
      Profile.architecture_builtIn, ← h.architecture]

/-- A change of another family, or of none, makes no difference wherever it
stands. -/
lemma profileFor_of_not_isOf {a : Architecture} {c : Settings}
    {before after : List ProfileChange} {d : ProfileChange}
    (hc : c.profiles = before ++ d :: after) (hd : ¬ d.IsOf a) :
    profileFor { c with profiles := before ++ after } a = c.profileFor a := by
  rw [profileFor, profileFor, hc, List.filter_append, List.filter_append,
    ProfileChange.filter_cons_of_not_isOf hd]

end Settings

/-! ### Changes of valid settings -/

namespace ProfileChange

/-- A valid change is of one family, and gives this a container or an offset
only if there is one to be replaced. -/
lemma exists_of_validate {c : ProfileChange} (h : c.validate = .ok ()) :
    ∃ a, (∀ b, c.IsOf b ↔ b = a) ∧
      ((Profile.builtIn a).invocation = .raw →
        c.template = none ∧ c.patchOffset = none) := by
  rw [validate] at h
  cases ha : Architecture.ofName c.architecture with
  | error e =>
      rw [ha] at h
      cases h
  | ok a =>
      refine ⟨a, fun b => ?_, fun hraw => ?_⟩
      · rw [IsOf, ← Architecture.ofName_eq_ok_iff, ha, Except.ok.injEq, eq_comm]
      · rw [ha] at h
        dsimp only at h
        rw [hraw] at h
        split_ifs at h with hgiven
        simpa [Invocation.isTemplated] using hgiven

/-- What a change gives to fields is in a profile, unless later changes of the
family give the same fields something. -/
structure Shown (c : ProfileChange) (a : Architecture)
    (later : List ProfileChange) (p : Profile) : Prop where
  tool : ∀ v, c.tool = some v → Unset a (·.tool) later → p.tool = v
  toolArgs :
    ∀ v, c.toolArgs = some v → Unset a (·.toolArgs) later → p.toolArgs = v
  template : ∀ v, c.template = some v → Unset a (·.template) later →
    ∃ offset, p.invocation = .templated v offset
  patchOffset : ∀ v, c.patchOffset = some v → Unset a (·.patchOffset) later →
    ∃ template, p.invocation = .templated template v
  lineIndex :
    ∀ v, c.lineIndex = some v → Unset a (·.lineIndex) later → p.lineIndex = v

/-- A change shows in the profile of its family if it gives this a container or
an offset only where there is one to be replaced. -/
lemma Settled.shown {a : Architecture} {before after : List ProfileChange}
    {c : ProfileChange} {p : Profile}
    (h : Settled a (before ++ c :: after) p) (hc : c.IsOf a)
    (hraw : (Profile.builtIn a).invocation = .raw →
      c.template = none ∧ c.patchOffset = none) : c.Shown a after p := by
  refine ⟨?_, ?_, ?_, ?_, ?_⟩
  · intro v hv hlater
    exact h.tool.unique (.last hc hv hlater)
  · intro v hv hlater
    exact h.toolArgs.unique (.last hc hv hlater)
  · intro v hv hlater
    have hi : (Profile.builtIn a).invocation ≠ .raw := fun hi =>
      nomatch hv.symm.trans (hraw hi).1
    obtain ⟨_, _, _, offset, hp, ht, -⟩ := h.invocation.exists_templated hi
    exact ⟨offset, ht.unique (.last hc hv hlater) ▸ hp⟩
  · intro v hv hlater
    have hi : (Profile.builtIn a).invocation ≠ .raw := fun hi =>
      nomatch hv.symm.trans (hraw hi).2
    obtain ⟨_, template, _, _, hp, -, ho⟩ := h.invocation.exists_templated hi
    exact ⟨template, ho.unique (.last hc hv hlater) ▸ hp⟩
  · intro v hv hlater
    exact h.lineIndex.unique (.last hc hv hlater)

end ProfileChange

namespace Settings

open ProfileChange (Settled)

lemma validateChanges_eq_ok_iff {changes : List ProfileChange} :
    validateChanges changes = .ok () ↔
      ∀ c ∈ changes, c.validate = .ok () := by
  induction changes with
  | nil => simp [validateChanges]
  | cons c changes ih =>
      rw [validateChanges, List.forall_mem_cons, ← ih]
      cases c.validate with
      | error e => exact iff_of_false nofun fun h => nomatch h.1
      | ok u => exact (and_iff_right rfl).symm

lemma validate_of_mem {c : Settings} (h : c.validate = .ok ())
    {d : ProfileChange} (hd : d ∈ c.profiles) : d.validate = .ok () := by
  rw [validate] at h
  split_ifs at h
  exact validateChanges_eq_ok_iff.1 h d hd

/-- Every change of valid settings is of one family and shows in its profile. -/
theorem exists_shown {c : Settings} (h : c.validate = .ok ())
    {before after : List ProfileChange} {d : ProfileChange}
    (hc : c.profiles = before ++ d :: after) :
    ∃ a, (∀ b, d.IsOf b ↔ b = a) ∧ d.Shown a after (c.profileFor a) := by
  have hd : d ∈ c.profiles := hc ▸ List.mem_append_cons_self
  obtain ⟨a, hof, hraw⟩ :=
    ProfileChange.exists_of_validate (validate_of_mem h hd)
  have hset : Settled a (before ++ d :: after) (c.profileFor a) :=
    hc ▸ profileFor_eq_iff.1 rfl
  exact ⟨a, hof, hset.shown ((hof a).2 rfl) hraw⟩

end Settings

/-! ### Changes on the command line -/

/-- What a request does to the profiles of settings. A template and an offset
that it gives are those of the family that it names, if the settings that
result are valid; all other profiles are as before. -/
structure Request.Adjusts (r : Request) (c adjusted : Settings) : Prop where
  template : adjusted.validate = .ok () →
    ∀ template, r.template = some template →
      ∃ a, (∀ b, (r.architecture, b) ∈ Architecture.names ↔ b = a) ∧
        ∃ offset,
          (adjusted.profileFor a).invocation = .templated template offset
  patchOffset : adjusted.validate = .ok () →
    ∀ offset, r.patchOffset = some offset →
      ∃ a, (∀ b, (r.architecture, b) ∈ Architecture.names ↔ b = a) ∧
        ∃ template,
          (adjusted.profileFor a).invocation = .templated template offset
  others : ∀ a, (r.architecture, a) ∉ Architecture.names →
    adjusted.profileFor a = c.profileFor a

namespace Request

/-- The change that a request asks for. -/
def change (r : Request) : ProfileChange where
  architecture := r.architecture
  template := r.template
  patchOffset := r.patchOffset

lemma profiles_adjust (r : Request) (c : Settings) :
    (r.adjust c).profiles =
      c.profiles ++
        if r.template.isSome || r.patchOffset.isSome then [r.change] else [] :=
  rfl

lemma adjusts_adjust (r : Request) (c : Settings) :
    r.Adjusts c (r.adjust c) := by
  have hunset {α : Type} (a : Architecture) (field : ProfileChange → Option α) :
      ProfileChange.Unset a field [] := fun _ hd => absurd hd List.not_mem_nil
  refine ⟨fun hv template ht => ?_, fun hv offset ho => ?_, fun a ha => ?_⟩
  · have hprofiles : (r.adjust c).profiles = c.profiles ++ r.change :: [] := by
      rw [profiles_adjust, ht]
      rfl
    obtain ⟨a, hof, hshown⟩ := Settings.exists_shown hv hprofiles
    exact ⟨a, hof, hshown.template template ht (hunset a _)⟩
  · have hprofiles : (r.adjust c).profiles = c.profiles ++ r.change :: [] := by
      rw [profiles_adjust, ho, Option.isSome_some, Bool.or_true]
      rfl
    obtain ⟨a, hof, hshown⟩ := Settings.exists_shown hv hprofiles
    exact ⟨a, hof, hshown.patchOffset offset ho (hunset a _)⟩
  · have hchange : ¬ r.change.IsOf a := ha
    rw [Settings.profileFor, profiles_adjust, List.filter_append]
    split
    · rw [ProfileChange.filter_cons_of_not_isOf hchange, List.filter_nil,
        List.append_nil, Settings.profileFor]
    · rw [List.filter_nil, List.append_nil, Settings.profileFor]

end Request

/-- The profiles of settings follow the changes: each is what the changes of its
family make of it, and no other change matters. If the settings are valid, then
every change shows. -/
theorem Settings.profiles_follow_changes (c : Settings) :
    (∀ a p, c.profileFor a = p ↔ ProfileChange.Settled a c.profiles p) ∧
      (∀ a before d after, c.profiles = before ++ d :: after → ¬ d.IsOf a →
        profileFor { c with profiles := before ++ after } a =
          c.profileFor a) ∧
      (c.validate = .ok () →
        ∀ before d after, c.profiles = before ++ d :: after →
          ∃ a, (∀ b, d.IsOf b ↔ b = a) ∧
            d.Shown a after (c.profileFor a)) ∧
      ∀ r : Request, r.Adjusts c (r.adjust c) :=
  ⟨fun _ _ => profileFor_eq_iff, fun _ _ _ _ => profileFor_of_not_isOf,
    fun h _ _ _ => exists_shown h, fun r => r.adjusts_adjust c⟩

/-- Two changes of one family under both its names, and one of another. -/
def Settings.changedTwice : Settings where
  profiles :=
    [{ architecture := "SM52", template := "first.cubin"
       patchOffset := some 64 },
     { architecture := "Fermi", tool := "nvdisasm-8" },
     { architecture := "Maxwell", template := "second.cubin" }]

/-- The first change shows where the second gives nothing, and the second
where both give something. -/
theorem Settings.profiles_follow_changes_changedTwice :
    changedTwice.validate = .ok () ∧
      (changedTwice.profileFor .maxwell).invocation =
        .templated "second.cubin" 64 := by
  have hv : changedTwice.validate = .ok () := by decide
  have hshown := (profiles_follow_changes changedTwice).2.2.1 hv
  obtain ⟨a, hof, hfirst⟩ := hshown [] _ _ rfl
  obtain rfl : .maxwell = a := (hof .maxwell).1 (by decide)
  obtain ⟨a, hof, hsecond⟩ := hshown (changedTwice.profiles.take 2) _ _ rfl
  obtain rfl : .maxwell = a := (hof .maxwell).1 (by decide)
  obtain ⟨template, hoffset⟩ := hfirst.patchOffset 64 rfl (by decide)
  obtain ⟨offset, htemplate⟩ := hsecond.template _ rfl (by decide)
  refine ⟨hv, htemplate.trans ?_⟩
  rw [(Invocation.templated.inj (hoffset.symm.trans htemplate)).2]

end BitProbe

import BitProbe.Proofs.Json.Members
import Mathlib.Data.List.Forall2

/-!
Settings from some of their members.

A structure may be written with some of its members in any order, if those that
are left out have their defaults. Its fields are then read as they are. A
member of another name and a second member of one name are refused.

* `Json.Lists`: some of the members of a structure;
* `Json.Lists.field?`: what a field is read as;
* `ProfileChange.Written`, `Settings.Written`: the values that a structure may
  be written as;
* `ProfileChange.ofJson?_of_written`, `Settings.ofJson?_of_written`: reading
  them;
* `Settings.ofJson?_of_spoiled`, `Settings.ofJson?_of_spoiledChange`: members
  that are refused.
-/

namespace BitProbe

namespace Json

/-- The members of an object. -/
def members : Json → List (String × Json)
  | object ms => ms
  | _ => []

/-- Some of the members of a structure, in any order and none twice. Those that
are left out are as they are by default. -/
structure Lists (all defaults ms : List (String × Json)) : Prop where
  nodup : (ms.map Prod.fst).Nodup
  subset : ∀ m ∈ ms, m ∈ all
  rest : ∀ m ∈ all, m ∉ ms → m ∈ defaults

/-- All members of a structure. -/
lemma Lists.all {all : List (String × Json)} (h : (all.map Prod.fst).Nodup)
    (defaults : List (String × Json)) : Lists all defaults all :=
  ⟨h, fun _ hm => hm, fun _ hm hnot => absurd hm hnot⟩

/-- Members with different names are found by their names. -/
lemma lookup_eq_some_iff_mem {ms : List (String × Json)}
    (h : (ms.map Prod.fst).Nodup) {name : String} {j : Json} :
    ms.lookup name = some j ↔ (name, j) ∈ ms := by
  induction ms with
  | nil => simp
  | cons m ms ih =>
      obtain ⟨hfirst, hrest⟩ := List.nodup_cons.1 h
      rw [List.lookup_cons, List.mem_cons]
      by_cases hname : name = m.1
      · -- the first member has the name, so no other one does
        have hnot : (name, j) ∉ ms := fun hm =>
          hfirst (hname ▸ List.mem_map_of_mem hm)
        simp [hname, Prod.ext_iff, eq_comm, hname ▸ hnot]
      · have hne : (name, j) ≠ m := fun hm => hname (congrArg Prod.fst hm)
        rw [beq_false_of_ne hname]
        simpa [hne] using ih hrest

section Fields

variable {all defaults ms : List (String × Json)} {names : List String}
  (h : Lists all defaults ms) (hnames : names.Nodup)
  (hall : all.map Prod.fst = names) (hdefaults : defaults.map Prod.fst = names)

include h hall

/-- There are no other members. -/
lemma Lists.fields? : (object ms).fields? names = some ms := by
  refine if_pos ⟨h.nodup, fun m hm => ?_⟩
  rw [← hall]
  exact List.mem_map_of_mem (h.subset m hm)

include hnames hdefaults

/-- A field is read as it is, from its member or by default. -/
lemma Lists.field? (i : Nat) {name : String} {x d : Json}
    (hx : all[i]? = some (name, x)) (hd : defaults[i]? = some (name, d))
    {α : Type} {value : Json → Option α} {a dflt : α} (ha : value x = some a)
    (hdflt : value d = some dflt) :
    Json.field? ms name value dflt = some a := by
  have hxall := List.mem_of_getElem? hx
  have hddef := List.mem_of_getElem? hd
  rw [Json.field?]
  cases hlookup : ms.lookup name with
  | none =>
      -- a member that is left out is as by default
      have hnot : (name, x) ∉ ms := fun hm => by
        rw [(lookup_eq_some_iff_mem h.nodup).2 hm] at hlookup
        cases hlookup
      have hxdef := h.rest _ hxall hnot
      have hsame : d = x := by
        rw [← lookup_eq_some_iff_mem (hdefaults ▸ hnames)] at hxdef hddef
        exact Option.some.inj (hddef.symm.trans hxdef)
      rw [← ha, ← hdflt, hsame]
  | some y =>
      have hy := h.subset _ ((lookup_eq_some_iff_mem h.nodup).1 hlookup)
      have hsame : y = x := by
        rw [← lookup_eq_some_iff_mem (hall ▸ hnames)] at hy hxall
        exact Option.some.inj (hy.symm.trans hxall)
      rw [hsame]
      exact ha

end Fields

/-! ### Values of fields -/

@[simp] lemma asUInt64?_number (n : UInt64) :
    (number n.toNat).asUInt64? = some n := by
  rw [asUInt64?, asBelow?, if_pos n.toNat_lt, Option.map_some,
    UInt64.ofNat_toNat]

@[simp] lemma asUInt32?_number (n : UInt32) :
    (number n.toNat).asUInt32? = some n := by
  rw [asUInt32?, asBelow?, if_pos n.toNat_lt, Option.map_some,
    UInt32.ofNat_toNat]

/-- A value that may be missing is read as it is written. -/
lemma asOption?_ofOption {α : Type} {value : Json → Option α} {write : α → Json}
    (h : ∀ a, value (write a) = some a) (hnull : ∀ a, write a ≠ .null)
    (o : Option α) : asOption? value (ofOption write o) = some o := by
  cases o with
  | none => rfl
  | some a =>
      have hsome := h a
      have hne := hnull a
      rw [ofOption]
      generalize write a = j at hsome hne
      rw [asOption?, hsome, Option.map_some]
      exact hne

/-- An item that cannot be read spoils the array. -/
lemma asList?_eq_none {α : Type} {item : Json → Option α} {xs : List Json}
    {x : Json} (hx : x ∈ xs) (hnone : item x = none) :
    (array xs).asList? item = none := by
  rw [asList?, Option.eq_none_iff_forall_ne_some]
  intro ys hys
  rw [mapM_eq_some_iff] at hys
  have hmem : item x ∈ ys.map some := hys ▸ List.mem_map_of_mem hx
  rw [hnone] at hmem
  simp at hmem

end Json

/-! ### Profile changes -/

namespace ProfileChange

/-- The members that a change is written with may be any of those that are not
as by default, and others. -/
def Written (c : ProfileChange) (j : Json) : Prop :=
  ∃ ms, j = .object ms ∧
    Json.Lists c.toJson.members ({} : ProfileChange).toJson.members ms

/-- A change is read back, however it is written. -/
theorem ofJson?_of_written {c : ProfileChange} {j : Json} (h : c.Written j) :
    ofJson? j = some c := by
  obtain ⟨ms, rfl, h⟩ := h
  have hfields : (Json.object ms).fields? fieldNames = some ms := h.fields? rfl
  have hfield := h.field? (by decide : fieldNames.Nodup) rfl rfl
  have htext := Json.asOption?_ofOption Json.asText?_text nofun
  have hargs := Json.asOption?_ofOption
    (Json.asList?_map Json.asText?_text) nofun
  have hnumber := Json.asOption?_ofOption Json.asUInt64?_number nofun
  simp only [ofJson?, hfields, Option.bind_eq_bind, Option.bind_some,
    hfield 0 rfl rfl (Json.asText?_text _) (Json.asText?_text _),
    hfield 1 rfl rfl (htext _) (htext _),
    hfield 2 rfl rfl (hargs _) (hargs _),
    hfield 3 rfl rfl (htext _) (htext _),
    hfield 4 rfl rfl (hnumber _) (hnumber _),
    hfield 5 rfl rfl (hnumber _) (hnumber _)]
  rfl

/-- Changes are read back one by one. -/
lemma asList?_of_written {cs : List ProfileChange} {js : List Json}
    (h : List.Forall₂ Written cs js) :
    (Json.array js).asList? ofJson? = some cs := by
  rw [Json.asList?, mapM_eq_some_iff]
  induction h with
  | nil => rfl
  | cons hc _ ih =>
      rw [List.map_cons, List.map_cons, ih, ofJson?_of_written hc]

/-- All members are written, in the order of the fields. -/
lemma written_toJson (c : ProfileChange) : c.Written c.toJson :=
  have hnodup : (c.toJson.members.map Prod.fst).Nodup :=
    (by decide : fieldNames.Nodup)
  ⟨_, rfl, .all hnodup _⟩

/-- A change with a member of another name, or with two members of one name,
is none. -/
lemma ofJson?_of_spoiled {ms : List (String × Json)}
    (h : ¬((ms.map Prod.fst).Nodup ∧ ∀ m ∈ ms, m.1 ∈ fieldNames)) :
    ofJson? (.object ms) = none := by
  have hfields : (Json.object ms).fields? fieldNames = none := if_neg h
  rw [ofJson?, hfields]
  rfl

end ProfileChange

/-! ### Settings -/

namespace Settings

/-- All members of settings, with the values that profile changes are written
as. -/
def membersWith (c : Settings) (profiles : List Json) :
    List (String × Json) :=
  c.toJson.members.dropLast ++ [("profiles", .array profiles)]

/-- The members that settings are written with may be any of those that are not
as by default, and others; the same goes for each profile change. -/
def Written (c : Settings) (j : Json) : Prop :=
  ∃ ms profiles, j = .object ms ∧
    List.Forall₂ ProfileChange.Written c.profiles profiles ∧
    Json.Lists (c.membersWith profiles) ({} : Settings).toJson.members ms

/-- Settings are read back, however they are written. -/
theorem ofJson?_of_written {c : Settings} {j : Json} (h : c.Written j) :
    ofJson? j = some c := by
  obtain ⟨ms, profiles, rfl, hprofiles, h⟩ := h
  have hfields : (Json.object ms).fields? fieldNames = some ms := h.fields? rfl
  have hfield := h.field? (by decide : fieldNames.Nodup) rfl rfl
  have haliases := Json.asList?_map
    (fun p : String × String => (rfl :
      Json.asPair? (.array [.text p.1, .text p.2]) = some p))
  have hchanges :
      Json.field? ms "profiles" (Json.asList? ProfileChange.ofJson?) [] =
        some c.profiles :=
    hfield 7 rfl rfl (ProfileChange.asList?_of_written hprofiles) rfl
  simp only [ofJson?, hfields, Option.bind_eq_bind, Option.bind_some,
    hfield 0 rfl rfl (Json.asUInt64?_number _) (Json.asUInt64?_number _),
    hfield 1 rfl rfl (Json.asUInt64?_number _) (Json.asUInt64?_number _),
    hfield 2 rfl rfl (Json.asUInt32?_number _) (Json.asUInt32?_number _),
    hfield 3 rfl rfl (Json.asUInt64?_number _) (Json.asUInt64?_number _),
    hfield 4 rfl rfl (Json.asUInt64?_number _) (Json.asUInt64?_number _),
    hfield 5 rfl rfl (Json.asBool?_bool _) (Json.asBool?_bool _),
    hfield 6 rfl rfl (haliases _) (haliases _),
    hchanges]
  rfl

/-- All members are written, in the order of the fields. -/
lemma written_toJson (c : Settings) : c.Written c.toJson := by
  have hnodup : (c.toJson.members.map Prod.fst).Nodup :=
    (by decide : fieldNames.Nodup)
  refine ⟨_, c.profiles.map ProfileChange.toJson, rfl, ?_, .all hnodup _⟩
  rw [List.forall₂_map_right_iff, List.forall₂_same]
  exact fun p _ => p.written_toJson

/-- An object with a member of another name, or with two members of one name,
holds no settings. -/
lemma ofJson?_of_spoiled {ms : List (String × Json)}
    (h : ¬((ms.map Prod.fst).Nodup ∧ ∀ m ∈ ms, m.1 ∈ fieldNames)) :
    ofJson? (.object ms) = none := by
  have hfields : (Json.object ms).fields? fieldNames = none := if_neg h
  rw [ofJson?, hfields]
  rfl

/-- Nor does an object with a change that cannot be read. -/
lemma ofJson?_of_spoiledChange {ms : List (String × Json)} {xs : List Json}
    {x : Json} (hmem : ("profiles", .array xs) ∈ ms) (hx : x ∈ xs)
    (hnone : ProfileChange.ofJson? x = none) : ofJson? (.object ms) = none := by
  by_cases hfine : (ms.map Prod.fst).Nodup ∧ ∀ m ∈ ms, m.1 ∈ fieldNames
  · have hfields : (Json.object ms).fields? fieldNames = some ms := if_pos hfine
    have hprofiles : Json.field? ms "profiles"
        (Json.asList? ProfileChange.ofJson?) [] = none := by
      rw [Json.field?, (Json.lookup_eq_some_iff_mem hfine.1).2 hmem]
      exact Json.asList?_eq_none hx hnone
    simp only [ofJson?, hfields, Option.bind_eq_bind, Option.bind_some,
      hprofiles, Option.bind_none, Option.bind_fun_none]
  · exact ofJson?_of_spoiled hfine

end Settings

end BitProbe

import BitProbe.Proofs.Json.Openings
import BitProbe.Proofs.Settings.Members
import BitProbe.Proofs.Text.Utf8

/-!
Loading settings from files.

Settings that are written as an object, with or without the members that are as
by default, are loaded as they are, whatever blanks stand between the tokens,
and validated. A member of another name, or a second member of one name, is
refused as soon as its name has been read: what follows in the text makes no
difference.

* `Settings.ofText_of_written`: texts of settings;
* `Settings.ofText_of_opening`, `Settings.ofText_of_nestedOpening`: texts with a
  member that is refused;
* `Settings.ofFile_loads_back`: the same for files.
-/

namespace BitProbe.Settings

/-- A text that holds no settings is malformed. -/
lemma ofText_eq_malformed {cs : List Char}
    (h : ∀ j, Json.read? cs = some j → ofJson? j = none) :
    ofText cs = .error (.settings .malformed) := by
  have hnone : (Json.read? cs).bind ofJson? = none := by
    cases hj : Json.read? cs with
    | none => rfl
    | some j => exact h j hj
  rw [ofText, hnone]

/-- A text of tokens is read as the value that they are of. -/
lemma ofText_of_written {c : Settings} {j : Json} {cs : List Char}
    (h : c.Written j) (hcs : Json.Spelling cs j.tokens) :
    ofText cs = c.validate.map fun _ => c := by
  have hread : Json.read? cs = some j := by
    rw [Json.read?, hcs.tokenize, Option.bind_some, Json.ofTokens?_tokens]
  rw [ofText, hread, Option.bind_some, ofJson?_of_written h]
  dsimp only
  cases c.validate <;> rfl

section Refusals

variable {head : List Char} {ms : List (String × Json)} {name : String}

/-- Two members of one name, or a member of another name than those of the
fields, are not the members of a structure. -/
lemma spoiled_of_name {names : List String}
    (h : name ∉ names ∨ name ∈ ms.map Prod.fst) (v : Json)
    (later : List (String × Json)) :
    ¬(((ms ++ (name, v) :: later).map Prod.fst).Nodup ∧
      ∀ m ∈ ms ++ (name, v) :: later, m.1 ∈ names) := by
  rintro ⟨hnodup, hknown⟩
  rcases h with h | h
  · exact h (hknown (name, v) (by simp))
  · rw [List.map_append, List.map_cons, List.nodup_append] at hnodup
    exact hnodup.2.2 name h name List.mem_cons_self rfl

/-- A text that begins with members and a name that is refused after them. -/
lemma ofText_of_opening (rest : List Char)
    (hname : name ∉ fieldNames ∨ name ∈ ms.map Prod.fst)
    (hhead : Json.Spelling head (Json.objectOpening ms name)) :
    ofText (head ++ rest) = .error (.settings .malformed) := by
  refine ofText_eq_malformed fun j hj => ?_
  obtain ⟨v, later, rfl⟩ := Json.read?_objectOpening hhead hj
  exact ofJson?_of_spoiled (spoiled_of_name hname v later)

/-- The same inside a profile change. -/
lemma ofText_of_nestedOpening {xs : List Json} {ns : List (String × Json)}
    (rest : List Char)
    (hname : name ∉ ProfileChange.fieldNames ∨ name ∈ ns.map Prod.fst)
    (hhead : Json.Spelling head (Json.objectOpening ms "profiles" ++
      (Json.arrayOpening xs ++ Json.objectOpening ns name))) :
    ofText (head ++ rest) = .error (.settings .malformed) := by
  refine ofText_eq_malformed fun j hj => ?_
  obtain ⟨v, others, items, later, rfl⟩ := Json.read?_nestedOpening hhead hj
  have hmem : ("profiles", Json.array
      (xs ++ .object (ns ++ (name, v) :: others) :: items)) ∈
        ms ++ ("profiles", .array
          (xs ++ .object (ns ++ (name, v) :: others) :: items)) :: later := by
    simp
  exact ofJson?_of_spoiledChange hmem (by simp)
    (ProfileChange.ofJson?_of_spoiled (spoiled_of_name hname v others))

end Refusals

end BitProbe.Settings

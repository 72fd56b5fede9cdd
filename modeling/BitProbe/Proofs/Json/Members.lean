import BitProbe.Proofs.Reading
import BitProbe.Proofs.Sorted.Lookup
import BitProbe.Settings.Codec

/-!
The members of objects.

A member of an object is looked up by its name, and its value is read as a
number, a text or a list. An object with its keys in ascending order has the
members that it was given.

* `Json.member?`, `Json.at?`: looking a member up, and reading its value;
* `Json.at?_sortedObject`: the members of an object with ascending keys;
* `Json.asList?_map`: reading an array item by item.
-/

namespace BitProbe

namespace Json

/-- The value of the member with a name. -/
def member? (name : String) : Json → Option Json
  | object ms => ms.lookup name
  | _ => none

/-- What the member with a name is read as. -/
def at? {α : Type} (j : Json) (name : String) (value : Json → Option α) :
    Option α :=
  (j.member? name).bind value

/-- A value as a number. -/
def asNumber? : Json → Option Nat
  | number n => some n
  | _ => none

@[simp] lemma at?_object {α : Type} (ms : List (String × Json))
    (name : String) (value : Json → Option α) :
    (object ms).at? name value = (ms.lookup name).bind value :=
  rfl

/-- An object with ascending keys has the members that it was given. -/
@[simp] lemma at?_sortedObject {α : Type} (ms : List (String × Json))
    (name : String) (value : Json → Option α) :
    (sortedObject ms).at? name value = (ms.reverse.lookup name).bind value := by
  rw [sortedObject, at?_object, SortedMap.lookup_entries,
    SortedMap.find?_ofList]

@[simp] lemma asText?_text (s : String) : (text s).asText? = some s :=
  rfl

@[simp] lemma asBool?_bool (b : Bool) : (bool b).asBool? = some b :=
  rfl

@[simp] lemma asNumber?_number (n : Nat) : (number n).asNumber? = some n :=
  rfl

/-- An array is read item by item. -/
lemma asList?_map {α : Type} {item : Json → Option α} {write : α → Json}
    (h : ∀ x, item (write x) = some x) (xs : List α) :
    (array (xs.map write)).asList? item = some xs := by
  rw [asList?, mapM_eq_some_iff, List.map_map]
  exact List.map_congr_left fun x _ => h x

@[simp] lemma asList?_numbers (ns : List Nat) :
    (numbers ns).asList? asNumber? = some ns :=
  asList?_map asNumber?_number ns

@[simp] lemma asList?_bools (bs : List Bool) :
    (array (bs.map bool)).asList? asBool? = some bs :=
  asList?_map asBool?_bool bs

end Json

end BitProbe

import BitProbe.FileTree
import BitProbe.Json.Reading
import BitProbe.Settings
import BitProbe.Text.Utf8

/-!
Settings as JSON.

A structure is written as an object with a member for each field. A reader
takes the members in any order, and a field that is not there has its
default; a member of another name and a second member of one name are
refused. A structure may also be given as an array of its fields in order,
of which the last may be missing.

* `Json.fields?`: the members that stand for the fields of a structure;
* `Settings.ofJson?`, `Settings.toJson`: settings from and as a value;
* `Settings.ofBytes`, `Settings.ofFile`: settings from the bytes of a file
  and from a file, validated.
-/

namespace BitProbe

namespace Json

/-- A value as a text. -/
def asText? : Json → Option String
  | text s => some s
  | _ => none

/-- A value as a truth value. -/
def asBool? : Json → Option Bool
  | bool b => some b
  | _ => none

/-- A value as a number below a bound. -/
def asBelow? (bound : Nat) : Json → Option Nat
  | number n => if n < bound then some n else none
  | _ => none

/-- A value as a number of 64 bits. -/
def asUInt64? (j : Json) : Option UInt64 :=
  (j.asBelow? UInt64.size).map UInt64.ofNat

/-- A value as a number of 32 bits. -/
def asUInt32? (j : Json) : Option UInt32 :=
  (j.asBelow? UInt32.size).map UInt32.ofNat

/-- A value as a list, each item read alike. -/
def asList? {α : Type} (item : Json → Option α) : Json → Option (List α)
  | array xs => xs.mapM item
  | _ => none

/-- A value as a pair of texts. -/
def asPair? : Json → Option (String × String)
  | array [text a, text b] => some (a, b)
  | _ => none

/-- A value that may be null. -/
def asOption? {α : Type} (value : Json → Option α) : Json → Option (Option α)
  | null => some none
  | j => (value j).map some

/-- The members that stand for the fields of a structure with the given
names, if there are no others and no two of one name. -/
def fields? (names : List String) : Json → Option (List (String × Json))
  | object ms =>
    if (ms.map (·.1)).Nodup ∧ ∀ m ∈ ms, m.1 ∈ names then some ms else none
  | array xs =>
    if xs.length ≤ names.length then some (names.zip xs) else none
  | _ => none

/-- The value of a field: its default, or what its member says. -/
def field? {α : Type} (ms : List (String × Json)) (name : String)
    (value : Json → Option α) (default : α) : Option α :=
  match ms.lookup name with
  | none => some default
  | some j => value j

end Json

/-- The names of the fields of a profile change, in order. -/
def ProfileChange.fieldNames : List String :=
  ["architecture", "tool", "tool_args", "template", "patch_offset",
   "line_index"]

/-- A profile change from a value. -/
def ProfileChange.ofJson? (j : Json) : Option ProfileChange := do
  let ms ← j.fields? fieldNames
  let d : ProfileChange := {}
  return {
    architecture := ← Json.field? ms "architecture" Json.asText?
      d.architecture
    tool := ← Json.field? ms "tool" (Json.asOption? Json.asText?) d.tool
    toolArgs := ← Json.field? ms "tool_args"
      (Json.asOption? (Json.asList? Json.asText?)) d.toolArgs
    template := ← Json.field? ms "template" (Json.asOption? Json.asText?)
      d.template
    patchOffset := ← Json.field? ms "patch_offset"
      (Json.asOption? Json.asUInt64?) d.patchOffset
    lineIndex := ← Json.field? ms "line_index"
      (Json.asOption? Json.asUInt64?) d.lineIndex }

/-- A value that may be missing, as JSON. -/
def Json.ofOption {α : Type} (value : α → Json) : Option α → Json
  | none => .null
  | some a => value a

/-- A profile change as a value. -/
def ProfileChange.toJson (c : ProfileChange) : Json :=
  .object
    [("architecture", .text c.architecture),
     ("tool", .ofOption .text c.tool),
     ("tool_args",
       .ofOption (fun args => .array (args.map .text)) c.toolArgs),
     ("template", .ofOption .text c.template),
     ("patch_offset", .ofOption (fun n => .number n.toNat) c.patchOffset),
     ("line_index", .ofOption (fun n => .number n.toNat) c.lineIndex)]

namespace Settings

/-- The names of the fields of settings, in order. -/
def fieldNames : List String :=
  ["max_lines", "timeout_ms", "retries", "min_tokens", "max_modifier_bits",
   "parallel", "aliases", "profiles"]

/-- Settings from a value. -/
def ofJson? (j : Json) : Option Settings := do
  let ms ← j.fields? fieldNames
  let d : Settings := {}
  return {
    maxLines := ← Json.field? ms "max_lines" Json.asUInt64? d.maxLines
    timeoutMs := ← Json.field? ms "timeout_ms" Json.asUInt64? d.timeoutMs
    retries := ← Json.field? ms "retries" Json.asUInt32? d.retries
    minTokens := ← Json.field? ms "min_tokens" Json.asUInt64? d.minTokens
    maxModifierBits := ← Json.field? ms "max_modifier_bits" Json.asUInt64?
      d.maxModifierBits
    parallel := ← Json.field? ms "parallel" Json.asBool? d.parallel
    aliases := ← Json.field? ms "aliases" (Json.asList? Json.asPair?)
      d.aliases
    profiles := ← Json.field? ms "profiles"
      (Json.asList? ProfileChange.ofJson?) d.profiles }

/-- Settings as a value. -/
def toJson (c : Settings) : Json :=
  .object
    [("max_lines", .number c.maxLines.toNat),
     ("timeout_ms", .number c.timeoutMs.toNat),
     ("retries", .number c.retries.toNat),
     ("min_tokens", .number c.minTokens.toNat),
     ("max_modifier_bits", .number c.maxModifierBits.toNat),
     ("parallel", .bool c.parallel),
     ("aliases",
       .array (c.aliases.map fun p => .array [.text p.1, .text p.2])),
     ("profiles", .array (c.profiles.map ProfileChange.toJson))]

/-- Settings from a text, validated. -/
def ofText (cs : List Char) : Except Failure Settings :=
  match (Json.read? cs).bind ofJson? with
  | none => .error (.settings .malformed)
  | some c =>
    match c.validate with
    | .error e => .error e
    | .ok () => .ok c

/-- Settings from the bytes of a file, validated. -/
def ofBytes (bytes : List UInt8) : Except Failure Settings :=
  match Text.Utf8.decode bytes with
  | none => .error (.file .notText)
  | some cs => ofText cs

/-- Settings from the file that a path leads to, validated. -/
def ofFile (t : FileTree) (path : String) : Except Failure Settings :=
  match t.read path with
  | .error e => .error (.file e)
  | .ok bytes => ofBytes bytes

end Settings

end BitProbe

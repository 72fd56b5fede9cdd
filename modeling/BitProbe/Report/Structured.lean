import BitProbe.Json
import BitProbe.Report

/-!
Reports as one JSON value.

* `Report.toJson`: the value, which holds all of the report;
* `Report.json`: its text, indented.
-/

namespace BitProbe

/-- A change of mnemonic as an object. -/
def OpcodeChange.toJson (c : OpcodeChange) : Json :=
  .object [("old", .text c.old), ("new", .text c.new), ("bit", .number c.bit)]

/-- A sweep as an object. -/
def SweepRecord.toJson (s : SweepRecord) : Json :=
  .object
    [("line", .number s.line), ("text", .text s.text),
     ("opcode", .text s.opcode), ("encoding", .number s.encoding.toNat),
     ("classes", .array (s.classes.map fun c => .text c.name)),
     ("bitmap", .text s.bitmap), ("aborted", .bool s.aborted)]

/-- The modifier bits of a line as an object. -/
def ModifierBits.toJson (m : ModifierBits) : Json :=
  .object
    [("opcode", .text m.opcode), ("encoding", .number m.encoding.toNat),
     ("positions", Json.numbers m.positions)]

/-- What sweeps have shown as an object; a line number is a key. -/
def FieldMap.toJson (m : FieldMap) : Json :=
  .object
    [("opcode_bit_positions", Json.numbers m.opcodeBits.toList),
     ("opcode_changes", .array (m.opcodeChanges.map OpcodeChange.toJson)),
     ("modifier_bit_positions",
       .object (m.modifierBits.entries.map fun e =>
         (toString e.1, e.2.toJson)))]

/-- A decode table as an object; an assignment is a key. -/
def DecodeTable.toJson (t : DecodeTable) : Json :=
  .object
    [("line", .number t.line), ("opcode", .text t.opcode),
     ("encoding", .number t.encoding.toNat),
     ("positions", Json.numbers t.positions), ("queries", .number t.queries),
     ("entries",
       .object (t.entries.entries.map fun e => (toString e.1, .text e.2))),
     ("skipped", .bool t.skipped), ("aborted", .bool t.aborted)]

/-- A line that was left out as an object. -/
def Listing.Skipped.toJson (s : Listing.Skipped) : Json :=
  .object
    [("line", .number s.line), ("text", .text s.text),
     ("error", .text s.error.message)]

namespace Report

/-- A report as an object. -/
def toJson (r : Report) : Json :=
  .object
    [("architecture", .text r.architecture.display),
     ("mode", .text r.goal.name),
     ("sweeps", .array (r.sweeps.map SweepRecord.toJson)),
     ("discovery", r.fields.toJson),
     ("tables", .array (r.tables.map DecodeTable.toJson)),
     ("skipped", .array (r.skipped.map Listing.Skipped.toJson))]

/-- A report as the text of one JSON value. -/
def json (r : Report) : String :=
  r.toJson.indented

end Report

end BitProbe

import BitProbe.Json
import BitProbe.Report

/-!
Reports as a sequence of JSON records.

Each finding is a record of its own, which names its kind under `type`; the
last record sums up. A record is one line, with its keys in ascending order.

* `Report.jsonRecords`: the records;
* `Report.jsonLines`: their lines.
-/

namespace BitProbe

/-- A record of a kind: an object with its keys in ascending order. -/
def jsonRecord (kind : String) (members : List (String × Json)) : Json :=
  .sortedObject (("type", .text kind) :: members)

/-- The record of a sweep. -/
def SweepRecord.jsonRecord (s : SweepRecord) : Json :=
  BitProbe.jsonRecord "sweep"
    [("line", .number s.line), ("opcode", .text s.opcode),
     ("encoding", .text s.encoding.display), ("bitmap", .text s.bitmap),
     ("aborted", .bool s.aborted)]

/-- The record of a change of mnemonic. -/
def OpcodeChange.jsonRecord (c : OpcodeChange) : Json :=
  BitProbe.jsonRecord "opcode_change"
    [("old", .text c.old), ("new", .text c.new), ("bit", .number c.bit)]

/-- The record of the modifier bits of a line. -/
def ModifierBits.jsonRecord (line : Nat) (m : ModifierBits) : Json :=
  BitProbe.jsonRecord "modifier_bits"
    [("line", .number line), ("opcode", .text m.opcode),
     ("positions", Json.numbers m.positions)]

/-- The record of an entry of a decode table. -/
def DecodeTable.jsonRecord (t : DecodeTable) (e : Nat × String) : Json :=
  BitProbe.jsonRecord "decode"
    [("line", .number t.line), ("opcode", .text t.opcode),
     ("positions", Json.numbers t.positions),
     ("assignment", .array ((t.assignmentBits e.1).map .bool)),
     ("rendering", .text e.2)]

/-- The record of a line that was left out. -/
def Listing.Skipped.jsonRecord (s : Listing.Skipped) : Json :=
  BitProbe.jsonRecord "skipped"
    [("line", .number s.line), ("error", .text s.error.message),
     ("text", .text s.text)]

namespace Report

/-- The record that sums up. -/
def summaryRecord (r : Report) : Json :=
  BitProbe.jsonRecord "summary"
    [("architecture", .text r.architecture.display),
     ("mode", .text r.goal.name),
     ("opcode_bit_positions", Json.numbers r.fields.opcodeBits.toList)]

/-- The records of a report. -/
def jsonRecords (r : Report) : List Json :=
  r.sweeps.map SweepRecord.jsonRecord ++
    r.fields.opcodeChanges.map OpcodeChange.jsonRecord ++
    (r.fields.modifierBits.entries.map fun e => e.2.jsonRecord e.1) ++
    (r.tables.flatMap fun t => t.entries.entries.map t.jsonRecord) ++
    r.skipped.map Listing.Skipped.jsonRecord ++
    [r.summaryRecord]

/-- The records of a report, one on each line. -/
def jsonLines (r : Report) : String :=
  String.ofList (r.jsonRecords.flatMap fun j => j.compactChars ++ ['\n'])

end Report

end BitProbe

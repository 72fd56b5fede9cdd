import BitProbe.Csv
import BitProbe.Failure
import BitProbe.Report

/-!
Reports as a table of comma-separated values.

Every finding is a record with the same eight fields, of which it fills some
and leaves the others empty.

* `Report.tableHeader`, `Report.tableRecords`: the records;
* `Report.csv`: the file.
-/

namespace BitProbe

/-- The record of a change of mnemonic. -/
def OpcodeChange.tableRecord (c : OpcodeChange) : List String :=
  ["opcode_change", "", c.old, toString c.bit, c.old, c.new, "", ""]

/-- The records of the modifier bits of a line. -/
def ModifierBits.tableRecords (line : Nat) (m : ModifierBits) :
    List (List String) :=
  m.positions.map fun bit =>
    ["modifier_bit", toString line, m.opcode, toString bit, "", "", "", ""]

/-- The records of a decode table. -/
def DecodeTable.tableRecords (t : DecodeTable) : List (List String) :=
  t.entries.entries.map fun e =>
    ["decode", toString t.line, t.opcode, "", "", "", t.label e.1, e.2]

/-- The record of a line that was left out. -/
def Listing.Skipped.tableRecord (s : Listing.Skipped) : List String :=
  ["skipped", toString s.line, "", "", "", "", "", s.text]

namespace Report

/-- The names of the fields. -/
def tableHeader : List String :=
  ["record", "line", "opcode", "bit", "old", "new", "assignment",
   "rendering"]

/-- The records of a report. -/
def tableRecords (r : Report) : List (List String) :=
  r.fields.opcodeChanges.map OpcodeChange.tableRecord ++
    (r.fields.opcodeBits.toList.map fun bit =>
      ["opcode_bit", "", "", toString bit, "", "", "", ""]) ++
    (r.fields.modifierBits.entries.flatMap fun e =>
      e.2.tableRecords e.1) ++
    r.tables.flatMap DecodeTable.tableRecords ++
    r.skipped.map Listing.Skipped.tableRecord

/-- A report as a file of comma-separated values. -/
def csv (r : Report) : Except Failure String :=
  (Csv.write (tableHeader :: r.tableRecords)).mapError fun e =>
    .other ("CSV serialization error: " ++ e.message)

end Report

end BitProbe

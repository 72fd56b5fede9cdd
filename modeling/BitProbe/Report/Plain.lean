import BitProbe.Report

/-!
Reports as plain text.

A report is a list of lines: a head, two lines for each sweep, what was
looked for, and the lines of the listing that were left out.

* `Report.headLines`, `Report.sweepLines`, `Report.findingLines`,
  `Report.skippedLines`: the parts;
* `Report.plainLines`, `Report.plain`: the whole.
-/

namespace BitProbe

/-- Bit numbers with commas between them. -/
def bitList (bits : List Nat) : String :=
  String.intercalate ", " (bits.map toString)

/-- The number of a table's assignments. -/
def DecodeTable.spaceText (t : DecodeTable) : String :=
  match t.space with
  | some n => toString n
  | none => "2^" ++ toString t.positions.length

/-- The line that opens a table or stands for one. -/
def modifierLine (line : Nat) (opcode : String) (positions : List Nat) :
    String :=
  "line " ++ toString line ++ ": " ++ opcode ++ " modifier bits: [" ++
    bitList positions ++ "]"

/-- The lines of a table. -/
def DecodeTable.plainLines (t : DecodeTable) : List String :=
  modifierLine t.line t.opcode t.positions ::
    if t.skipped then
      ["  enumeration skipped (" ++ t.spaceText ++ " assignments)"]
    else
      ("  bits [" ++
          String.intercalate " " (t.positions.reverse.map toString) ++ "]") ::
        (t.entries.entries.map fun e => "  " ++ t.label e.1 ++ "  " ++ e.2) ++
        ["  " ++ toString t.entries.size ++ " of " ++ t.spaceText ++
          " assignments decoded" ++
          if t.aborted then " (oracle failed, partial)" else ""]

/-- The lines of a sweep. -/
def SweepRecord.plainLines (s : SweepRecord) : List String :=
  ["line " ++ toString s.line ++ ": " ++ s.text,
   "  63 " ++ s.bitmap ++ " 0" ++ if s.aborted then "  (aborted)" else ""]

namespace Report

/-- The head of a report. -/
def headLines (r : Report) : List String :=
  ["Architecture: " ++ r.architecture.display ++ " (" ++ r.goal.display ++
     ")",
   "Instructions: " ++ toString r.sweeps.length ++ " probed, " ++
     toString r.skipped.length ++ " skipped",
   ""]

/-- The sweeps of a report. -/
def sweepLines (r : Report) : List String :=
  r.sweeps.flatMap SweepRecord.plainLines ++ [""]

/-- The changes of mnemonic, and the bits behind them. -/
def opcodeLines (r : Report) : List String :=
  "Opcode changes:" ::
    (r.fields.opcodeChanges.map fun c =>
      "  " ++ c.old ++ " => " ++ c.new ++ " when bit [" ++ toString c.bit ++
        "] is flipped") ++
    ["Opcode bit positions: [" ++ bitList r.fields.opcodeBits.toList ++ "]"]

/-- The lines with modifier bits that have no table. -/
def untabledLines (r : Report) : List String :=
  r.fields.modifierBits.entries.filterMap fun e =>
    if r.tables.any (·.line = e.1) then none
    else some (modifierLine e.1 e.2.opcode e.2.positions ++
      " (not enumerated)")

/-- What was looked for. -/
def findingLines (r : Report) : List String :=
  match r.goal with
  | .opcodes => r.opcodeLines
  | .modifiers =>
    r.tables.flatMap DecodeTable.plainLines ++ r.untabledLines

/-- The lines of the listing that were left out. -/
def skippedLines (r : Report) : List String :=
  if r.skipped.isEmpty then []
  else
    "" :: "Skipped lines:" :: r.skipped.map fun s =>
      "  line " ++ toString s.line ++ ": " ++ s.error.message ++ ": " ++
        s.text

/-- The lines of a report. -/
def plainLines (r : Report) : List String :=
  r.headLines ++ r.sweepLines ++ r.findingLines ++ r.skippedLines

/-- A report as plain text. -/
def plain (r : Report) : String :=
  String.join (r.plainLines.map (· ++ "\n"))

end Report

end BitProbe

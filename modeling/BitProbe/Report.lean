import BitProbe.Architecture
import BitProbe.DecodeTable
import BitProbe.FieldMap
import BitProbe.Listing

/-!
Reports.

A report holds everything that a survey of a listing has found.

* `Goal`: what a survey looks for;
* `SweepRecord`: what is kept of the sweep of one line;
* `Report`: what was found.
-/

namespace BitProbe

/-- What a survey looks for. -/
inductive Goal where
  /-- The bits that select the opcode. -/
  | opcodes
  /-- The bits that select modifiers, and what they select. -/
  | modifiers
  deriving DecidableEq, Repr

namespace Goal

/-- The word by which a goal is chosen. -/
def name : Goal → String
  | opcodes => "opcode"
  | modifiers => "modifier"

/-- A goal as it is described. -/
def display (g : Goal) : String :=
  g.name ++ " discovery"

/-- Every goal. -/
def all : List Goal :=
  [opcodes, modifiers]

/-- The goal that a word chooses. -/
def named? (s : String) : Option Goal :=
  all.find? (·.name = s)

/-- Every goal is chosen by its name. -/
theorem named?_name (g : Goal) : named? g.name = some g := by
  cases g <;> decide

end Goal

/-- What is kept of the sweep of one line. -/
structure SweepRecord where
  line : Nat
  text : String
  opcode : String
  encoding : Word
  /-- The class of each bit, from the lowest. -/
  classes : List BitClass
  /-- The letters of all bits, the highest first. -/
  bitmap : String
  aborted : Bool
  deriving DecidableEq

/-- The record of the sweep of an entry. -/
def SweepRecord.ofSweep (e : Listing.Entry) (s : Sweep) : SweepRecord where
  line := e.line
  text := e.text
  opcode := s.baseline.opcode
  encoding := s.baseline.encoding
  classes := s.classes
  bitmap := s.bitmap
  aborted := s.aborted

/-- Everything that a survey has found. -/
structure Report where
  architecture : Architecture
  goal : Goal
  sweeps : List SweepRecord
  fields : FieldMap
  /-- The decode tables, in the order of the listing. -/
  tables : List DecodeTable
  skipped : List Listing.Skipped
  deriving DecidableEq

end BitProbe

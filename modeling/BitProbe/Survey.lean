import BitProbe.Report
import BitProbe.Settings

/-!
Surveys.

A survey goes through the instructions of a listing. It sweeps the bits of
each, and if modifiers are looked for, it also enumerates the modifier bits
that the sweep has shown. An instruction is examined whatever happened to
the one before it.

* `Survey.Plan`: what a survey goes by;
* `Survey.Examination`, `Survey.examine`: one instruction;
* `Survey.examineAll`: one after another;
* `Survey.report`: what examinations add up to;
* `Survey.run`: the report that an oracle leads to.
-/

namespace BitProbe.Survey

/-- What a survey goes by. -/
structure Plan where
  architecture : Architecture
  criteria : Criteria
  /-- The largest number of modifier bits that are enumerated. -/
  maxBits : Nat

/-- What the examination of an entry has shown. -/
structure Examination where
  entry : Listing.Entry
  sweep : Sweep
  table : Option DecodeTable

/-- The plan for a family that settings describe. -/
def Plan.ofSettings (c : Settings) (a : Architecture) : Plan where
  architecture := a
  criteria :=
    { lineIndex := (c.profileFor a).lineIndex.toNat
      minTokens := c.minTokens.toNat
      aliases := c.aliasTable }
  maxBits := c.maxModifierBits.toNat

variable {σ : Type}

/-- The decode table of a sweep's modifier bits, if they are looked for, if
there are some, and if the oracle has not failed during the sweep. -/
def enumerate (p : Plan) (g : Goal) (o : Oracle σ) (line : Nat)
    (sweep : Sweep) (s : σ) : Option DecodeTable × σ :=
  if g = .modifiers ∧ sweep.modifierBits.isEmpty = false ∧
      sweep.aborted = false then
    let (t, s) := DecodeTable.run p.criteria p.maxBits o line
      sweep.baseline.opcode sweep.baseline.encoding
      sweep.modifierBits.toList s
    (some t, s)
  else (none, s)

/-- Examines an entry. -/
def examine (p : Plan) (g : Goal) (o : Oracle σ) (e : Listing.Entry)
    (s : σ) : Examination × σ :=
  let (sweep, s) := Sweep.run p.criteria o e.instruction s
  let (table, s) := enumerate p g o e.line sweep s
  (⟨e, sweep, table⟩, s)

/-- Examines entries one after another. -/
def examineAll (p : Plan) (g : Goal) (o : Oracle σ) :
    List Listing.Entry → σ → List Examination × σ
  | [], s => ([], s)
  | e :: es, s =>
    let (x, s) := examine p g o e s
    let (xs, s) := examineAll p g o es s
    (x :: xs, s)

/-- What examinations add up to. -/
def report (a : Architecture) (g : Goal) (xs : List Examination)
    (skipped : List Listing.Skipped) : Report where
  architecture := a
  goal := g
  sweeps := xs.map fun x => .ofSweep x.entry x.sweep
  fields := xs.foldl (fun m x => m.record x.entry.line x.sweep) ∅
  tables := xs.filterMap (·.table)
  skipped

/-- The report on a listing that an oracle leads to. -/
def run (p : Plan) (g : Goal) (o : Oracle σ) (l : Listing) (s : σ) :
    Report × σ :=
  let (xs, s) := examineAll p g o l.entries s
  (report p.architecture g xs l.skipped, s)

end BitProbe.Survey

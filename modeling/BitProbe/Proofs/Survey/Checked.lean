import BitProbe.Proofs.Instruction.Places
import BitProbe.Proofs.Survey.Orders
import BitProbe.Proofs.Word.Shifts
import BitProbe.Report.Format

/-!
Surveys by checked steps.

These are a survey and the formats of its report, with every shift checked for
its amount and every place for being there. The mutants and the variants of a
word come from checked shifts, and so do the number of the variants and the bits
of an assignment in a report; the tokens of an output are taken and read by
their places. A survey that comes to something has thus kept to all bounds.

What keeps an amount within bounds stands far from where it is used. A sweep
goes over the bits of a word, so the modifier bits are among these; a table of
more than `DecodeTable.positionsCeiling` bits is skipped before any shift.

* `Checked.sweep`, `Checked.table`, `Checked.survey`, `Checked.render`:
  sweeping, enumerating, surveying and formatting by checked steps;
* `Checked.sweep_eq`, `Checked.table_eq`, `Checked.survey_eq`: they are never
  stuck, and come to the same as without checks.
-/

namespace BitProbe

variable {σ : Type}

open Enumeration (Order)

namespace Checked

/-! ### Reading an output -/

/-- A list without the item at a place; stuck if there is none. -/
def removeAt {α : Type} (xs : List α) (place : Nat) : Checked (List α) :=
  if place < xs.length then some (xs.eraseIdx place) else none

/-- Tokens without an address at their head. -/
def afterAddress (tokens : List String) : Checked (List String) :=
  if tokens.head?.any isAddressToken then removeAt tokens 0 else pure tokens

/-- The tokens of a line of an output, without an address at their head; none
if there is no such line, or nothing else on it. -/
def selectedTokens (index : Nat) (output : String) :
    Checked (Option (List String)) :=
  match (Text.linesOf output)[index]? with
  | none => pure none
  | some line => do
    let tokens ← afterAddress (Text.wordsOf line)
    pure (if tokens.isEmpty then none else some tokens)

/-- The tokens of the line that counts, if there are enough. -/
def tokens (c : Criteria) (output : String) :
    Checked (Option (List String)) := do
  match ← selectedTokens c.lineIndex output with
  | none => pure none
  | some tokens =>
    pure (if c.minTokens ≤ tokens.length then some tokens else none)

/-- The verdict on a mutant that was decoded. -/
def verdictOfOutput (c : Criteria) (baseline : Instruction)
    (output : String) : Checked Verdict := do
  match ← tokens c output with
  | none => pure .unclassified
  | some tokens =>
    match ← (Placed.instruction tokens).run with
    | .error _ => pure .unclassified
    | .ok mutant => pure (
      if !c.aliases.equivalent mutant.opcode baseline.opcode then
        .opcode mutant.opcode
      else if mutant.modifiers ≠ baseline.modifiers then .modifier
      else .unclassified)

/-- The verdict on a mutant, from the oracle's answer if it was asked. -/
def verdict (c : Criteria) (baseline : Instruction) :
    Option Answer → Checked Verdict
  | some (.ok output) => verdictOfOutput c baseline output
  | some (.error _) => pure .invalid
  | none => pure .invalid

/-- The text that an answer enters into a table. -/
def rendering (c : Criteria) : Option Answer → Checked (Option String)
  | some (.ok output) => do
    let tokens ← tokens c output
    pure (tokens.map (String.intercalate " "))
  | _ => pure none

/-- The texts that answers enter, under the numbers from `first` on. -/
def entriesFrom (c : Criteria) (first : Nat)
    (answers : List (Option Answer)) : Checked (SortedMap Nat String) :=
  (answers.zipIdx first).foldrM (fun a m => do
    match ← rendering c a.1 with
    | some text => pure (m.insert a.2 text)
    | none => pure m) ∅

/-! ### Surveying -/

/-- The mutants of a word, one for each of its bits. -/
def mutants (w : Word) : Checked (List Word) :=
  (List.range Word.width).mapM (flip w)

/-- How many assignments there are. -/
def space (positions : List Nat) : Checked Nat :=
  (shiftLeft 1#64 positions.length).map (·.toNat)

/-- The words that agree with `w` outside the positions, by ascending
assignment. -/
def variants (w : Word) (positions : List Nat) : Checked (List Word) := do
  let n ← space positions
  (List.range n).mapM fun v => assign w positions (BitVec.ofNat 64 v)

/-- The sweep that an oracle makes in an order. -/
def sweep (c : Criteria) (o : Oracle σ) (order : Order)
    (baseline : Instruction) (s : σ) : Checked (Sweep × σ) := do
  let words ← mutants baseline.encoding
  let asked := o.askIn order words s
  let verdicts ← asked.results.mapM (verdict c baseline)
  pure (.ofVerdicts baseline verdicts asked.failed, asked.after)

/-- The table that an oracle makes of an instruction in an order. -/
def table (c : Criteria) (maxBits : Nat) (o : Oracle σ) (order : Order)
    (line : Nat) (opcode : String) (encoding : Word) (positions : List Nat)
    (s : σ) : Checked (DecodeTable × σ) :=
  let t := DecodeTable.start line opcode encoding positions
  if min maxBits DecodeTable.positionsCeiling < t.positions.length then
    pure ({ t with skipped := true }, s)
  else do
    let words ← variants encoding t.positions
    let asked := o.askIn order words s
    let entries ← entriesFrom c 0 asked.results
    pure ({ t with
        queries := asked.results.countP Option.isSome
        entries
        aborted := asked.failed },
      asked.after)

/-- The decode table of a sweep's modifier bits, if they are looked for, if
there are some, and if the oracle has not failed during the sweep. -/
def enumerate (p : Survey.Plan) (g : Goal) (o : Oracle σ) (order : Order)
    (line : Nat) (sweep : Sweep) (s : σ) :
    Checked (Option DecodeTable × σ) :=
  if g = .modifiers ∧ sweep.modifierBits.isEmpty = false ∧
      sweep.aborted = false then do
    let (t, s) ← table p.criteria p.maxBits o order line
      sweep.baseline.opcode sweep.baseline.encoding
      sweep.modifierBits.toList s
    pure (some t, s)
  else pure (none, s)

/-- Examines an entry. -/
def examine (p : Survey.Plan) (g : Goal) (o : Oracle σ)
    (orders : Survey.Examination.Orders) (e : Listing.Entry) (s : σ) :
    Checked (Survey.Examination × σ) := do
  let (sweep, s) ← sweep p.criteria o orders.sweep e.instruction s
  let (table, s) ← enumerate p g o orders.table e.line sweep s
  pure (⟨e, sweep, table⟩, s)

/-- Examines entries one after another, each in the orders for its line. -/
def examineAll (p : Survey.Plan) (g : Goal) (o : Oracle σ)
    (orders : Nat → Survey.Examination.Orders) :
    List Listing.Entry → σ → Checked (List Survey.Examination × σ)
  | [], s => pure ([], s)
  | e :: es, s => do
    let (x, s) ← examine p g o (orders e.line) e s
    let (xs, s) ← examineAll p g o orders es s
    pure (x :: xs, s)

/-- The report on a listing that an oracle leads to. -/
def survey (p : Survey.Plan) (g : Goal) (o : Oracle σ)
    (orders : Nat → Survey.Examination.Orders) (l : Listing) (s : σ) :
    Checked (Report × σ) := do
  let (xs, s) ← examineAll p g o orders l.entries s
  pure (Survey.report p.architecture g xs l.skipped, s)

/-! ### Formatting -/

/-- The record of an entry of a decode table. -/
def jsonRecord (t : DecodeTable) (e : Nat × String) : Checked Json := do
  let marks ← bits t.positions.length (BitVec.ofNat 64 e.1)
  pure (BitProbe.jsonRecord "decode"
    [("line", .number t.line), ("opcode", .text t.opcode),
     ("positions", Json.numbers t.positions),
     ("assignment", .array (marks.map .bool)),
     ("rendering", .text e.2)])

/-- The records of a report. -/
def jsonRecords (r : Report) : Checked (List Json) := do
  let decoded ← r.tables.mapM fun t => t.entries.entries.mapM (jsonRecord t)
  pure (r.sweeps.map SweepRecord.jsonRecord ++
    r.fields.opcodeChanges.map OpcodeChange.jsonRecord ++
    (r.fields.modifierBits.entries.map fun e => e.2.jsonRecord e.1) ++
    decoded.flatten ++
    r.skipped.map Listing.Skipped.jsonRecord ++
    [r.summaryRecord])

/-- The text of a report in a format. Only the sequence of records takes an
assignment apart into bits; elsewhere it stands as one number. -/
def render (r : Report) : ReportFormat → Checked (Except Failure String)
  | .jsonLines => do
    let records ← jsonRecords r
    pure (.ok (String.ofList
      (records.flatMap fun j => j.compactChars ++ ['\n'])))
  | f => pure (r.render f)

/-! ### Places that are there -/

/-- An address is taken away only from where it stands. -/
lemma afterAddress_eq (tokens : List String) :
    afterAddress tokens = some (BitProbe.afterAddress tokens) := by
  cases tokens with
  | nil => rfl
  | cons t ts =>
      rw [afterAddress, BitProbe.afterAddress, List.head?_cons, Option.any_some]
      split <;> rfl

lemma selectedTokens_eq (index : Nat) (output : String) :
    selectedTokens index output =
      some (BitProbe.selectedTokens index output) := by
  rw [selectedTokens, BitProbe.selectedTokens]
  cases (Text.linesOf output)[index]? with
  | none => rfl
  | some line =>
      dsimp only
      rw [afterAddress_eq]
      rfl

lemma tokens_eq (c : Criteria) (output : String) :
    tokens c output = some (c.tokens output) := by
  rw [tokens, selectedTokens_eq, Criteria.tokens]
  cases BitProbe.selectedTokens c.lineIndex output <;> rfl

lemma verdict_eq (c : Criteria) (baseline : Instruction)
    (a : Option Answer) :
    verdict c baseline a = some (Verdict.ofAnswer c baseline a) := by
  rcases a with _ | _ | output
  case none | some.error => rfl
  rw [verdict, Verdict.ofAnswer, verdictOfOutput, Verdict.ofOutput, tokens_eq]
  cases c.tokens output with
  | none => rfl
  | some tokens =>
      dsimp only [Option.bind_eq_bind, Option.bind_some]
      rw [Placed.instruction_eq]
      cases Instruction.ofTokens tokens <;> rfl

lemma rendering_eq (c : Criteria) (a : Option Answer) :
    rendering c a = some (DecodeTable.rendering c a) := by
  rcases a with _ | _ | output
  case none | some.error => rfl
  rw [rendering, tokens_eq]
  rfl

lemma entriesFrom_eq (c : Criteria) (first : Nat)
    (answers : List (Option Answer)) :
    entriesFrom c first answers =
      some (DecodeTable.entriesFrom c first answers) := by
  rw [entriesFrom, DecodeTable.entriesFrom]
  induction answers.zipIdx first with
  | nil => rfl
  | cons a as ih =>
      rw [List.foldrM_cons, ih, List.foldr_cons, Option.bind_eq_bind,
        Option.bind_some, rendering_eq]
      cases DecodeTable.rendering c a.1 <;> rfl

/-! ### Amounts below the width of a word -/

/-- The bits that are flipped are those of a word. -/
lemma mutants_eq (w : Word) : mutants w = some (Sweep.mutants w) :=
  mapM_eq_some_map fun _ hi => flip_eq w (List.mem_range.1 hi)

/-- Fewer positions than a word has bits have a number of assignments that a
word can hold. -/
lemma space_of_lt {positions : List Nat} (h : positions.length < 64) :
    space positions = some (2 ^ positions.length) := by
  rw [space, shiftLeft_one h, Option.map_some, BitVec.toNat_twoPow_of_lt h]

/-- A table says how many assignments there are just if a checked shift does. -/
lemma space_eq (t : DecodeTable) : space t.positions = t.space := by
  rw [DecodeTable.space]
  by_cases h : t.positions.length < 64
  · rw [space_of_lt h, if_pos h]
  · rw [space, shiftLeft_of_le _ (Nat.not_lt.1 h), if_neg h]
    rfl

/-- The bits that are cleared and assigned are those of a word. -/
lemma variants_eq (w : Word) {positions : List Nat}
    (hlt : ∀ p ∈ positions, p < 64) (hlen : positions.length < 64) :
    variants w positions = some (DecodeTable.variants w positions) := by
  rw [variants, space_of_lt hlen, Option.bind_eq_bind, Option.bind_some]
  exact mapM_eq_some_map fun v _ => assign_eq w _ hlt (Nat.le_of_lt hlen)

/-- Sweeping is never stuck. -/
theorem sweep_eq (c : Criteria) (o : Oracle σ) (order : Order)
    (baseline : Instruction) (s : σ) :
    sweep c o order baseline s =
      some (Sweep.runIn c o order baseline s) := by
  rw [sweep, mutants_eq, Option.bind_eq_bind, Option.bind_some]
  dsimp only
  rw [mapM_eq_some_map fun a _ => verdict_eq c baseline a]
  rfl

/-- Nor is enumerating positions of a word: with too many of them, nothing is
shifted. -/
theorem table_eq (c : Criteria) (maxBits : Nat) (o : Oracle σ)
    (order : Order) (line : Nat) (opcode : String) (encoding : Word)
    {positions : List Nat} (hlt : ∀ p ∈ positions, p < 64) (s : σ) :
    table c maxBits o order line opcode encoding positions s =
      some (DecodeTable.runIn c maxBits o order line opcode encoding
        positions s) := by
  rw [table, DecodeTable.runIn]
  dsimp only
  split
  case isTrue => rfl
  case isFalse hfew =>
    have hpositions : ∀ p ∈ (DecodeTable.start line opcode encoding
        positions).positions, p < 64 :=
      fun p hp => hlt p (SortedSet.mem_ofList.1 hp)
    have hlen : (DecodeTable.start line opcode encoding
        positions).positions.length < 64 := by
      have hceiling : DecodeTable.positionsCeiling < 64 := by decide
      omega
    rw [variants_eq encoding hpositions hlen, Option.bind_eq_bind,
      Option.bind_some, entriesFrom_eq]
    rfl

/-! ### Surveys that are not stuck -/

section Survey

variable (p : Survey.Plan) (g : Goal) (o : Oracle σ)

/-- The modifier bits of a sweep are bits of a word, so they can be
enumerated. -/
lemma enumerate_eq (order : Order) (line : Nat) {sweep : Sweep} (s : σ)
    (h : sweep.Consistent p.criteria) :
    enumerate p g o order line sweep s =
      some (Survey.enumerateIn p g o order line sweep s) := by
  have hlt : ∀ b ∈ sweep.modifierBits.toList, b < 64 := fun b hb =>
    h.lt_of_mem_idxsOf (h.modifierBits ▸ hb)
  rw [enumerate, Survey.enumerateIn, table_eq _ _ _ _ _ _ _ hlt]
  split <;> rfl

lemma examine_eq (orders : Survey.Examination.Orders) (e : Listing.Entry)
    (s : σ) :
    examine p g o orders e s =
      some (Survey.examineIn p g o orders e s) := by
  have hconsistent := Sweep.consistent_runIn p.criteria o orders.sweep
    e.instruction s
  rw [examine, sweep_eq, Option.bind_eq_bind, Option.bind_some]
  dsimp only
  rw [enumerate_eq p g o orders.table e.line _ hconsistent]
  rfl

/-- Whatever entries were examined before, the next one can be. -/
lemma examineAll_eq (orders : Nat → Survey.Examination.Orders)
    (es : List Listing.Entry) (s : σ) :
    examineAll p g o orders es s =
      some (Survey.examineAllIn p g o orders es s) := by
  induction es generalizing s with
  | nil => rfl
  | cons e es ih =>
      rw [examineAll, examine_eq, Option.bind_eq_bind, Option.bind_some]
      dsimp only
      rw [ih]
      rfl

/-- Surveying is never stuck. -/
theorem survey_eq (orders : Nat → Survey.Examination.Orders) (l : Listing)
    (s : σ) :
    survey p g o orders l s = some (Survey.runIn p g o orders l s) := by
  rw [survey, examineAll_eq]
  rfl

end Survey

/-! ### Formats that are not stuck -/

/-- As many bits of an assignment as a word has are those in its record. -/
lemma jsonRecord_eq {t : DecodeTable} (h : t.positions.length ≤ 64)
    (e : Nat × String) : jsonRecord t e = some (t.jsonRecord e) := by
  have hmarks : (List.range t.positions.length).map
      (BitVec.ofNat 64 e.1).getLsbD = t.assignmentBits e.1 :=
    List.map_congr_left fun j hj => by
      have hj := List.mem_range.1 hj
      rw [BitVec.getLsbD_ofNat, decide_eq_true (by omega), Bool.true_and]
  rw [jsonRecord, bits_eq _ h, hmarks]
  rfl

section Formats

variable {r : Report} (h : ∀ t ∈ r.tables, t.positions.length ≤ 64)

include h

lemma jsonRecords_eq : jsonRecords r = some r.jsonRecords := by
  have hdecoded : r.tables.mapM
      (fun t => t.entries.entries.mapM (jsonRecord t)) =
        some (r.tables.map fun t => t.entries.entries.map t.jsonRecord) :=
    mapM_eq_some_map fun t ht =>
      mapM_eq_some_map fun e _ => jsonRecord_eq (h t ht) e
  rw [jsonRecords, hdecoded, Option.bind_eq_bind, Option.bind_some,
    ← List.flatMap_def]
  rfl

/-- A report can be formatted if its tables have no more positions than a word
has. -/
theorem render_eq (f : ReportFormat) : render r f = some (r.render f) := by
  cases f
  case plain | json | csv => rfl
  case jsonLines =>
    rw [render, jsonRecords_eq h]
    rfl

end Formats

end Checked

end BitProbe

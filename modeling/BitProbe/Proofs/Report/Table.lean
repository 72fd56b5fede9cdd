import BitProbe.Proofs.Csv
import BitProbe.Proofs.Reading
import BitProbe.Proofs.Text.Numerals
import BitProbe.Report.Format

/-!
Reading a report back from its table.

Each record of the table says what kind it is of, and the fields that its kind
does not fill are empty. So a reader tells the findings of a report one by one,
whatever its texts hold, and collects them: the modifier bits of one line
follow one another, and no two lines have the same number.

* `TableRow`, `TableRow.ofFields?`: the findings, and how records are read;
* `TableContents`, `TableContents.ofRows`: what findings add up to;
* `Report.tableRows`: the findings of a report in the order of its table;
* `Report.tableContents`: what they add up to;
* `Report.render_csv_reads_back`: reading the table of a report back.
-/

namespace BitProbe

/-! ### Records as findings -/

/-- What a record of a table tells. -/
inductive TableRow where
  | opcodeChange (c : OpcodeChange)
  | opcodeBit (bit : Nat)
  | modifierBit (line : Nat) (opcode : String) (bit : Nat)
  | decode (line : Nat) (opcode label rendering : String)
  | skipped (line : Nat) (text : String)
  deriving DecidableEq, Repr

namespace TableRow

/-- What a record tells, if it fills just the fields of its kind. -/
def ofFields? : List String → Option TableRow
  | ["opcode_change", "", opcode, bit, old, new, "", ""] =>
    if opcode = old then
      (Text.number? bit).map fun bit => opcodeChange ⟨old, new, bit⟩
    else none
  | ["opcode_bit", "", "", bit, "", "", "", ""] =>
    (Text.number? bit).map opcodeBit
  | ["modifier_bit", line, opcode, bit, "", "", "", ""] =>
    (Text.number? line).bind fun line =>
      (Text.number? bit).map fun bit => modifierBit line opcode bit
  | ["decode", line, opcode, "", "", "", label, rendering] =>
    (Text.number? line).map fun line => decode line opcode label rendering
  | ["skipped", line, "", "", "", "", "", text] =>
    (Text.number? line).map fun line => skipped line text
  | _ => none

end TableRow

/-- The record of an opcode bit. -/
@[simp] lemma TableRow.ofFields?_opcodeBit (bit : Nat) :
    ofFields? ["opcode_bit", "", "", bit.repr, "", "", "", ""] =
      some (opcodeBit bit) := by
  simp [ofFields?]

/-- The record of a change of mnemonic. -/
@[simp] lemma OpcodeChange.ofFields?_tableRecord (c : OpcodeChange) :
    TableRow.ofFields? c.tableRecord = some (.opcodeChange c) := by
  simp [tableRecord, TableRow.ofFields?]

/-- The records of the modifier bits of a line. -/
@[simp] lemma ModifierBits.map_ofFields?_tableRecords (line : Nat)
    (m : ModifierBits) :
    (m.tableRecords line).map TableRow.ofFields? =
      m.positions.map fun bit => some (.modifierBit line m.opcode bit) := by
  simp [tableRecords, TableRow.ofFields?]

/-- The records of a decode table. -/
@[simp] lemma DecodeTable.map_ofFields?_tableRecords (t : DecodeTable) :
    t.tableRecords.map TableRow.ofFields? =
      t.entries.entries.map fun e =>
        some (.decode t.line t.opcode (t.label e.1) e.2) := by
  simp [tableRecords, TableRow.ofFields?]

/-- The record of a line that was left out. -/
@[simp] lemma Listing.Skipped.ofFields?_tableRecord (s : Listing.Skipped) :
    TableRow.ofFields? s.tableRecord = some (.skipped s.line s.text) := by
  simp [tableRecord, TableRow.ofFields?]

namespace Report

/-- The findings of a report in the order of its table. -/
def tableRows (r : Report) : List TableRow :=
  r.fields.opcodeChanges.map .opcodeChange ++
    r.fields.opcodeBits.toList.map .opcodeBit ++
    (r.fields.modifierBits.entries.flatMap fun e =>
      e.2.positions.map fun bit => .modifierBit e.1 e.2.opcode bit) ++
    (r.tables.flatMap fun t => t.entries.entries.map fun e =>
      .decode t.line t.opcode (t.label e.1) e.2) ++
    r.skipped.map fun s => .skipped s.line s.text

/-- Each record of the table of a report tells its finding. -/
lemma mapM_ofFields?_tableRecords (r : Report) :
    r.tableRecords.mapM TableRow.ofFields? = some r.tableRows := by
  rw [mapM_eq_some_iff]
  simp [tableRecords, tableRows, List.map_flatMap, Function.comp_def]

/-- Each record of the table of a report has as many fields as the header. -/
lemma length_of_mem_tableRecords {r : Report} {fields : List String}
    (h : fields ∈ r.tableRecords) : fields.length = tableHeader.length := by
  simp only [tableRecords, ModifierBits.tableRecords,
    DecodeTable.tableRecords, List.mem_append, List.mem_flatMap,
    List.mem_map] at h
  rcases h with (((⟨c, -, rfl⟩ | ⟨bit, -, rfl⟩) | ⟨e, -, bit, -, rfl⟩) |
    ⟨t, -, e, -, rfl⟩) | ⟨s, -, rfl⟩ <;> rfl

/-- Every report can be rendered in every format. -/
lemma exists_render (r : Report) (f : ReportFormat) :
    ∃ text, r.render f = .ok text := by
  cases f with
  | plain => exact ⟨_, rfl⟩
  | json => exact ⟨_, rfl⟩
  | jsonLines => exact ⟨_, rfl⟩
  | csv =>
      have hlength : ∀ fields ∈ tableHeader :: r.tableRecords,
          fields.length = tableHeader.length := by
        intro fields hfields
        rcases List.mem_cons.1 hfields with rfl | hfields
        · rfl
        · exact length_of_mem_tableRecords hfields
      rw [render, csv, Csv.write_eq_ok hlength]
      exact ⟨_, rfl⟩

end Report

/-! ### What the findings add up to -/

/-- What the table of a report tells as a whole. -/
structure TableContents where
  opcodeChanges : List OpcodeChange := []
  opcodeBits : List Nat := []
  /-- The modifier bits with the number and the mnemonic of their line. -/
  modifierBits : List (Nat × String × List Nat) := []
  /-- The rows of the decode tables: the number and the mnemonic of the line,
  the assignment and the decoded text. -/
  decoded : List (Nat × String × String × String) := []
  /-- The lines that were left out, with their numbers. -/
  skipped : List (Nat × String) := []
  deriving DecidableEq

namespace TableContents

/-- One more modifier bit before others; it belongs to the first of the lines
if it has its number. -/
def addBit (line : Nat) (opcode : String) (bit : Nat) :
    List (Nat × String × List Nat) → List (Nat × String × List Nat)
  | [] => [(line, opcode, [bit])]
  | m :: ms =>
    if m.1 = line then (line, opcode, bit :: m.2.2) :: ms
    else (line, opcode, [bit]) :: m :: ms

/-- One more finding before others. -/
def add (row : TableRow) (t : TableContents) : TableContents :=
  match row with
  | .opcodeChange c => { t with opcodeChanges := c :: t.opcodeChanges }
  | .opcodeBit bit => { t with opcodeBits := bit :: t.opcodeBits }
  | .modifierBit line opcode bit =>
    { t with modifierBits := addBit line opcode bit t.modifierBits }
  | .decode line opcode label rendering =>
    { t with decoded := (line, opcode, label, rendering) :: t.decoded }
  | .skipped line text => { t with skipped := (line, text) :: t.skipped }

/-- What findings add up to. -/
def ofRows (rows : List TableRow) : TableContents :=
  rows.foldr add {}

/-- The bits of a line are collected, if other lines follow. -/
lemma foldr_addBit (line : Nat) (opcode : String) (positions : List Nat)
    {ms : List (Nat × String × List Nat)}
    (h : ∀ m ∈ ms.head?, m.1 ≠ line) :
    positions.foldr (addBit line opcode) ms =
      if positions = [] then ms else (line, opcode, positions) :: ms := by
  induction positions with
  | nil => rfl
  | cons bit bits ih =>
      rw [List.foldr_cons, ih, if_neg (List.cons_ne_nil bit bits)]
      by_cases hbits : bits = []
      · rw [if_pos hbits, hbits]
        cases ms with
        | nil => rfl
        | cons m ms => rw [addBit, if_neg (h m rfl)]
      · rw [if_neg hbits, addBit, if_pos rfl]

section Parts

variable (t : TableContents)

lemma foldr_opcodeChanges (cs : List OpcodeChange) :
    (cs.map TableRow.opcodeChange).foldr add t =
      { t with opcodeChanges := cs ++ t.opcodeChanges } := by
  induction cs with
  | nil => rfl
  | cons c cs ih =>
      rw [List.map_cons, List.foldr_cons, ih]
      rfl

lemma foldr_opcodeBits (bits : List Nat) :
    (bits.map TableRow.opcodeBit).foldr add t =
      { t with opcodeBits := bits ++ t.opcodeBits } := by
  induction bits with
  | nil => rfl
  | cons bit bits ih =>
      rw [List.map_cons, List.foldr_cons, ih]
      rfl

lemma foldr_modifierBits (line : Nat) (opcode : String)
    (positions : List Nat) :
    (positions.map (TableRow.modifierBit line opcode)).foldr add t =
      { t with
        modifierBits := positions.foldr (addBit line opcode)
          t.modifierBits } := by
  induction positions with
  | nil => rfl
  | cons bit bits ih =>
      rw [List.map_cons, List.foldr_cons, ih]
      rfl

lemma foldr_decoded (ds : List (Nat × String × String × String)) :
    (ds.map fun d => TableRow.decode d.1 d.2.1 d.2.2.1 d.2.2.2).foldr add t =
      { t with decoded := ds ++ t.decoded } := by
  induction ds with
  | nil => rfl
  | cons d ds ih =>
      rw [List.map_cons, List.foldr_cons, ih]
      rfl

lemma foldr_skipped (ss : List Listing.Skipped) :
    (ss.map fun s => TableRow.skipped s.line s.text).foldr add t =
      { t with
        skipped := (ss.map fun s => (s.line, s.text)) ++ t.skipped } := by
  induction ss with
  | nil => rfl
  | cons s ss ih =>
      rw [List.map_cons, List.foldr_cons, ih]
      rfl

end Parts

end TableContents

namespace Report

/-- The lines with modifier bits. -/
def linesWithBits (ms : List (Nat × ModifierBits)) :
    List (Nat × String × List Nat) :=
  (ms.filter fun m => m.2.positions ≠ []).map fun m =>
    (m.1, m.2.opcode, m.2.positions)

/-- What the findings of a report add up to. -/
def tableContents (r : Report) : TableContents where
  opcodeChanges := r.fields.opcodeChanges
  opcodeBits := r.fields.opcodeBits.toList
  modifierBits := linesWithBits r.fields.modifierBits.entries
  decoded := r.tables.flatMap fun t => t.entries.entries.map fun e =>
    (t.line, t.opcode, t.label e.1, e.2)
  skipped := r.skipped.map fun s => (s.line, s.text)

/-- The modifier bits of lines with ascending numbers are told apart. -/
lemma foldr_linesWithBits {ms : List (Nat × ModifierBits)}
    (hms : ms.Pairwise fun a b => compare a.1 b.1 = .lt)
    {t : TableContents} (ht : t.modifierBits = []) :
    (ms.flatMap fun m => m.2.positions.map
        (TableRow.modifierBit m.1 m.2.opcode)).foldr TableContents.add t =
      { t with modifierBits := linesWithBits ms } := by
  induction ms with
  | nil => rw [List.flatMap_nil, List.foldr_nil, linesWithBits,
      List.filter_nil, List.map_nil, ← ht]
  | cons m ms ih =>
      obtain ⟨hm, hms⟩ := List.pairwise_cons.1 hms
      have hother : ∀ x ∈ (linesWithBits ms).head?, x.1 ≠ m.1 := by
        intro x hx
        obtain ⟨y, hy, rfl⟩ := List.mem_map.1 (List.mem_of_mem_head? hx)
        have hlt := hm y (List.mem_filter.1 hy).1
        exact Nat.ne_of_gt (Nat.compare_eq_lt.1 hlt)
      rw [List.flatMap_cons, List.foldr_append, ih hms,
        TableContents.foldr_modifierBits, TableContents.foldr_addBit _ _ _
          hother]
      by_cases hnil : m.2.positions = []
      · simp [linesWithBits, hnil]
      · simp [linesWithBits, hnil]

/-- The findings of a report add up to what it holds. -/
lemma ofRows_tableRows (r : Report) :
    TableContents.ofRows r.tableRows = r.tableContents := by
  have hdecoded : (r.tables.flatMap fun t => t.entries.entries.map fun e =>
      TableRow.decode t.line t.opcode (t.label e.1) e.2) =
        r.tableContents.decoded.map fun d =>
          TableRow.decode d.1 d.2.1 d.2.2.1 d.2.2.2 := by
    simp [tableContents, List.map_flatMap, Function.comp_def]
  rw [TableContents.ofRows, tableRows, hdecoded, List.foldr_append,
    List.foldr_append, List.foldr_append, List.foldr_append,
    TableContents.foldr_skipped, TableContents.foldr_decoded,
    foldr_linesWithBits r.fields.modifierBits.ascending rfl,
    TableContents.foldr_opcodeBits, TableContents.foldr_opcodeChanges]
  simp [tableContents]

/-- The table of a report can always be written, whatever texts the report
holds. Its records are the header and one for each finding, with eight fields
each, and a reader recovers from them the changes of mnemonic, the opcode
bits, the modifier bits of every line that has some, the rows of the decode
tables and the lines that were left out. -/
theorem render_csv_reads_back (r : Report) :
    ∃ text, r.render .csv = .ok text ∧
      Csv.read? text.toList = some (tableHeader :: r.tableRecords) ∧
      (∀ fields ∈ tableHeader :: r.tableRecords, fields.length = 8) ∧
      r.tableRecords.mapM TableRow.ofFields? = some r.tableRows ∧
      TableContents.ofRows r.tableRows = r.tableContents := by
  have hlength : ∀ fields ∈ tableHeader :: r.tableRecords,
      fields.length = 8 := by
    intro fields hfields
    rcases List.mem_cons.1 hfields with rfl | hfields
    · rfl
    · exact length_of_mem_tableRecords hfields
  have hne : ∀ fields ∈ tableHeader :: r.tableRecords, fields ≠ [] := by
    intro fields hfields hnil
    have h8 := hlength fields hfields
    rw [hnil] at h8
    cases h8
  refine ⟨Csv.file (tableHeader :: r.tableRecords), ?_, Csv.read?_file hne,
    hlength, mapM_ofFields?_tableRecords r, ofRows_tableRows r⟩
  rw [render, csv, Csv.write_eq_ok hlength]
  rfl

end Report

end BitProbe

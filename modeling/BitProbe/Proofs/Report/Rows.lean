import BitProbe.Proofs.DecodeTable.Enumeration
import BitProbe.Proofs.Report.Records
import BitProbe.Proofs.Report.Table
import BitProbe.Proofs.Text.Words
import BitProbe.Proofs.Word

/-!
The rows of decode tables in the formats of a report.

Each format shows a row in its own way: the plain text has a header with the
positions, the highest first, and a label with one binary digit for each; the
records have one truth value for each position, the lowest first; and the
table of comma-separated values repeats the label. All of them name the word
that the oracle was asked about.

* `Word.setWhere`: setting the bits that marks stand for;
* `PlainText.header?`, `PlainText.row?`: reading the lines of a table;
* `DecodeTable.ShowsRow`: what the formats show of a row;
* `DecodeTable.Names`: which word header, label and assignment name;
* `Enumeration.rows_name_words`: the rows name the words asked about.
-/

namespace BitProbe

/-! ### Words named by marks -/

/-- The word with the bits set whose positions are marked. -/
def Word.setWhere (w : Word) (positions : List Nat) (marks : List Bool) :
    Word :=
  w ||| mask (((positions.zip marks).filter (·.2)).map (·.1))

namespace Word

/-- Masks of the same positions are equal. -/
lemma mask_congr {ps qs : List Nat} (h : ∀ p, p ∈ ps ↔ p ∈ qs) :
    mask ps = mask qs := by
  refine BitVec.eq_of_getLsbD_eq fun i _ => ?_
  rw [getLsbD_mask, getLsbD_mask]
  simp only [h]

lemma mem_marked {ps : List Nat} {marks : List Bool} {p : Nat} :
    p ∈ ((ps.zip marks).filter (·.2)).map (·.1) ↔
      ∃ j : Nat, ps[j]? = some p ∧ marks[j]? = some true := by
  have hpair : p ∈ ((ps.zip marks).filter (·.2)).map (·.1) ↔
      (p, true) ∈ ps.zip marks := by
    simp
  rw [hpair, List.mem_iff_getElem?]
  simp only [List.getElem?_zip_eq_some]

/-- Marks may be read from either end, along with the positions. -/
lemma setWhere_reverse (w : Word) {positions : List Nat} {marks : List Bool}
    (h : positions.length = marks.length) :
    w.setWhere positions.reverse marks.reverse =
      w.setWhere positions marks := by
  have hzip : positions.reverse.zip marks.reverse =
      (positions.zip marks).reverse :=
    (List.reverse_zipWith h).symm
  rw [setWhere, setWhere, hzip]
  congr 1
  exact mask_congr fun p => by simp

/-- Setting the bits that an assignment marks, in a word where the others are
cleared, makes the assignment. -/
lemma setWhere_clear (w : Word) {positions : List Nat} {v : Nat}
    (h : positions.length ≤ 64) :
    (w.clear positions).setWhere positions
        ((List.range positions.length).map v.testBit) =
      w.assign positions (BitVec.ofNat 64 v) := by
  rw [setWhere, assign]
  congr 1
  refine mask_congr fun p => ?_
  rw [mem_marked, mem_selected]
  refine exists_congr fun j => and_congr_right fun hj => ?_
  have hlt : j < positions.length := (List.getElem?_eq_some_iff.1 hj).1
  rw [List.getElem?_map, List.getElem?_range hlt, BitVec.getLsbD_ofNat]
  simp [Nat.lt_of_lt_of_le hlt h]

end Word

/-! ### Labels -/

namespace DecodeTable

@[simp] lemma length_assignmentBits (t : DecodeTable) (v : Nat) :
    (t.assignmentBits v).length = t.positions.length := by
  rw [assignmentBits, List.length_map, List.length_range]

/-- A label has the bits of the assignment as digits, from the other end. -/
lemma toList_label (t : DecodeTable) {v : Nat}
    (h : v < 2 ^ t.positions.length) :
    (t.label v).toList = (t.assignmentBits v).reverse.map Text.bitDigit := by
  rw [label, String.toList_ofList, Text.binary_eq h, Text.bitDigits,
    assignmentBits, ← List.map_reverse, List.map_map]
  rfl

/-- A label has one digit for each position. -/
lemma length_label (t : DecodeTable) {v : Nat}
    (h : v < 2 ^ t.positions.length) :
    (t.label v).length = t.positions.length := by
  rw [← String.length_toList, toList_label t h, List.length_map,
    List.length_reverse, length_assignmentBits]

/-- The ones of a label mark the set bits. -/
lemma map_label (t : DecodeTable) {v : Nat}
    (h : v < 2 ^ t.positions.length) :
    ((t.label v).toList.map fun d => decide (d = '1')) =
      (t.assignmentBits v).reverse := by
  rw [toList_label t h, List.map_map]
  exact (List.map_congr_left fun b _ => by simp).trans (List.map_id _)

/-- Different assignments have different labels. -/
lemma label_injOn (t : DecodeTable) {v w : Nat}
    (hv : v < 2 ^ t.positions.length) (hw : w < 2 ^ t.positions.length)
    (h : t.label v = t.label w) : v = w := by
  have hbits : t.assignmentBits v = t.assignmentBits w := by
    rw [← List.reverse_inj, ← map_label t hv, ← map_label t hw, h]
  refine Word.eq_of_testBit hv hw fun j hj => ?_
  have hget := congrArg (·[j]?) hbits
  simpa [assignmentBits, List.getElem?_range hj] using hget

end DecodeTable

/-! ### Lines of plain text -/

namespace PlainText

/-- The numbers in the header of a table. -/
def header? (line : String) : Option (List Nat) :=
  let opening := "  bits [".toList
  if opening <+: line.toList ∧ line.toList.getLast? = some ']' then
    (Text.words (line.toList.drop opening.length).dropLast).mapM Text.decimal?
  else none

/-- Whether a character is a digit of a label. -/
def isBinary (c : Char) : Bool :=
  c = '0' || c = '1'

/-- The label and the text in a row of a table. -/
def row? (line : String) : Option (String × String) :=
  match line.toList with
  | ' ' :: ' ' :: rest =>
    match rest.dropWhile isBinary with
    | ' ' :: ' ' :: text =>
      some (String.ofList (rest.takeWhile isBinary), String.ofList text)
    | _ => none
  | _ => none

/-- A numeral is a word. -/
lemma isWord_decimal (n : Nat) : Text.IsWord (Text.decimal n) := by
  refine ⟨Text.decimal_ne_nil n, fun c hc => ?_⟩
  obtain ⟨hlow, hhigh⟩ :=
    Text.toNat_of_isDigit (Text.isDigit_of_mem_decimal hc)
  have hall : ∀ n < 58, 48 ≤ n →
      (Text.blankRanges.any fun r => r.1 ≤ n && n ≤ r.2) = false := by
    decide
  exact hall c.toNat (Nat.lt_succ_of_le hhigh) hlow

/-- The header of a table is read back. -/
lemma header?_header (ps : List Nat) :
    header? ("  bits [" ++ String.intercalate " " (ps.map toString) ++ "]") =
      some ps := by
  have hbody : (String.intercalate " " (ps.map toString)).toList =
      [' '].intercalate (ps.map Text.decimal) := by
    rw [String.toList_intercalate, List.map_map]
    congr 1
    exact List.map_congr_left fun n _ => Text.toList_repr n
  have hwords : Text.words ([' '].intercalate (ps.map Text.decimal)) =
      ps.map Text.decimal := by
    refine Text.words_intercalate fun w hw => ?_
    obtain ⟨n, -, rfl⟩ := List.mem_map.1 hw
    exact isWord_decimal n
  rw [header?, String.toList_append, String.toList_append, hbody,
    show "]".toList = [']'] from rfl]
  rw [if_pos ⟨List.prefix_append _ _, List.getLast?_concat⟩,
    List.append_assoc, List.drop_left, List.dropLast_concat, hwords,
    mapM_eq_some_iff, List.map_map]
  exact List.map_congr_left fun n _ => Text.decimal?_decimal n

/-- A row of a table is read back. -/
lemma row?_row {label : String} (h : ∀ c ∈ label.toList, isBinary c = true)
    (text : String) :
    row? ("  " ++ label ++ "  " ++ text) = some (label, text) := by
  have hline : ("  " ++ label ++ "  " ++ text).toList =
      ' ' :: ' ' :: (label.toList ++ ' ' :: ' ' :: text.toList) := by
    simp
  rw [row?, hline]
  simp only
  rw [List.dropWhile_append_of_pos h, List.takeWhile_append_of_pos h]
  simp [isBinary]

end PlainText

/-! ### Rows in the formats -/

namespace DecodeTable

/-- What the formats show of a row of a table: the plain text has a header
and, on a line of its own, the label and the decoded text; the record has the
assignment and the decoded text; and the table of comma-separated values has
again the label and the decoded text. -/
structure ShowsRow (t : DecodeTable) (row : Nat) (header : List Nat)
    (label : String) (assignment : List Bool) (text : String) : Prop where
  plainHeader : t.plainLines[1]?.bind PlainText.header? = some header
  plainRow : t.plainLines[row + 2]?.bind PlainText.row? = some (label, text)
  jsonRecord : (t.entries.entries.map t.jsonRecord)[row]?.bind
    Finding.ofJson? =
      some (.decode t.line t.opcode t.positions assignment text)
  tableRecord : t.tableRecords[row]?.bind TableRow.ofFields? =
    some (.decode t.line t.opcode label text)

/-- How header, label and assignment of a row name a word: each has an item
for each position, and setting the marked bits gives the word, in the word of
the table where all the positions have been cleared. -/
structure Names (t : DecodeTable) (header : List Nat) (label : String)
    (assignment : List Bool) (w : Word) : Prop where
  header_eq : header = t.positions.reverse
  label_eq : label.toList = assignment.reverse.map Text.bitDigit
  length_header : header.length = t.positions.length
  length_label : label.length = t.positions.length
  length_assignment : assignment.length = t.positions.length
  ofLabel : (t.encoding.clear t.positions).setWhere header
    (label.toList.map fun d => decide (d = '1')) = w
  ofAssignment : (t.encoding.clear t.positions).setWhere t.positions
    assignment = w

variable {t : DecodeTable}

/-- Header, label and assignment name the word that carries the
assignment. -/
theorem names_assign {v : Nat} (hv : v < 2 ^ t.positions.length)
    (hle : t.positions.length ≤ 64) :
    t.Names t.positions.reverse (t.label v) (t.assignmentBits v)
      (t.encoding.assign t.positions (BitVec.ofNat 64 v)) where
  header_eq := rfl
  label_eq := toList_label t hv
  length_header := List.length_reverse
  length_label := length_label t hv
  length_assignment := length_assignmentBits t v
  ofLabel := by
    rw [map_label t hv,
      Word.setWhere_reverse _ (length_assignmentBits t v).symm]
    exact Word.setWhere_clear _ hle
  ofAssignment := Word.setWhere_clear _ hle

/-- The lines of a table that is not skipped. -/
lemma plainLines_of_not_skipped (hskip : t.skipped = false) :
    ∃ first last, t.plainLines =
      first ::
        ("  bits [" ++
          String.intercalate " " (t.positions.reverse.map toString) ++ "]") ::
        ((t.entries.entries.map fun e =>
          "  " ++ t.label e.1 ++ "  " ++ e.2) ++ [last]) := by
  rw [plainLines, if_neg (by simp [hskip])]
  exact ⟨_, _, rfl⟩

/-- The formats show a row with its label and its assignment. -/
theorem showsRow (hskip : t.skipped = false) {row v : Nat} {text : String}
    (hrow : t.entries.entries[row]? = some (v, text))
    (hv : v < 2 ^ t.positions.length) :
    t.ShowsRow row t.positions.reverse (t.label v) (t.assignmentBits v)
      text := by
  obtain ⟨first, last, hlines⟩ := plainLines_of_not_skipped hskip
  have hlt : row < t.entries.entries.length :=
    (List.getElem?_eq_some_iff.1 hrow).1
  constructor
  case plainHeader =>
    rw [hlines]
    exact PlainText.header?_header _
  case plainRow =>
    have hbinary : ∀ d ∈ (t.label v).toList,
        PlainText.isBinary d = true := by
      intro d hd
      rw [toList_label t hv, List.mem_map] at hd
      obtain ⟨b, -, rfl⟩ := hd
      cases b <;> decide
    rw [hlines, List.getElem?_cons_succ, List.getElem?_cons_succ,
      List.getElem?_append_left (by rwa [List.length_map]),
      List.getElem?_map, hrow]
    exact PlainText.row?_row hbinary text
  case jsonRecord =>
    rw [List.getElem?_map, hrow]
    exact ofJson?_jsonRecord t (v, text)
  case tableRecord =>
    have hread := congrArg (·[row]?) (map_ofFields?_tableRecords t)
    simp only [List.getElem?_map, hrow, Option.map_some] at hread
    obtain ⟨fields, hfields, hrow'⟩ := Option.map_eq_some_iff.1 hread
    rw [hfields, Option.bind_some, hrow']

end DecodeTable

/-! ### Tables in reports -/

/-- What is made of one item stands in one piece in what is made of all. -/
lemma infix_flatMap_of_mem {α β : Type} {f : α → List β} {x : α}
    {xs : List α} (h : x ∈ xs) : f x <:+: xs.flatMap f := by
  obtain ⟨before, after, rfl⟩ := List.append_of_mem h
  rw [List.flatMap_append, List.flatMap_cons]
  exact ⟨before.flatMap f, after.flatMap f, by rw [List.append_assoc]⟩

namespace Report

variable {r : Report} {t : DecodeTable}

/-- The records of a table stand in one piece among those of a report. -/
lemma infix_jsonRecords (h : t ∈ r.tables) :
    t.entries.entries.map t.jsonRecord <:+: r.jsonRecords := by
  let rows := fun t : DecodeTable => t.entries.entries.map t.jsonRecord
  have hpiece := @infix_flatMap_of_mem _ _ rows t _ h
  refine hpiece.trans ?_
  rw [jsonRecords, List.append_assoc, List.append_assoc]
  exact List.infix_append' _ _ _

@[inherit_doc infix_jsonRecords]
lemma infix_tableRecords (h : t ∈ r.tables) :
    t.tableRecords <:+: r.tableRecords := by
  refine (infix_flatMap_of_mem h).trans ?_
  rw [tableRecords]
  exact List.infix_append _ _ _

/-- The lines of a table stand in one piece in a report about modifiers. -/
lemma infix_plainLines (hgoal : r.goal = .modifiers) (h : t ∈ r.tables) :
    t.plainLines <:+: r.plainLines := by
  refine (infix_flatMap_of_mem h).trans ?_
  rw [plainLines, findingLines, hgoal]
  exact ⟨r.headLines ++ r.sweepLines, r.untabledLines ++ r.skippedLines,
    by simp only [List.append_assoc]⟩

end Report

/-! ### Rows and questions -/

namespace Enumeration

variable {σ : Type}

/-- Every format of a report names the word behind each row of a table,
however the assignments were asked about. The rows come in the same order
everywhere, by ascending assignment and with different labels, and there are
no others. -/
theorem rows_name_words (e : Enumeration σ) :
    e.table.entries.keys.Pairwise (· < ·) ∧
    (e.table.entries.keys.map e.table.label).Nodup ∧
    e.table.tableRecords.length = e.table.entries.size ∧
    (e.table.skipped = false →
      e.table.plainLines.length = e.table.entries.size + 3) ∧
    (∀ (row v : Nat) (text : String),
      e.table.entries.entries[row]? = some (v, text) →
      ∃ w answer header label assignment,
        e.Called v (w, answer) ∧
        DecodeTable.rendering e.criteria (some answer) = some text ∧
        e.table.ShowsRow row header label assignment text ∧
        e.table.Names header label assignment w) ∧
    ∀ r : Report, e.table ∈ r.tables →
      (e.table.entries.entries.map e.table.jsonRecord <:+: r.jsonRecords) ∧
      (e.table.tableRecords <:+: r.tableRecords) ∧
      (r.goal = .modifiers → e.table.plainLines <:+: r.plainLines) := by
  have hkeys : e.table.entries.keys.Pairwise (· < ·) := by
    rw [SortedMap.keys, List.pairwise_map]
    exact e.table.entries.ascending.imp Nat.compare_eq_lt.1
  have hbound : ∀ v ∈ e.table.entries.keys,
      v < 2 ^ e.table.positions.length := by
    intro v hv
    obtain ⟨x, hx, rfl⟩ := List.mem_map.1 hv
    exact (e.called_of_find? (SortedMap.find?_of_mem hx)).1
  refine ⟨hkeys, ?_, List.length_map _, fun hskip => ?_, ?_, fun r hr =>
    ⟨Report.infix_jsonRecords hr, Report.infix_tableRecords hr,
      fun hgoal => Report.infix_plainLines hgoal hr⟩⟩
  · refine List.Nodup.map_on (fun v hv w hw h => ?_)
      (hkeys.imp Nat.ne_of_lt)
    exact e.table.label_injOn (hbound v hv) (hbound w hw) h
  · obtain ⟨first, last, hlines⟩ :=
      DecodeTable.plainLines_of_not_skipped hskip
    rw [hlines]
    simp [SortedMap.size]
  · intro row v text hrow
    have hfind := SortedMap.find?_of_mem (List.mem_of_getElem? hrow)
    obtain ⟨hv, answer, hcalled, htext⟩ := e.called_of_find? hfind
    obtain ⟨hskip, hle⟩ := e.of_entries_ne_empty hfind
    have henc : e.table.encoding = e.encoding := e.head_table.2.2.1
    have hnames := DecodeTable.names_assign hv
      (Nat.le_trans hle (by decide))
    rw [henc] at hnames
    exact ⟨_, answer, _, _, _, hcalled, htext,
      DecodeTable.showsRow hskip hrow hv, hnames⟩

/-- Words that are decoded one after another to different mnemonics. -/
def spelled : List String :=
  ["MOV.A R0 R1", "MOV.B R0 R1", "MOV.C R0 R1", "MOV.D R0 R1"]

/-- Two positions that are given in descending order. The oracle goes by the
number of the question, and the tasks ask in descending order, too. -/
def backwards : Enumeration Nat where
  criteria := ⟨0, 3, ∅⟩
  maxBits := 12
  oracle := fun _ n => (.ok (spelled.getD n ""), n + 1)
  before := 0
  order := .sideBySide [3, 3, 3, 2, 2, 2, 1, 1, 1, 0, 0, 0]
  line := 1
  opcode := "MOV"
  encoding := 0#64
  positions := [7, 3]

/-- The third task to ask is the second row. Its label `01` stands below the
header `7 3`, and its assignment begins with the lower position. -/
theorem rows_name_words_backwards :
    backwards.table.entries.entries[1]? = some (1, "MOV.C R0 R1") ∧
      ∃ answer, backwards.Called 1 (0x08#64, answer) ∧
        DecodeTable.rendering backwards.criteria (some answer) =
          some "MOV.C R0 R1" ∧
        backwards.table.ShowsRow 1 [7, 3] "01" [true, false]
          "MOV.C R0 R1" ∧
        backwards.table.Names [7, 3] "01" [true, false] 0x08#64 := by
  have hrow : backwards.table.entries.entries[1]? =
      some (1, "MOV.C R0 R1") := by
    decide +kernel
  obtain ⟨-, -, -, -, hrows, -⟩ := backwards.rows_name_words
  obtain ⟨w, answer, header, label, assignment, hcalled, htext, hshows,
    hnames⟩ := hrows 1 1 "MOV.C R0 R1" hrow
  have hheader : header = [7, 3] :=
    hnames.header_eq.trans (by decide +kernel)
  have hassignment : assignment = [true, false] := by
    have hread := hshows.jsonRecord
    rw [List.getElem?_map, hrow, Option.map_some, Option.bind_some,
      DecodeTable.ofJson?_jsonRecord, Option.some_inj,
      Finding.decode.injEq] at hread
    rw [← hread.2.2.2.1]
    decide +kernel
  have hlabel : label = "01" := by
    rw [← String.toList_inj, hnames.label_eq, hassignment]
    decide
  have hw : w = 0x08#64 := by
    rw [← hnames.ofAssignment, hassignment]
    decide +kernel
  subst hheader hassignment hlabel hw
  exact ⟨hrow, answer, hcalled, htext, hshows, hnames⟩

end Enumeration

end BitProbe

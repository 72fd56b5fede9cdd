import BitProbe.Proofs.Text.Pieces
import BitProbe.Proofs.Text.Words
import BitProbe.Report.Format
import Mathlib.Data.List.Nodup

/-!
The lines of a report as plain text.

A plain text has a head, two lines for each sweep, the lines of what was looked
for, and the lines of the listing that were left out. What a line takes from
the report is a part of it, so a line is never broken if no text in the report
has a line feed.

* `PlainLine`, `PlainLine.text`: the lines by what they tell, and their texts;
* `Report.layout`: the lines that a report is laid out in;
* `Report.texts`: all texts in a report;
* `PlainLine.isLine_text`, `Report.texts_subset`: what a line takes from it;
* `Report.Divided`: how sweeps, tables and modifier bits of a report share the
  lines of the listing;
* `Report.Divided.plainLines_eq`: the lines of the text are those of the
  layout;
* `Report.Divided.perm_modifierLines`: each line with modifier bits is told
  once;
* `Report.splitOn_plain`: cutting the text at its line feeds.
-/

namespace BitProbe

open Text (IsLine)

/-! ### Layout -/

/-- A line of a plain text. -/
inductive PlainLine where
  | family (a : Architecture) (g : Goal)
  | counts (probed skipped : Nat)
  | empty
  | sweep (s : SweepRecord)
  | bits (s : SweepRecord)
  | changesTitle
  | change (c : OpcodeChange)
  | opcodeBits (bits : List Nat)
  | table (t : DecodeTable)
  | tooWide (t : DecodeTable)
  | positions (t : DecodeTable)
  | row (t : DecodeTable) (e : Nat × String)
  | decoded (t : DecodeTable)
  | notEnumerated (s : SweepRecord)
  | skippedTitle
  | skipped (s : Listing.Skipped)

namespace PlainLine

/-- The text of a line. -/
def text (l : PlainLine) : String :=
  match l with
  | family a g => "Architecture: " ++ a.display ++ " (" ++ g.display ++ ")"
  | counts n m =>
    "Instructions: " ++ toString n ++ " probed, " ++ toString m ++ " skipped"
  | empty => ""
  | sweep s => "line " ++ toString s.line ++ ": " ++ s.text
  | bits s =>
    "  63 " ++ s.bitmap ++ " 0" ++ if s.aborted then "  (aborted)" else ""
  | changesTitle => "Opcode changes:"
  | change c =>
    "  " ++ c.old ++ " => " ++ c.new ++ " when bit [" ++ toString c.bit ++
      "] is flipped"
  | opcodeBits bs => "Opcode bit positions: [" ++ bitList bs ++ "]"
  | table t => modifierLine t.line t.opcode t.positions
  | tooWide t => "  enumeration skipped (" ++ t.spaceText ++ " assignments)"
  | positions t =>
    "  bits [" ++ String.intercalate " " (t.positions.reverse.map toString) ++
      "]"
  | row t e => "  " ++ t.label e.1 ++ "  " ++ e.2
  | decoded t =>
    "  " ++ toString t.entries.size ++ " of " ++ t.spaceText ++
      " assignments decoded" ++
      if t.aborted then " (oracle failed, partial)" else ""
  | notEnumerated s =>
    modifierLine s.line s.opcode (s.classes.idxsOf .modifier) ++
      " (not enumerated)"
  | skippedTitle => "Skipped lines:"
  | skipped s =>
    "  line " ++ toString s.line ++ ": " ++ s.error.message ++ ": " ++ s.text

/-- The texts that a line takes from a report. -/
def texts : PlainLine → List String
  | sweep s => [s.text]
  | bits s => [s.bitmap]
  | change c => [c.old, c.new]
  | table t => [t.opcode]
  | row _ e => [e.2]
  | notEnumerated s => [s.opcode]
  | skipped s => [s.error.message, s.text]
  | _ => []

/-- The line of the listing whose modifier bits a line tells. -/
def modifierLine? : PlainLine → Option Nat
  | table t => some t.line
  | notEnumerated s => some s.line
  | _ => none

end PlainLine

/-- The lines of a table. -/
def DecodeTable.layout (t : DecodeTable) : List PlainLine :=
  .table t ::
    if t.skipped then [.tooWide t]
    else .positions t :: t.entries.entries.map (.row t) ++ [.decoded t]

namespace Report

/-- The sweeps with modifier bits that were cut short. -/
def unfinished (r : Report) : List SweepRecord :=
  r.sweeps.filter fun s => s.aborted ∧ .modifier ∈ s.classes

/-- The lines of what was looked for. -/
def findingLayout (r : Report) : List PlainLine :=
  match r.goal with
  | .opcodes =>
    .changesTitle :: r.fields.opcodeChanges.map .change ++
      [.opcodeBits r.fields.opcodeBits.toList]
  | .modifiers =>
    r.tables.flatMap DecodeTable.layout ++ r.unfinished.map .notEnumerated

/-- The lines of a report. -/
def layout (r : Report) : List PlainLine :=
  [.family r.architecture r.goal, .counts r.sweeps.length r.skipped.length,
    .empty] ++
  (r.sweeps.flatMap fun s => [.sweep s, .bits s]) ++ [.empty] ++
  r.findingLayout ++
  if r.skipped.isEmpty then []
  else .empty :: .skippedTitle :: r.skipped.map .skipped

/-- All texts in a report; the message of an error holds the token that it
cites. -/
def texts (r : Report) : List String :=
  (r.sweeps.flatMap fun s => [s.text, s.opcode, s.bitmap]) ++
  (r.fields.opcodeChanges.flatMap fun c => [c.old, c.new]) ++
  (r.fields.modifierBits.entries.map fun e => e.2.opcode) ++
  (r.tables.flatMap fun t => t.opcode :: t.entries.entries.map (·.2)) ++
  r.skipped.flatMap fun s => [s.text, s.error.message]

end Report

/-! ### Lines without line feeds -/

lemma isLine_bitList (bits : List Nat) : IsLine (bitList bits) := by
  refine Text.isLine_intercalate (by decide) fun s hs => ?_
  obtain ⟨b, -, rfl⟩ := List.mem_map.1 hs
  exact Text.isLine_repr b

lemma isLine_modifierLine (line : Nat) {opcode : String} (h : IsLine opcode)
    (positions : List Nat) : IsLine (modifierLine line opcode positions) := by
  simp +decide [modifierLine, h, isLine_bitList]

lemma isLine_spaceText (t : DecodeTable) : IsLine t.spaceText := by
  rw [DecodeTable.spaceText]
  split
  · exact Text.isLine_repr _
  · simp +decide

/-- The digits of a numeral in base two. -/
lemma isLine_label (t : DecodeTable) (v : Nat) : IsLine (t.label v) := by
  rw [DecodeTable.label, Text.isLine_ofList, Text.binary]
  split
  · exact List.not_mem_nil
  · rw [List.leftpad, List.mem_append, List.mem_replicate, not_or]
    refine ⟨fun h => absurd h.2 (by decide), fun h => ?_⟩
    exact absurd (Nat.isDigit_of_mem_toDigits (by omega) (by omega) h)
      (by decide)

lemma isLine_bitmapOf (classes : List BitClass) :
    IsLine (bitmapOf classes) := by
  rw [bitmapOf, Text.isLine_ofList]
  intro h
  obtain ⟨cls, -, hletter⟩ := List.mem_map.1 h
  cases cls <;> exact absurd hletter (by decide)

lemma isLine_displayArchitecture (a : Architecture) : IsLine a.display := by
  cases a <;> decide

lemma isLine_displayGoal (g : Goal) : IsLine g.display := by
  cases g <;> decide

/-- A line is one if what it takes from the report has no line feeds. -/
lemma PlainLine.isLine_text {l : PlainLine} (h : ∀ t ∈ l.texts, IsLine t) :
    IsLine l.text := by
  have hnumber : ∀ n : Nat, IsLine (toString n) := Text.isLine_repr
  cases l <;> dsimp only [text, texts] at h ⊢
  case family a g =>
    simp only [Text.isLine_append, isLine_displayArchitecture,
      isLine_displayGoal, and_true]
    decide
  case counts n m =>
    simp only [Text.isLine_append, hnumber, and_true]
    decide
  case sweep s =>
    simp only [Text.isLine_append, hnumber, h s.text (by simp), and_true]
    decide
  case bits s =>
    simp only [Text.isLine_append, h s.bitmap (by simp), and_true]
    cases s.aborted <;> decide
  case change c =>
    simp only [Text.isLine_append, hnumber, h c.old (by simp),
      h c.new (by simp), and_true]
    decide
  case opcodeBits bs =>
    simp only [Text.isLine_append, isLine_bitList, and_true]
    decide
  case table t => exact isLine_modifierLine _ (h t.opcode (by simp)) _
  case tooWide t =>
    simp only [Text.isLine_append, isLine_spaceText, and_true]
    decide
  case positions t =>
    have hlist : IsLine (String.intercalate " "
        (t.positions.reverse.map toString)) := by
      refine Text.isLine_intercalate (by decide) fun s hs => ?_
      obtain ⟨n, -, rfl⟩ := List.mem_map.1 hs
      exact hnumber n
    simp only [Text.isLine_append, hlist, and_true]
    decide
  case row t e =>
    simp only [Text.isLine_append, isLine_label, h e.2 (by simp), and_true]
    decide
  case decoded t =>
    simp only [Text.isLine_append, hnumber, isLine_spaceText, and_true]
    cases t.aborted <;> decide
  case notEnumerated s =>
    rw [Text.isLine_append]
    exact ⟨isLine_modifierLine _ (h s.opcode (by simp)) _, by decide⟩
  case skipped s =>
    simp only [Text.isLine_append, hnumber, h s.error.message (by simp),
      h s.text (by simp), and_true]
    decide
  all_goals decide

/-- What the lines of a table take is in the table. -/
lemma DecodeTable.texts_subset {t : DecodeTable} {l : PlainLine}
    (hl : l ∈ t.layout) :
    l.texts ⊆ t.opcode :: t.entries.entries.map (·.2) := by
  rw [layout] at hl
  rcases List.mem_cons.1 hl with rfl | hl
  · simp [PlainLine.texts]
  · split at hl
    · obtain rfl := List.mem_singleton.1 hl
      simp [PlainLine.texts]
    · simp only [List.cons_append, List.mem_cons, List.mem_append,
        List.mem_map, List.not_mem_nil, or_false] at hl
      rcases hl with rfl | ⟨e, he, rfl⟩ | rfl
      · simp [PlainLine.texts]
      · intro x hx
        obtain rfl := List.mem_singleton.1 hx
        exact List.mem_cons_of_mem _ (List.mem_map_of_mem he)
      · simp [PlainLine.texts]

/-- What the lines of what was looked for take is in the report. -/
lemma Report.texts_findingLayout_subset {r : Report} {l : PlainLine}
    (hl : l ∈ r.findingLayout) : l.texts ⊆ r.texts := by
  intro x hx
  rw [findingLayout] at hl
  cases hg : r.goal with
  | opcodes =>
      rw [hg] at hl
      simp only [List.cons_append, List.mem_cons, List.mem_append,
        List.mem_map, List.not_mem_nil, or_false] at hl
      rcases hl with rfl | ⟨c, hc, rfl⟩ | rfl
      · cases hx
      · simp only [PlainLine.texts, List.mem_cons, List.not_mem_nil,
          or_false] at hx
        simp only [texts, List.mem_append, List.mem_flatMap]
        exact .inl (.inl (.inl (.inr ⟨c, hc, by simpa using hx⟩)))
      · cases hx
  | modifiers =>
      rw [hg] at hl
      rcases List.mem_append.1 hl with hl | hl
      · obtain ⟨t, ht, hl⟩ := List.mem_flatMap.1 hl
        have hmem := DecodeTable.texts_subset hl hx
        simp only [texts, List.mem_append, List.mem_flatMap]
        exact .inl (.inr ⟨t, ht, hmem⟩)
      · obtain ⟨s, hs, rfl⟩ := List.mem_map.1 hl
        obtain rfl := List.mem_singleton.1 hx
        simp only [texts, List.mem_append, List.mem_flatMap]
        exact .inl (.inl (.inl (.inl ⟨s, List.mem_of_mem_filter hs,
          by simp⟩)))

/-- What a line takes from a report is in it. -/
lemma Report.texts_subset {r : Report} {l : PlainLine} (hl : l ∈ r.layout) :
    l.texts ⊆ r.texts := by
  intro x hx
  simp only [layout, List.mem_append] at hl
  rcases hl with (((hl | hl) | hl) | hl) | hl
  · simp only [List.mem_cons, List.not_mem_nil, or_false] at hl
    rcases hl with rfl | rfl | rfl <;> cases hx
  · obtain ⟨s, hs, hl⟩ := List.mem_flatMap.1 hl
    simp only [List.mem_cons, List.not_mem_nil, or_false] at hl
    simp only [texts, List.mem_append, List.mem_flatMap]
    refine .inl (.inl (.inl (.inl ⟨s, hs, ?_⟩)))
    rcases hl with rfl | rfl <;> simp_all [PlainLine.texts]
  · obtain rfl := List.mem_singleton.1 hl
    cases hx
  · exact texts_findingLayout_subset hl hx
  · split at hl
    · cases hl
    · simp only [List.mem_cons, List.mem_map] at hl
      rcases hl with rfl | rfl | ⟨s, hs, rfl⟩
      · cases hx
      · cases hx
      · simp only [PlainLine.texts, List.mem_cons, List.not_mem_nil,
          or_false] at hx
        simp only [texts, List.mem_append, List.mem_flatMap]
        exact .inr ⟨s, hs, by simpa [or_comm] using hx⟩

/-! ### Lines with modifier bits -/

namespace Report

/-- The sweeps ascend by their lines. Those with modifier bits are the entries
of the field map, and there are tables for those of them that were not cut
short. -/
structure Divided (r : Report) : Prop where
  ascending : r.sweeps.Pairwise fun a b => a.line < b.line
  entries : r.fields.modifierBits.entries =
    (r.sweeps.filter fun s => .modifier ∈ s.classes).map fun s =>
      (s.line, ⟨s.opcode, s.encoding, s.classes.idxsOf .modifier⟩)
  tables : r.tables.map (·.line) =
    if r.goal = .modifiers then
      (r.sweeps.filter fun s => .modifier ∈ s.classes ∧ !s.aborted).map
        (·.line)
    else []

variable {r : Report}

/-- No two sweeps are of one line. -/
lemma Divided.eq_of_line (h : r.Divided) {s t : SweepRecord}
    (hs : s ∈ r.sweeps) (ht : t ∈ r.sweeps) (hline : s.line = t.line) :
    s = t := by
  have hnodup : (r.sweeps.map (·.line)).Nodup :=
    List.pairwise_map.2 (h.ascending.imp Nat.ne_of_lt)
  exact List.inj_on_of_nodup_map hnodup hs ht hline

/-- A line with modifier bits has a table unless its sweep was cut short. -/
lemma Divided.any_line_iff (h : r.Divided) (hg : r.goal = .modifiers)
    {s : SweepRecord} (hs : s ∈ r.sweeps) (hm : .modifier ∈ s.classes) :
    r.tables.any (·.line = s.line) = true ↔ s.aborted = false := by
  have hmem : r.tables.any (·.line = s.line) = true ↔
      s.line ∈ r.tables.map (·.line) := by
    simp
  rw [hmem, h.tables, if_pos hg, List.mem_map]
  constructor
  · rintro ⟨t, ht, hline⟩
    obtain ⟨ht, hfilter⟩ := List.mem_filter.1 ht
    obtain rfl := h.eq_of_line ht hs hline
    simpa [hm] using hfilter
  · exact fun ha => ⟨s, List.mem_filter.2 ⟨hs, by simp [hm, ha]⟩, rfl⟩

/-- The lines without a table are those of the sweeps that were cut short. -/
lemma Divided.untabledLines_eq (h : r.Divided) (hg : r.goal = .modifiers) :
    r.untabledLines =
      (r.unfinished.map PlainLine.notEnumerated).map PlainLine.text := by
  rw [untabledLines, h.entries, List.filterMap_map, List.filterMap_filter,
    unfinished, List.map_map, ← List.filterMap_eq_filter, List.map_filterMap]
  refine List.filterMap_congr fun s hs => ?_
  dsimp only [Function.comp_apply]
  by_cases hm : .modifier ∈ s.classes
  · have hany : r.tables.any (·.line = s.line) = !s.aborted := by
      rw [Bool.eq_iff_iff, h.any_line_iff hg hs hm]
      simp
    rw [hany]
    cases ha : s.aborted with
    | false => simp [ha, Option.guard]
    | true =>
        rw [if_pos (by simpa using hm), if_neg (by simp), Option.guard,
          if_pos (by simp [hm, ha])]
        rfl
  · simp [hm, Option.guard]

/-- The lines of a table are laid out as they are written. -/
lemma plainLines_table (t : DecodeTable) :
    t.plainLines = t.layout.map PlainLine.text := by
  rw [DecodeTable.plainLines, DecodeTable.layout]
  cases t.skipped with
  | true => rfl
  | false => 
      simp only [Bool.false_eq_true, if_false, List.map_cons, List.map_append,
        List.map_map, List.map_nil]
      rfl

/-- The lines of a plain text are those of the layout. -/
lemma Divided.plainLines_eq (h : r.Divided) :
    r.plainLines = r.layout.map PlainLine.text := by
  have hsweeps : r.sweeps.flatMap SweepRecord.plainLines =
      (r.sweeps.flatMap fun s => [.sweep s, .bits s]).map
        PlainLine.text := by
    rw [List.map_flatMap]
    rfl
  have hfinding : r.findingLines = r.findingLayout.map PlainLine.text := by
    rw [findingLines, findingLayout]
    cases hg : r.goal with
    | opcodes =>
        simp only [opcodeLines, List.map_cons, List.map_append, List.map_map,
          List.map_nil]
        rfl
    | modifiers =>
        dsimp only
        rw [h.untabledLines_eq hg, List.map_append, List.map_flatMap]
        congr 1
        exact List.flatMap_congr fun t _ => plainLines_table t
  have hskipped : r.skippedLines = (if r.skipped.isEmpty then []
      else .empty :: .skippedTitle :: r.skipped.map
        PlainLine.skipped).map PlainLine.text := by
    rw [skippedLines]
    split
    · rfl
    · rw [List.map_cons, List.map_cons, List.map_map]
      rfl
  rw [plainLines, layout, sweepLines, hsweeps, hfinding, hskipped]
  simp only [List.map_append]
  rfl

/-- The lines with modifier bits that a table tells. -/
lemma filterMap_modifierLine?_table (t : DecodeTable) :
    t.layout.filterMap PlainLine.modifierLine? = [t.line] := by
  rw [DecodeTable.layout]
  split
  · rfl
  · simp [PlainLine.modifierLine?, List.filterMap_append,
      List.filterMap_cons]

/-- If no line has a line feed, the plain text is cut into its lines. -/
lemma splitOn_plain {r : Report} (h : ∀ line ∈ r.plainLines, IsLine line) :
    r.plain.toList.splitOn '\n' = r.plainLines.map String.toList ++ [[]] := by
  have hfeed : ∀ line ∈ r.plainLines.map String.toList, '\n' ∉ line := by
    intro line hline
    obtain ⟨s, hs, rfl⟩ := List.mem_map.1 hline
    exact h s hs
  rw [← Text.splitOn_flatMap_ended hfeed, plain, String.toList_join,
    List.flatMap_map, List.flatMap_map]
  simp only [String.toList_append]
  rfl

/-- Only what was looked for tells modifier bits. -/
lemma filterMap_modifierLine?_layout (r : Report) :
    r.layout.filterMap PlainLine.modifierLine? =
      r.findingLayout.filterMap PlainLine.modifierLine? := by
  have hsweeps : (r.sweeps.flatMap fun s =>
      [PlainLine.sweep s, .bits s]).filterMap PlainLine.modifierLine? =
        [] := by
    simp [List.filterMap_flatMap, List.filterMap_cons,
      PlainLine.modifierLine?]
  have hskipped : (if r.skipped.isEmpty then []
      else .empty :: .skippedTitle :: r.skipped.map
        PlainLine.skipped).filterMap PlainLine.modifierLine? = [] := by
    split <;> simp [List.filterMap_eq_nil_iff, PlainLine.modifierLine?]
  rw [layout]
  simp only [List.filterMap_append, hsweeps, hskipped]
  simp [PlainLine.modifierLine?, List.filterMap_cons]

/-- Those that tables tell, and those that stand for themselves. -/
lemma filterMap_modifierLine?_findingLayout (r : Report) :
    r.findingLayout.filterMap PlainLine.modifierLine? =
      if r.goal = .modifiers then
        r.tables.map (·.line) ++ r.unfinished.map (·.line)
      else [] := by
  rw [findingLayout]
  cases r.goal with
  | opcodes =>
      simp [List.filterMap_append, List.filterMap_cons, List.filterMap_map,
        PlainLine.modifierLine?, Function.comp_def]
  | modifiers =>
      dsimp only
      rw [if_pos rfl, List.filterMap_append, List.filterMap_flatMap,
        List.filterMap_map]
      congr 1
      · simp only [filterMap_modifierLine?_table]
        exact List.map_eq_flatMap.symm
      · exact congrFun List.filterMap_eq_map r.unfinished

/-- Each line with modifier bits is told by one line of the text. -/
lemma Divided.perm_modifierLines (h : r.Divided) :
    (r.layout.filterMap PlainLine.modifierLine?).Perm
      (if r.goal = .modifiers then r.fields.modifierBits.keys else []) := by
  rw [filterMap_modifierLine?_layout, filterMap_modifierLine?_findingLayout,
    h.tables]
  by_cases hg : r.goal = .modifiers
  · have hfinished : (r.sweeps.filter fun s => .modifier ∈ s.classes ∧
        !s.aborted) = (r.sweeps.filter fun s => .modifier ∈ s.classes).filter
          fun s => !s.aborted := by
      rw [List.filter_filter]
      exact List.filter_congr fun s _ => by simp [Bool.and_comm]
    have hunfinished : r.unfinished = (r.sweeps.filter fun s =>
        .modifier ∈ s.classes).filter fun s => !!s.aborted := by
      rw [List.filter_filter, unfinished]
      exact List.filter_congr fun s _ => by simp
    rw [if_pos hg, if_pos hg, if_pos hg, hfinished, hunfinished,
      ← List.map_append, SortedMap.keys, h.entries, List.map_map]
    exact (List.filter_append_perm _ _).map _
  · rw [if_neg hg, if_neg hg]

end Report

end BitProbe

import BitProbe.Proofs.DecodeTable.Rendering
import BitProbe.Proofs.Listing.OneLine
import BitProbe.Proofs.Report.Layout
import BitProbe.Proofs.Survey.Coherence
import BitProbe.Proofs.Survey.Orders

/-!
The plain text of a survey.

Nothing that a survey keeps has a line feed, whatever bytes the listing was
read from, in whatever order questions were asked and whatever the oracle has
answered. So the plain text has exactly the lines that it is laid out in.

* `Survey.Examination.OneLine`, `Survey.oneLine_examineIn`: nothing that an
  examination keeps has a line feed;
* `Survey.isLine_of_mem_texts`: nor has any text in the report;
* `Survey.divided_report`: tables and sweeps that were cut short share the
  lines with modifier bits;
* `Survey.plain_layout_runIn`: the lines of the plain text.
-/

namespace BitProbe

open Text (IsLine)

/-! ### Texts of examinations -/

namespace Survey

/-- Nothing that an examination keeps has a line feed. -/
structure Examination.OneLine (x : Examination) : Prop where
  text : IsLine x.entry.text
  opcode : IsLine x.entry.instruction.opcode
  changes : ∀ c ∈ x.sweep.opcodeChanges, IsLine c.new
  rows : ∀ t ∈ x.table, ∀ e ∈ t.entries.entries, IsLine e.2

/-- The tokens that count are on one line. -/
lemma isLine_of_mem_tokens {c : Criteria} {output : String}
    {tokens : List String} (h : c.tokens output = some tokens) :
    ∀ t ∈ tokens, IsLine t :=
  fun t ht => (isWord_of_mem_selectedTokens
    (Criteria.tokens_eq_some_iff.1 h).1 t ht).not_mem_lineFeed

/-- A new mnemonic is on one line, whatever the oracle has answered. -/
lemma isLine_of_ofAnswer {c : Criteria} {baseline : Instruction}
    {a : Option Answer} {new : String}
    (h : Verdict.ofAnswer c baseline a = .opcode new) : IsLine new := by
  obtain ⟨output, tokens, mutant, -, htokens, hread, rfl, -⟩ :=
    Verdict.exists_of_ofAnswer_opcode h
  exact Instruction.isLine_opcode_of_ofTokens
    (isLine_of_mem_tokens htokens) hread

/-- So is a row of a table. -/
lemma isLine_of_rendering {c : Criteria} {a : Option Answer} {text : String}
    (h : DecodeTable.rendering c a = some text) : IsLine text := by
  cases a with
  | none => cases h
  | some a =>
      obtain ⟨output, tokens, -, htokens, rfl⟩ :=
        DecodeTable.rendering_eq_some_iff.1 h
      exact Text.isLine_intercalate (by decide) (isLine_of_mem_tokens htokens)

variable {σ : Type}

/-- Nothing that is kept of an entry on one line has a line feed. -/
theorem oneLine_examineIn (p : Plan) (g : Goal) (o : Oracle σ)
    (orders : Examination.Orders) {e : Listing.Entry} (s : σ)
    (he : IsLine e.text ∧ IsLine e.instruction.opcode) :
    (examineIn p g o orders e s).1.OneLine where
  text := he.1
  opcode := he.2
  changes := by
    intro c hc
    obtain ⟨hnew, -⟩ := (Sweep.mem_opcodeChanges_ofVerdicts _ _ _).1 hc
    obtain ⟨a, -, ha⟩ := List.mem_map.1 (List.mem_of_getElem? hnew)
    exact isLine_of_ofAnswer ha
  rows := by
    intro t ht d hd
    have htable : (enumerateIn p g o orders.table e.line
        (Sweep.runIn p.criteria o orders.sweep e.instruction s).1
        (Sweep.runIn p.criteria o orders.sweep e.instruction s).2).1 =
          some t := ht
    rw [enumerateIn] at htable
    split at htable
    · obtain rfl := Option.some.inj htable
      obtain ⟨a, ha⟩ := DecodeTable.rendering_of_find?_runIn _ _ _ _ _ _ _ _
        _ (SortedMap.find?_of_mem hd)
      exact isLine_of_rendering ha
    · cases htable

/-! ### The report that examinations add up to -/

section Sum

variable {p : Plan} {g : Goal} {xs : List Examination}
  {skipped : List Listing.Skipped} (hs : ∀ x ∈ xs, x.Regular p g)

include hs

/-- Lines with modifier bits are kept in the order of the sweeps. -/
lemma entries_modifierBits_report
    (hlines : xs.Pairwise fun x y => x.entry.line < y.entry.line) :
    (report p.architecture g xs skipped).fields.modifierBits.entries =
      ((report p.architecture g xs skipped).sweeps.filter fun s =>
        .modifier ∈ s.classes).map fun s =>
          (s.line, ⟨s.opcode, s.encoding, s.classes.idxsOf .modifier⟩) := by
  have hpairs : (xs.map fun x => (x.entry.line, x.sweep)).Pairwise
      fun a b => a.1 < b.1 :=
    List.pairwise_map.2 hlines
  rw [fields_report, FieldMap.entries_recordAll hpairs, List.filterMap_map,
    report, List.filter_map, List.map_map, ← List.filterMap_eq_filter,
    List.map_filterMap]
  refine List.filterMap_congr fun x hx => ?_
  have hempty := isEmpty_modifierBits (hs x hx).sweep
  rw [idxsOf_ne_nil_iff] at hempty
  by_cases hm : .modifier ∈ x.sweep.classes
  · have hne := hempty.2 hm
    simp [FieldMap.shown, Option.guard, SweepRecord.ofSweep, hm, hne,
      (hs x hx).sweep.modifierBits]
  · have hne : x.sweep.modifierBits.isEmpty = true := by
      by_contra h
      exact hm (hempty.1 (Bool.eq_false_iff.2 h))
    simp [FieldMap.shown, Option.guard, SweepRecord.ofSweep, hm, hne]

/-- A change of mnemonic is from that of an entry. -/
lemma exists_of_mem_opcodeChanges {c : OpcodeChange}
    (hc : c ∈ (report p.architecture g xs skipped).fields.opcodeChanges) :
    ∃ x ∈ xs, c ∈ x.sweep.opcodeChanges ∧
      c.old = x.entry.instruction.opcode := by
  rw [fields_report, FieldMap.opcodeChanges_recordAll, List.flatMap_map]
    at hc
  obtain ⟨x, hx, hc⟩ := List.mem_flatMap.1 hc
  have hpair : (c.old, c.bit) ∈
      x.sweep.opcodeChanges.map fun d => (d.old, d.bit) :=
    List.mem_map_of_mem hc
  rw [(hs x hx).sweep.changes, (hs x hx).baseline] at hpair
  obtain ⟨b, -, hb⟩ := List.mem_map.1 hpair
  exact ⟨x, hx, hc, (congrArg Prod.fst hb).symm⟩

/-- No text in a report has a line feed, if none was kept. -/
lemma isLine_of_mem_texts
    (hlines : xs.Pairwise fun x y => x.entry.line < y.entry.line)
    (hone : ∀ x ∈ xs, x.OneLine)
    (hskipped : ∀ s ∈ skipped, IsLine s.text ∧ IsLine s.error.message)
    {t : String} (ht : t ∈ (report p.architecture g xs skipped).texts) :
    IsLine t := by
  have hopcode : ∀ x ∈ xs, IsLine x.sweep.baseline.opcode := fun x hx =>
    (hs x hx).baseline ▸ (hone x hx).opcode
  rw [Report.texts, List.mem_append, List.mem_append, List.mem_append,
    List.mem_append, entries_modifierBits_report hs hlines] at ht
  rcases ht with (((ht | ht) | ht) | ht) | ht
  · obtain ⟨s, hmem, ht⟩ := List.mem_flatMap.1 ht
    obtain ⟨x, hx, rfl⟩ := List.mem_map.1 hmem
    simp only [SweepRecord.ofSweep, List.mem_cons, List.not_mem_nil,
      or_false] at ht
    rcases ht with rfl | rfl | rfl
    · exact (hone x hx).text
    · exact hopcode x hx
    · exact isLine_bitmapOf _
  · obtain ⟨c, hc, ht⟩ := List.mem_flatMap.1 ht
    obtain ⟨x, hx, hc, hold⟩ := exists_of_mem_opcodeChanges hs hc
    simp only [List.mem_cons, List.not_mem_nil, or_false] at ht
    rcases ht with rfl | rfl
    · exact hold ▸ (hone x hx).opcode
    · exact (hone x hx).changes c hc
  · obtain ⟨e, he, rfl⟩ := List.mem_map.1 ht
    obtain ⟨s, hmem, rfl⟩ := List.mem_map.1 he
    obtain ⟨x, hx, rfl⟩ := List.mem_map.1 (List.mem_of_mem_filter hmem)
    exact hopcode x hx
  · obtain ⟨t, hmem, ht⟩ := List.mem_flatMap.1 ht
    obtain ⟨x, hx, htable⟩ := List.mem_filterMap.1 hmem
    rcases List.mem_cons.1 ht with rfl | ht
    · rw [((hs x hx).head_of_table htable).2.1]
      exact (hone x hx).opcode
    · obtain ⟨e, he, rfl⟩ := List.mem_map.1 ht
      exact (hone x hx).rows t htable e he
  · obtain ⟨s, hmem, ht⟩ := List.mem_flatMap.1 ht
    simp only [List.mem_cons, List.not_mem_nil, or_false] at ht
    rcases ht with rfl | rfl
    · exact (hskipped s hmem).1
    · exact (hskipped s hmem).2

end Sum

/-- The sweeps of a report ascend like their entries. -/
lemma pairwise_line_sweeps (a : Architecture) (g : Goal)
    {xs : List Examination} (skipped : List Listing.Skipped)
    (hlines : xs.Pairwise fun x y => x.entry.line < y.entry.line) :
    (report a g xs skipped).sweeps.Pairwise fun s t => s.line < t.line :=
  List.pairwise_map.2 hlines

/-- The report that examinations add up to is divided. -/
lemma divided_report {p : Plan} {g : Goal} {xs : List Examination}
    (skipped : List Listing.Skipped) (hs : ∀ x ∈ xs, x.Regular p g)
    (hlines : xs.Pairwise fun x y => x.entry.line < y.entry.line) :
    (report p.architecture g xs skipped).Divided where
  ascending := pairwise_line_sweeps _ _ _ hlines
  entries := entries_modifierBits_report hs hlines
  tables := by
    have htables := congrArg (List.map Prod.fst)
      (@tables_report p g xs skipped hs)
    rw [List.map_map] at htables
    refine htables.trans ?_
    have hgoal : (report p.architecture g xs skipped).goal = g := rfl
    rw [hgoal]
    split
    · rw [List.map_map]
      rfl
    · rfl

/-- Data never breaks the lines of a plain text. Whatever bytes a file holds,
in whatever order questions are asked and whatever the oracle answers, no text
in the report has a line feed; what the line feeds of the plain text end are
the lines of its layout, in order; sweeps ascend by their lines; and if
modifiers are looked for, each line with modifier bits is told by one line of
the text, at the head of a table or as not enumerated. -/
theorem plain_layout_runIn {σ : Type} (p : Plan) (g : Goal) (o : Oracle σ)
    (orders : Nat → Examination.Orders) (maxLines : Nat) (bytes : List UInt8)
    (s : σ) :
    let r := (runIn p g o orders (Listing.ofBytes maxLines bytes) s).1
    (∀ t ∈ r.texts, '\n' ∉ t.toList) ∧
    (∃ text, r.render .plain = .ok text ∧
      text.toList.splitOn '\n' =
        r.layout.map (fun l => l.text.toList) ++ [[]]) ∧
    r.sweeps.Pairwise (fun a b => a.line < b.line) ∧
    (r.layout.filterMap PlainLine.modifierLine?).Perm
      (if g = .modifiers then r.fields.modifierBits.keys else []) := by
  intro r
  set l := Listing.ofBytes maxLines bytes with hl
  set xs := (examineAllIn p g o orders l.entries s).1 with hxs
  have hr : r = report p.architecture g xs l.skipped := rfl
  have hentries : xs.map (·.entry) = l.entries :=
    map_entry_examineAllIn orders l.entries s
  have hlines : xs.Pairwise fun x y => x.entry.line < y.entry.line := by
    have hasc := Listing.pairwise_line_entries maxLines bytes
    rw [← hl, ← hentries, List.pairwise_map] at hasc
    exact hasc
  have hregular : ∀ x ∈ xs, x.Regular p g := by
    intro x hx
    obtain ⟨e, s, rfl⟩ := exists_of_mem_examineAllIn hx
    exact regular_examineIn _ e s
  have hone : ∀ x ∈ xs, x.OneLine := by
    intro x hx
    have he : x.entry ∈ l.entries := by
      rw [← hentries]
      exact List.mem_map_of_mem hx
    obtain ⟨e, s, rfl⟩ := exists_of_mem_examineAllIn hx
    exact oneLine_examineIn p g o _ s (Listing.isLine_of_mem_entries he)
  have hdivided : r.Divided := divided_report l.skipped hregular hlines
  have htexts : ∀ t ∈ r.texts, IsLine t := fun t ht =>
    isLine_of_mem_texts hregular hlines hone
      (fun _ => Listing.isLine_of_mem_skipped) ht
  refine ⟨htexts, ⟨r.plain, rfl, ?_⟩, hdivided.ascending,
    hdivided.perm_modifierLines⟩
  rw [Report.splitOn_plain, hdivided.plainLines_eq, List.map_map]
  · rfl
  · intro line hline
    rw [hdivided.plainLines_eq] at hline
    obtain ⟨k, hk, rfl⟩ := List.mem_map.1 hline
    exact PlainLine.isLine_text fun t ht =>
      htexts t (Report.texts_subset hk ht)

end Survey

end BitProbe

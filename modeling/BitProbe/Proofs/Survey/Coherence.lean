import BitProbe.Proofs.FieldMap.Collecting
import BitProbe.Proofs.Listing.Replacement
import BitProbe.Proofs.Survey.Examinations

/-!
The parts of a report agree.

A report says the same thing several times: as classes of bits in the sweeps,
as bits and changes of mnemonic in the fields, and as positions in the decode
tables. Whatever the oracle answers, also if it answers differently from one
question to the next, these are all about the same bits.

* `Report.Coherent`: how the parts of a report on a listing agree;
* `Survey.coherent_report`: examinations that are as they should be add up to
  a coherent report, if no two of them stand on one line;
* `Survey.coherent_run`: the report on every file is coherent.
-/

namespace BitProbe

/-- The parts of a report on a listing agree with the listing and with one
another. -/
structure Report.Coherent (p : Survey.Plan) (g : Goal) (l : Listing)
    (r : Report) : Prop where
  architecture : r.architecture = p.architecture
  goal : r.goal = g
  /-- There is one sweep for each entry, in their order. -/
  sweeps : r.sweeps.map (fun s => (s.line, s.text, s.opcode, s.encoding)) =
    l.entries.map fun e =>
      (e.line, e.text, e.instruction.opcode, e.instruction.encoding)
  length_classes : ∀ s ∈ r.sweeps, s.classes.length = 64
  length_bitmap : ∀ s ∈ r.sweeps, s.bitmap.length = 64
  /-- The letter of bit `b` stands at place `63 - b`. -/
  bitmap : ∀ s ∈ r.sweeps, ∀ b < 64,
    s.bitmap.toList[63 - b]? = s.classes[b]?.map BitClass.letter
  /-- There is one change for each bit of the opcode that a sweep has shown,
  from the mnemonic of the sweep, in the order of the sweeps and then of the
  bits. -/
  changes : r.fields.opcodeChanges.map (fun c => (c.old, c.bit)) =
    r.sweeps.flatMap fun s =>
      (s.classes.idxsOf .opcode).map fun b => (s.opcode, b)
  changed : ∀ c ∈ r.fields.opcodeChanges,
    p.criteria.aliases.equivalent c.new c.old = false
  opcodeBits : ∀ b, b ∈ r.fields.opcodeBits ↔
    ∃ s ∈ r.sweeps, s.classes[b]? = some .opcode
  opcodeBits_changes : ∀ b, b ∈ r.fields.opcodeBits ↔
    ∃ c ∈ r.fields.opcodeChanges, c.bit = b
  /-- A line has modifier bits if its sweep has shown some, and then these in
  ascending order. -/
  modifierBits : ∀ line bits, r.fields.modifierBitsOf line = some bits ↔
    ∃ s ∈ r.sweeps, s.line = line ∧ .modifier ∈ s.classes ∧
      bits = ⟨s.opcode, s.encoding, s.classes.idxsOf .modifier⟩
  /-- If modifiers are looked for, there is one table for each sweep that has
  shown some and was not cut short, about these bits; otherwise there is
  none. -/
  tables :
    r.tables.map (fun t => (t.line, t.opcode, t.encoding, t.positions)) =
      if g = .modifiers then
        (r.sweeps.filter fun s => .modifier ∈ s.classes ∧ !s.aborted).map
          fun s => (s.line, s.opcode, s.encoding, s.classes.idxsOf .modifier)
      else []
  table : ∀ t ∈ r.tables, t.Fits p.maxBits
  skipped : r.skipped = l.skipped

/-! ### Letters -/

lemma length_bitmapOf (classes : List BitClass) :
    (bitmapOf classes).length = classes.length := by
  rw [bitmapOf, String.length_ofList, List.length_map, List.length_reverse]

/-- The letters of classes start from the last class. -/
lemma getElem?_bitmapOf {classes : List BitClass} {n b : Nat}
    (hlen : classes.length = n) (hb : b < n) :
    (bitmapOf classes).toList[n - 1 - b]? =
      classes[b]?.map BitClass.letter := by
  rw [bitmapOf, String.toList_ofList, List.getElem?_map,
    List.getElem?_reverse (by omega),
    show classes.length - 1 - (n - 1 - b) = b by omega]

namespace Survey

/-! ### What examinations add up to -/

/-- The fields of a report are those that the sweeps have shown. -/
lemma fields_report (a : Architecture) (g : Goal) (xs : List Examination)
    (skipped : List Listing.Skipped) :
    (report a g xs skipped).fields =
      (∅ : FieldMap).recordAll (xs.map fun x => (x.entry.line, x.sweep)) := by
  rw [FieldMap.recordAll, List.foldl_map]
  rfl

section Sum

variable {p : Plan} {g : Goal} {xs : List Examination}
  {skipped : List Listing.Skipped}

section Regular

variable (hs : ∀ x ∈ xs, x.Regular p g)

include hs

lemma sweeps_report :
    (report p.architecture g xs skipped).sweeps.map
        (fun s => (s.line, s.text, s.opcode, s.encoding)) =
      (xs.map (·.entry)).map fun e =>
        (e.line, e.text, e.instruction.opcode, e.instruction.encoding) := by
  rw [report, List.map_map, List.map_map]
  refine List.map_congr_left fun x hx => ?_
  simp only [Function.comp_apply, SweepRecord.ofSweep, (hs x hx).baseline]

lemma tables_report :
    (report p.architecture g xs skipped).tables.map
        (fun t => (t.line, t.opcode, t.encoding, t.positions)) =
      if g = .modifiers then
        ((report p.architecture g xs skipped).sweeps.filter fun s =>
          .modifier ∈ s.classes ∧ !s.aborted).map fun s =>
            (s.line, s.opcode, s.encoding, s.classes.idxsOf .modifier)
      else [] := by
  have hhead : (xs.filterMap (·.table)).map
      (fun t => (t.line, t.opcode, t.encoding, t.positions)) =
        (xs.filter fun x => enumerates g x.sweep).map fun x =>
          (x.entry.line, x.sweep.baseline.opcode, x.sweep.baseline.encoding,
            x.sweep.classes.idxsOf .modifier) := by
    rw [List.map_filterMap, ← List.filterMap_eq_filter, List.map_filterMap]
    refine List.filterMap_congr fun x hx => ?_
    rw [(hs x hx).head]
    by_cases he : enumerates g x.sweep <;>
      simp [he, Option.guard, (hs x hx).baseline]
  simp only [report, List.filter_map, List.map_map]
  rw [hhead]
  by_cases hg : g = .modifiers
  · rw [if_pos hg]
    simp only [Function.comp_def, SweepRecord.ofSweep]
    congr 1
    refine List.filter_congr fun x _ => ?_
    simp [enumerates, hg, idxsOf_ne_nil_iff]
  · rw [if_neg hg, List.map_eq_nil_iff, List.filter_eq_nil_iff]
    intro x _
    simp [enumerates, hg]

end Regular

section Sound

variable (hs : ∀ x ∈ xs, x.Sound p g)

include hs

lemma changes_report :
    (report p.architecture g xs skipped).fields.opcodeChanges.map
        (fun c => (c.old, c.bit)) =
      (report p.architecture g xs skipped).sweeps.flatMap fun s =>
        (s.classes.idxsOf .opcode).map fun b => (s.opcode, b) := by
  rw [fields_report, FieldMap.opcodeChanges_recordAll]
  simp only [report, List.flatMap_map, List.map_append, List.map_flatMap]
  exact List.flatMap_congr fun x hx => (hs x hx).sweep.changes

lemma changed_report {c : OpcodeChange}
    (hc : c ∈ (report p.architecture g xs skipped).fields.opcodeChanges) :
    p.criteria.aliases.equivalent c.new c.old = false := by
  rw [fields_report, FieldMap.opcodeChanges_recordAll] at hc
  obtain ⟨r, hr, hc⟩ := List.mem_flatMap.1 hc
  obtain ⟨x, hx, rfl⟩ := List.mem_map.1 hr
  exact (hs x hx).sweep.changed c hc

lemma opcodeBits_report (b : Nat) :
    b ∈ (report p.architecture g xs skipped).fields.opcodeBits ↔
      ∃ s ∈ (report p.architecture g xs skipped).sweeps,
        s.classes[b]? = some .opcode := by
  rw [fields_report, FieldMap.mem_opcodeBits_recordAll]
  simp only [report, List.mem_map, exists_exists_and_eq_and,
    SweepRecord.ofSweep, ← mem_idxsOf_iff]
  have hempty : b ∉ (∅ : FieldMap).opcodeBits := SortedSet.not_mem_empty b
  rw [or_iff_right hempty]
  refine exists_congr fun x => and_congr_right fun hx => ?_
  rw [← (hs x hx).sweep.opcodeBits]
  rfl

/-- The bits of the opcode are those of the changes of mnemonic. -/
lemma opcodeBits_report_changes (b : Nat) :
    b ∈ (report p.architecture g xs skipped).fields.opcodeBits ↔
      ∃ c ∈ (report p.architecture g xs skipped).fields.opcodeChanges,
        c.bit = b := by
  have hpair : (∃ c ∈ (report p.architecture g xs
      skipped).fields.opcodeChanges, c.bit = b) ↔
        ∃ d ∈ (report p.architecture g xs skipped).fields.opcodeChanges.map
          (fun c => (c.old, c.bit)), d.2 = b := by
    simp only [List.mem_map, exists_exists_and_eq_and]
  rw [opcodeBits_report hs, hpair, changes_report hs]
  simp only [List.mem_flatMap, List.mem_map]
  constructor
  · rintro ⟨s, hmem, hb⟩
    exact ⟨(s.opcode, b), ⟨s, hmem, b, mem_idxsOf_iff.2 hb, rfl⟩, rfl⟩
  · rintro ⟨d, ⟨s, hmem, c, hc, rfl⟩, rfl⟩
    exact ⟨s, hmem, mem_idxsOf_iff.1 hc⟩

lemma modifierBits_report (hlines : (xs.map (·.entry.line)).Nodup)
    (line : Nat) (bits : ModifierBits) :
    (report p.architecture g xs skipped).fields.modifierBitsOf line =
        some bits ↔
      ∃ s ∈ (report p.architecture g xs skipped).sweeps,
        s.line = line ∧ .modifier ∈ s.classes ∧
          bits = ⟨s.opcode, s.encoding, s.classes.idxsOf .modifier⟩ := by
  have hnd : ((xs.map fun x => (x.entry.line, x.sweep)).map
      (·.1)).Nodup := by
    rw [List.map_map]
    exact hlines
  rw [fields_report, FieldMap.modifierBitsOf_recordAll_iff hnd]
  simp only [report, List.mem_map, exists_exists_and_eq_and,
    SweepRecord.ofSweep]
  refine exists_congr fun x => and_congr_right fun hx =>
    and_congr_right fun _ => ?_
  rw [← idxsOf_ne_nil_iff, ← isEmpty_modifierBits (hs x hx).sweep,
    FieldMap.shown, (hs x hx).sweep.modifierBits]
  by_cases he : x.sweep.modifierBits.isEmpty = true <;>
    simp [he, eq_comm]

/-- Examinations that are as they should be, on distinct lines, add up to a
coherent report. -/
theorem coherent_report {l : Listing} (hentries : xs.map (·.entry) = l.entries)
    (hlines : (l.entries.map (·.line)).Nodup) :
    (report p.architecture g xs l.skipped).Coherent p g l := by
  have hregular : ∀ x ∈ xs, x.Regular p g := fun x hx => (hs x hx).regular
  have hclasses : ∀ s ∈ (report p.architecture g xs l.skipped).sweeps,
      s.classes.length = 64 ∧ s.bitmap = bitmapOf s.classes := by
    intro s hmem
    obtain ⟨x, hx, rfl⟩ := List.mem_map.1 hmem
    exact ⟨(hs x hx).sweep.length_classes, rfl⟩
  constructor
  case architecture => rfl
  case goal => rfl
  case sweeps => rw [sweeps_report hregular, hentries]
  case length_classes => exact fun s hmem => (hclasses s hmem).1
  case length_bitmap =>
    intro s hmem
    rw [(hclasses s hmem).2, length_bitmapOf, (hclasses s hmem).1]
  case bitmap =>
    intro s hmem b hb
    rw [(hclasses s hmem).2]
    exact getElem?_bitmapOf (hclasses s hmem).1 hb
  case changes => exact changes_report hs
  case changed => exact fun c hc => changed_report hs hc
  case opcodeBits => exact opcodeBits_report hs
  case opcodeBits_changes => exact opcodeBits_report_changes hs
  case modifierBits =>
    refine modifierBits_report hs ?_
    rw [← hentries, List.map_map] at hlines
    exact hlines
  case tables => exact tables_report hregular
  case table =>
    intro t ht
    obtain ⟨x, hx, hxt⟩ := List.mem_filterMap.1 ht
    exact (hs x hx).table t hxt
  case skipped => rfl

end Sound

end Sum

/-- The report on a file is coherent: for every plan and goal, whatever bytes
the file holds and however many of its lines are read, and whatever an oracle
answers that may change with every question. -/
theorem coherent_run {σ : Type} (p : Plan) (g : Goal) (o : Oracle σ)
    (maxLines : Nat) (bytes : List UInt8) (s : σ) :
    (run p g o (Listing.ofBytes maxLines bytes) s).1.Coherent p g
      (Listing.ofBytes maxLines bytes) := by
  have hlines : ((Listing.ofBytes maxLines bytes).entries.map
      (·.line)).Nodup := by
    rw [List.Nodup, List.pairwise_map]
    exact (Listing.pairwise_line_entries maxLines bytes).imp Nat.ne_of_lt
  refine coherent_report (fun x hx => ?_) ?_ hlines
  · exact sound_of_mem_examineAll hx
  · exact map_entry_examineAll p g o _ s

end Survey

end BitProbe

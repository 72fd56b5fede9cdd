import BitProbe.Proofs.Listing.Replacement
import BitProbe.Proofs.Survey.Coherence

/-!
Lines do not influence one another.

An oracle that is a function has no memory, so what a survey reports about a
line depends on this line alone. Two files that differ within one line
therefore lead to reports that agree on all others, whatever the line holds:
an instruction, something malformed, no text at all, or an instruction at
which the oracle fails.

* `Report.AgreeExcept`: reports that agree on all lines but one;
* `Survey.agreeExcept_report`: examinations that are the same but for one
  line add up to such reports;
* `Survey.ownChanges`: the changes of mnemonic that one line contributes;
* `Survey.opcodeChanges_eq_append`: they stand together in a report;
* `Survey.run_sameBut`: the reports on two files that differ within one line.
-/

namespace BitProbe

/-- Two reports agree on all lines but line `i`. -/
structure Report.AgreeExcept (i : Nat) (r r' : Report) : Prop where
  architecture : r.architecture = r'.architecture
  goal : r.goal = r'.goal
  sweeps : r.sweeps.filter (·.line ≠ i) = r'.sweeps.filter (·.line ≠ i)
  modifierBits : ∀ n, n ≠ i →
    r.fields.modifierBitsOf n = r'.fields.modifierBitsOf n
  tables : r.tables.filter (·.line ≠ i) = r'.tables.filter (·.line ≠ i)
  skipped : r.skipped.filter (·.line ≠ i) = r'.skipped.filter (·.line ≠ i)

namespace Survey

/-! ### Examinations that are the same but for one line -/

/-- The table of an examination is about the line of its entry. -/
lemma Examination.Sound.line_of_table {p : Plan} {g : Goal}
    {x : Examination} (hx : x.Sound p g) {t : DecodeTable}
    (ht : x.table = some t) : t.line = x.entry.line :=
  (hx.head_of_table ht).1

section Report

variable {p : Plan} {g : Goal} {xs xs' : List Examination}
  {skipped skipped' : List Listing.Skipped} {i : Nat}

/-- The tables about all lines but one are those of the examinations of the
other lines. -/
lemma filter_tables (hs : ∀ x ∈ xs, x.Sound p g) :
    (xs.filterMap (·.table)).filter (·.line ≠ i) =
      (xs.filter (·.entry.line ≠ i)).filterMap (·.table) :=
  Listing.filter_filterMap_ne (fun x hx _ ht => (hs x hx).line_of_table ht) i

/-- The modifier bits of a line come from the examinations of this line. -/
lemma modifierBitsOf_report_filter (a : Architecture) {n : Nat}
    (hn : n ≠ i) :
    (report a g (xs.filter (·.entry.line ≠ i))
        skipped).fields.modifierBitsOf n =
      (report a g xs skipped).fields.modifierBitsOf n := by
  rw [fields_report, fields_report, ← FieldMap.modifierBitsOf_recordAll_filter
    _ (xs.map fun x => (x.entry.line, x.sweep)) hn, List.filter_map]
  rfl

/-- Examinations that are the same but for line `i` add up to reports that
agree on all other lines. -/
theorem agreeExcept_report (hs : ∀ x ∈ xs, x.Sound p g)
    (hs' : ∀ x ∈ xs', x.Sound p g)
    (h : xs.filter (·.entry.line ≠ i) = xs'.filter (·.entry.line ≠ i))
    (hskip : skipped.filter (·.line ≠ i) = skipped'.filter (·.line ≠ i)) :
    (report p.architecture g xs skipped).AgreeExcept i
      (report p.architecture g xs' skipped') := by
  constructor
  case architecture => rfl
  case goal => rfl
  case sweeps =>
    have hsweeps : ∀ (ys : List Examination) sk,
        (report p.architecture g ys sk).sweeps.filter (·.line ≠ i) =
          (ys.filter (·.entry.line ≠ i)).map fun x =>
            .ofSweep x.entry x.sweep :=
      fun _ _ => List.filter_map
    rw [hsweeps, hsweeps, h]
  case modifierBits =>
    intro n hn
    have hbits : ∀ (ys : List Examination) sk,
        (report p.architecture g ys sk).fields.modifierBitsOf n =
          (report p.architecture g (ys.filter (·.entry.line ≠ i))
            skipped).fields.modifierBitsOf n :=
      fun _ _ => (modifierBitsOf_report_filter _ hn).symm
    rw [hbits xs, h, ← hbits xs']
  case tables =>
    simp only [report]
    rw [filter_tables hs, filter_tables hs', h]
  case skipped => exact hskip

end Report

/-! ### An oracle that is a function -/

section Pure

variable {p : Plan} {g : Goal} {f : Word → Answer} {l l' : Listing} {i : Nat}

/-- Every examination of an entry by itself is as it should be. -/
lemma sound_of_mem_map {es : List Listing.Entry} {x : Examination}
    (hx : x ∈ es.map fun e => (examine p g (Oracle.ofFunction f) e ()).1) :
    x.Sound p g := by
  obtain ⟨e, -, rfl⟩ := List.mem_map.1 hx
  exact sound_examine p g _ e ()

/-- Surveys of listings that agree on all lines but one lead to reports that
do. -/
theorem agreeExcept_run (h : l.AgreeExcept i l') :
    (run p g (Oracle.ofFunction f) l ()).1.AgreeExcept i
      (run p g (Oracle.ofFunction f) l' ()).1 := by
  rw [run_ofFunction, run_ofFunction]
  refine agreeExcept_report (fun _ => sound_of_mem_map)
    (fun _ => sound_of_mem_map) ?_ h.skipped
  rw [List.filter_map, List.filter_map]
  exact congrArg _ h.entries

end Pure

/-! ### Changes of mnemonic -/

/-- The changes of mnemonic that the sweeps of entries have shown. -/
def changesOf (p : Plan) (f : Word → Answer) (es : List Listing.Entry) :
    List OpcodeChange :=
  es.flatMap fun e =>
    (Sweep.run p.criteria (Oracle.ofFunction f) e.instruction
      ()).1.opcodeChanges

/-- The changes of mnemonic that the sweep of line `i` has shown. -/
def ownChanges (p : Plan) (f : Word → Answer) (i : Nat) (l : Listing) :
    List OpcodeChange :=
  changesOf p f (l.entries.filter (·.line = i))

lemma changesOf_append (p : Plan) (f : Word → Answer)
    (es es' : List Listing.Entry) :
    changesOf p f (es ++ es') = changesOf p f es ++ changesOf p f es' :=
  List.flatMap_append

/-- With an oracle that is a function, the changes of mnemonic in a report are
those of the entries one after another. -/
lemma opcodeChanges_run (p : Plan) (g : Goal) (f : Word → Answer)
    (l : Listing) :
    (run p g (Oracle.ofFunction f) l ()).1.fields.opcodeChanges =
      changesOf p f l.entries := by
  rw [run_ofFunction, fields_report, FieldMap.opcodeChanges_recordAll,
    List.flatMap_map, List.flatMap_map]
  rfl

/-- Entries on ascending lines are those above a line, those on it and those
below it. -/
lemma entries_eq_append {es : List Listing.Entry}
    (h : es.Pairwise fun a b => a.line < b.line) (i : Nat) :
    es = es.filter (·.line < i) ++ es.filter (·.line = i) ++
      es.filter (i < ·.line) := by
  refine Listing.eq_of_pairwise_lt h ?_ fun e => ?_
  · rw [List.pairwise_append, List.pairwise_append]
    refine ⟨⟨h.filter _, h.filter _, ?_⟩, h.filter _, ?_⟩
    · intro a ha b hb
      simp only [List.mem_filter, decide_eq_true_eq] at ha hb
      omega
    · intro a ha b hb
      simp only [List.mem_append, List.mem_filter, decide_eq_true_eq] at ha hb
      omega
  · simp only [List.mem_append, List.mem_filter, decide_eq_true_eq,
      ← and_or_left]
    exact (and_iff_left (by omega)).symm

/-- The changes that a line contributes stand together, between those of the
lines above it and those of the lines below it. -/
lemma opcodeChanges_eq_append (p : Plan) (g : Goal) (f : Word → Answer)
    {l : Listing} (h : l.entries.Pairwise fun a b => a.line < b.line)
    (i : Nat) :
    (run p g (Oracle.ofFunction f) l ()).1.fields.opcodeChanges =
      changesOf p f (l.entries.filter (·.line < i)) ++ ownChanges p f i l ++
        changesOf p f (l.entries.filter (i < ·.line)) := by
  rw [opcodeChanges_run, ownChanges, ← changesOf_append, ← changesOf_append,
    ← entries_eq_append h]

/-- Listings that agree on all lines but line `i` have the same entries on
any lines that leave `i` out. -/
lemma filter_entries_of_agreeExcept {i : Nat} {l l' : Listing}
    (h : l.AgreeExcept i l') {q : Nat → Bool} (hq : q i = false) :
    l.entries.filter (fun e => q e.line) =
      l'.entries.filter (fun e => q e.line) := by
  have hsub : ∀ es : List Listing.Entry,
      es.filter (fun e => q e.line) =
        (es.filter (·.line ≠ i)).filter fun e => q e.line := by
    intro es
    rw [List.filter_filter]
    refine List.filter_congr fun e _ => ?_
    by_cases he : e.line = i
    · simp [he, hq]
    · simp [he]
  rw [hsub l.entries, h.entries, ← hsub]

/-! ### Two files -/

/-- The lines of a file do not influence one another. If two files have
equally many line feeds and differ within line `i` only, and an oracle that
is a function answers, then every other line that is read is the same in
both: an entry, left out or blank. The two reports agree on all lines but
`i`: on the sweeps, the modifier bits, the decode tables and the lines left
out. Their changes of mnemonic are the same but for those that the sweep of
line `i` has shown, and the bits of the opcode are in each report those of
its own sweeps. Nothing is asked of what line `i` holds, or of what the oracle
answers there. -/
theorem run_sameBut (p : Plan) (g : Goal) (f : Word → Answer)
    (maxLines : Nat) {i : Nat} {bytes bytes' : List UInt8}
    (h : Listing.SameBut i bytes bytes') :
    let l := Listing.ofBytes maxLines bytes
    let l' := Listing.ofBytes maxLines bytes'
    let r := (run p g (Oracle.ofFunction f) l ()).1
    let r' := (run p g (Oracle.ofFunction f) l' ()).1
    (∀ n, n + 1 ≠ i → (Listing.linesOfBytes maxLines bytes)[n]? =
      (Listing.linesOfBytes maxLines bytes')[n]?) ∧
    l.AgreeExcept i l' ∧
    r.AgreeExcept i r' ∧
    (∃ above below,
      r.fields.opcodeChanges = above ++ ownChanges p f i l ++ below ∧
      r'.fields.opcodeChanges = above ++ ownChanges p f i l' ++ below) ∧
    (∀ b, b ∈ r.fields.opcodeBits ↔
      ∃ s ∈ r.sweeps, s.classes[b]? = some .opcode) ∧
    ∀ b, b ∈ r'.fields.opcodeBits ↔
      ∃ s ∈ r'.sweeps, s.classes[b]? = some .opcode := by
  intro l l' r r'
  have hl : l.AgreeExcept i l' := Listing.agreeExcept_ofBytes h maxLines
  have hchanges := opcodeChanges_eq_append p g f
    (Listing.pairwise_line_entries maxLines bytes) i
  have hchanges' := opcodeChanges_eq_append p g f
    (Listing.pairwise_line_entries maxLines bytes') i
  have habove := filter_entries_of_agreeExcept hl (q := fun n => n < i)
    (by simp)
  have hbelow := filter_entries_of_agreeExcept hl (q := fun n => i < n)
    (by simp)
  have hbits : ∀ k : Listing, ∀ b,
      b ∈ (run p g (Oracle.ofFunction f) k ()).1.fields.opcodeBits ↔
        ∃ s ∈ (run p g (Oracle.ofFunction f) k ()).1.sweeps,
          s.classes[b]? = some .opcode :=
    fun k b => opcodeBits_report (fun _ hx => sound_of_mem_examineAll hx) b
  refine ⟨fun n hn => Listing.getElem?_linesOfBytes_of_sameBut h maxLines hn,
    hl, agreeExcept_run hl, ⟨_, _, hchanges, ?_⟩, hbits l, hbits l'⟩
  rw [hchanges', habove, hbelow]

/-! ### A line at which the oracle fails -/

/-- An oracle that fails at words with both of the highest bits. -/
def failingAtHigh (w : Word) : Answer :=
  if w.getLsbD 63 && w.getLsbD 62 then .error (.processFailure "timeout")
  else if w.getLsbD 0 then .ok "MOV.X R0 /*0x01*/"
  else .ok "MOV R1 /*0x00*/"

/-- A plan without aliases. -/
def plainPlan : Plan :=
  ⟨.kepler, ⟨0, 3, .ofPairs []⟩, 12⟩

/-- The first line of a file. -/
def firstLine : List UInt8 :=
  "MOV R0 /*0x00*/\n".toList.map fun c => UInt8.ofNat c.toNat

/-- A second line at which the oracle fails. -/
def highLine : List UInt8 :=
  "MOV R0 /*0xe000000000000000*/".toList.map fun c => UInt8.ofNat c.toNat

/-- The rest of the file. -/
def lastLine : List UInt8 :=
  "\nMOV R0 /*0x02*/".toList.map fun c => UInt8.ofNat c.toNat

/-- The second line is no text in one file, and the oracle fails there in the
other. -/
theorem run_sameBut_second :
    let l := Listing.ofBytes 10 (firstLine ++ ([0xFF] ++ lastLine))
    let l' := Listing.ofBytes 10 (firstLine ++ (highLine ++ lastLine))
    let r := (run plainPlan .modifiers (.ofFunction failingAtHigh) l ()).1
    let r' := (run plainPlan .modifiers (.ofFunction failingAtHigh) l' ()).1
    Listing.SameBut 2 (firstLine ++ ([0xFF] ++ lastLine))
        (firstLine ++ (highLine ++ lastLine)) ∧
      l.skipped.map (fun s => (s.line, s.error)) = [(2, .invalidUtf8)] ∧
      r'.sweeps.map (fun s => (s.line, s.aborted)) =
        [(1, false), (2, true), (3, false)] ∧
      r.tables.map (·.line) = [1, 3] ∧
      r.AgreeExcept 2 r' := by
  intro l l' r r'
  have h : Listing.SameBut 2 (firstLine ++ ([0xFF] ++ lastLine))
      (firstLine ++ (highLine ++ lastLine)) :=
    Listing.sameBut_replace (by decide) (by decide) firstLine lastLine
  obtain ⟨-, -, hagree, -⟩ :=
    run_sameBut plainPlan .modifiers failingAtHigh 10 h
  exact ⟨h, by decide +kernel, by decide +kernel, by decide +kernel, hagree⟩

end Survey

end BitProbe

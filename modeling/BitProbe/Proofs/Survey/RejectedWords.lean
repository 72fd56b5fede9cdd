import BitProbe.Proofs.DecodeTable.Unbroken
import BitProbe.Proofs.Disassembler.Retries
import BitProbe.Proofs.Oracle.Classification
import BitProbe.Proofs.Oracle.Transcript
import BitProbe.Proofs.Survey.Rounds

/-!
Words that the disassembler rejects.

A disassembler rejects a word by printing nothing, by marking something as
uncertain, or with an error message. A message counts wherever in the output
it stands, in whatever letters. A rejection is an answer: it is not a process
failure, so it ends no list of questions.

A rejected word leaves no trace in what a survey finds: a bit whose flip leads
to it belongs to no field, and an assignment that leads to it has no row. It
does not end anything either. All bits are asked about, and all assignments of
every table that is not skipped.

* `Rejects`: the outputs that reject a word;
* `classify_of_rejects`, `isFailure_classify`: what they stand for, which is
  never a process failure;
* `Oracle.Wraps`: an oracle that answers with what the output of a tool stands
  for;
* `Oracle.ask_of_wraps`, `Oracle.map_fst_calls_of_wraps`: it is asked about
  all words;
* `Disassembler.wraps_oracle`: trying again makes no difference to such an
  oracle;
* `Sweep.Excludes`: a sweep has found nothing about a bit;
* `Sweep.excludes_of_rejects`, `DecodeTable.complete_of_wraps`: one sweep and
  one table;
* `Survey.Examination.words`: the words of an examination;
* `Survey.rejected_words`: all of this for a survey.
-/

namespace BitProbe

/-! ### Rejections -/

/-- Whether an output rejects a word. -/
inductive Rejects (output : String) : Prop where
  /-- The output is blank. -/
  | blank (h : ∀ c ∈ output.toList, Text.isBlank c = true)
  /-- Something in the output is marked as uncertain. -/
  | uncertain (h : '?' ∈ output.toList)
  /-- Some line holds an error marker in some letter case. -/
  | marked (line marker : List Char) (hl : line ∈ Text.lines output.toList)
      (hm : marker ∈ errorMarkers) (h : Text.HoldsInSomeCase marker line)

/-- An output that rejects a word stands for no text. -/
theorem classify_of_rejects {output : String} (h : Rejects output) :
    ∃ e, classify output = .error e := by
  obtain ⟨a, ha⟩ := exists_standsFor output
  rw [ha.classify_eq]
  cases ha with
  | blank _ => exact ⟨_, rfl⟩
  | uncertain _ => exact ⟨_, rfl⟩
  | message _ _ _ _ => exact ⟨_, rfl⟩
  | text hne hq hmark =>
      exfalso
      cases h with
      | blank h =>
          obtain ⟨c, hc, hne⟩ := hne
          exact Bool.false_ne_true (hne.symm.trans (h c hc))
      | uncertain h => exact hq h
      | marked line marker hl hm h =>
          exact hmark ((exists_lines_marked_iff _).1
            ⟨line, hl, marked_iff.2 ⟨marker, hm, h⟩⟩)

/-- No output stands for a process failure. -/
@[simp] theorem isFailure_classify (output : String) :
    (classify output).isFailure = false := by
  unfold classify
  dsimp only
  split_ifs <;> rfl

/-! ### Oracles around a tool -/

namespace Oracle

variable {σ : Type}

/-- Whatever state it is in, the oracle answers with what the output of a
tool stands for. -/
def Wraps (o : Oracle σ) (tool : Word → String) : Prop :=
  ∀ w s, (o w s).1 = classify (tool w)

variable {o : Oracle σ} {tool : Word → String}

/-- The answers of a function around a tool. -/
lemma wraps_ofFunction (tool : Word → String) :
    (ofFunction fun w => classify (tool w)).Wraps tool :=
  fun _ _ => rfl

/-- Around a tool all words are asked about. -/
lemma ask_of_wraps (h : o.Wraps tool) (ws : List Word) (s : σ) :
    (o.ask ws s).1 = ws.map fun w => classify (tool w) := by
  induction ws generalizing s with
  | nil => simp
  | cons w ws ih =>
      rw [ask_cons, if_neg (by rw [h w s]; simp), List.map_cons, ih, h w s]

lemma map_fst_calls_of_wraps (h : o.Wraps tool) (ws : List Word) (s : σ) :
    (o.calls ws s).map Prod.fst = ws := by
  rw [calls, ask_of_wraps h]
  exact List.map_fst_zip (List.length_map _).ge

end Oracle

/-- A disassembler whose single runs answer with what the output of a tool
stands for does so, however often it may run. -/
theorem Disassembler.wraps_oracle {σ : Type} {d : Disassembler}
    {tools : Tools σ} {tool : Word → String}
    (h : (d.attempt tools).Wraps tool) : (d.oracle tools).Wraps tool := by
  intro word w
  obtain ⟨n, hn⟩ := exists_oracle_eq d tools word w
  rw [hn]
  exact h word _

/-! ### Findings about a rejected word -/

/-- A sweep has found nothing about a bit: its class is the one of mutants
that are not decoded, it is in no field, and no change of mnemonic is recorded
for it. -/
structure Sweep.Excludes (s : Sweep) (b : Nat) : Prop where
  classes : s.classes[b]? = some .invalid
  opcodeBits : b ∉ s.opcodeBits
  modifierBits : b ∉ s.modifierBits
  opcodeChanges : ∀ d ∈ s.opcodeChanges, d.bit ≠ b

/-- A bit with the verdict that its mutant is not decoded is excluded. -/
lemma Sweep.excludes_ofVerdicts {baseline : Instruction}
    {verdicts : List Verdict} {b : Nat} (aborted : Bool)
    (h : verdicts[b]? = some .invalid) :
    (ofVerdicts baseline verdicts aborted).Excludes b := by
  have hcls : (ofVerdicts baseline verdicts aborted).classes[b]? =
      some .invalid := by
    rw [getElem?_classes_ofVerdicts, h]
    rfl
  constructor
  case classes => exact hcls
  case opcodeBits =>
    rw [mem_opcodeBits_ofVerdicts, hcls]
    decide
  case modifierBits =>
    rw [mem_modifierBits_ofVerdicts, hcls]
    decide
  case opcodeChanges =>
    rintro d hd rfl
    rw [mem_opcodeChanges_ofVerdicts, h] at hd
    exact absurd hd.1 (by simp)

section Wraps

variable {σ : Type} {o : Oracle σ} {tool : Word → String}
  (h : o.Wraps tool)

include h

namespace Sweep

variable (c : Criteria) (baseline : Instruction) (s : σ)

/-- A sweep around a tool is unbroken. -/
lemma run_of_wraps : (run c o baseline s).1 =
    unbroken c (fun w => classify (tool w)) baseline :=
  run_eq_unbroken c (Oracle.ask_of_wraps h _ s)

/-- It is not cut short, whatever the tool prints. -/
lemma aborted_of_wraps : (run c o baseline s).1.aborted = false := by
  rw [run_of_wraps h, aborted_unbroken]
  simp

/-- A bit whose mutant the tool rejects is excluded. -/
lemma excludes_of_rejects {b : Nat} (hb : b < 64)
    (hr : Rejects (tool (baseline.encoding.flip b))) :
    (run c o baseline s).1.Excludes b := by
  obtain ⟨e, he⟩ := classify_of_rejects hr
  rw [run_of_wraps h]
  refine excludes_ofVerdicts _ ?_
  rw [getElem?_verdicts_unbroken c _ baseline hb, he]
  rfl

end Sweep

namespace DecodeTable

/-- A table around a tool is skipped or unbroken. -/
lemma run_of_wraps (c : Criteria) (maxBits line : Nat) (opcode : String)
    (encoding : Word) (positions : List Nat) (s : σ)
    (hskip : (run c maxBits o line opcode encoding positions
      s).1.skipped = false) :
    (run c maxBits o line opcode encoding positions s).1 =
      unbroken c (fun w => classify (tool w)) line opcode encoding
        positions := by
  refine run_eq_unbroken c maxBits o _ line opcode encoding positions s ?_
    (Oracle.ask_of_wraps h _ s)
  rw [← Nat.not_lt, ← skipped_run_iff c maxBits o line opcode encoding
    positions s, hskip]
  exact Bool.false_ne_true

/-- A table around a tool is not cut short, whatever the tool prints. If it
is not skipped, all its assignments are asked about, and those whose word the
tool rejects have no row. -/
lemma complete_of_wraps {c : Criteria} {maxBits line : Nat}
    {opcode : String} {encoding : Word} {positions : List Nat} {s : σ}
    {t : DecodeTable}
    (ht : (run c maxBits o line opcode encoding positions s).1 = t) :
    t.aborted = false ∧ (t.skipped = false →
      t.queries = 2 ^ t.positions.length ∧
      ∀ v < 2 ^ t.positions.length,
        Rejects (tool (t.encoding.assign t.positions
          (BitVec.ofNat 64 v))) → t.entries.find? v = none) := by
  have hfits := fits_run c maxBits o line opcode encoding positions s
  rw [ht] at hfits
  cases hskip : t.skipped with
  | true =>
      exact ⟨(hfits.of_skipped hskip).2.2, fun hf => (by cases hf)⟩
  | false =>
      have hrun : t = unbroken c (fun w => classify (tool w)) line opcode
          encoding positions := by
        rw [← ht]
        exact run_of_wraps h c maxBits line opcode encoding positions s
          (ht ▸ hskip)
      have hab : t.aborted = false := by
        rw [hrun, aborted_unbroken]
        simp
      refine ⟨hab, fun _ => ⟨hfits.complete hskip hab, ?_⟩⟩
      rw [hrun]
      intro v hv hr
      obtain ⟨e, he⟩ := classify_of_rejects hr
      rw [find?_entries_unbroken c _ line opcode encoding positions hv]
      exact congrArg (fun a => rendering c (some a)) he

end DecodeTable

end Wraps

namespace Survey

/-- The words that an examination leads to: the mutants of its entry, and all
variants if there is a table that is not skipped. -/
def Examination.words (x : Examination) : List Word :=
  Sweep.mutants x.entry.instruction.encoding ++
    match x.table with
    | some t =>
      if t.skipped then [] else DecodeTable.variants t.encoding t.positions
    | none => []

/-- The words of an examination are the mutants and the follow-ups of its
sweep. -/
lemma words_examine {σ : Type} (p : Plan) (g : Goal) (o : Oracle σ)
    (e : Listing.Entry) (s : σ) :
    (examine p g o e s).1.words = Sweep.mutants e.instruction.encoding ++
      followUps p g (examine p g o e s).1.sweep := by
  have hsound := sound_examine p g o e s
  have htable := table_round p g o e s
  have hsweep : (round p g o e s).sweep = (examine p g o e s).1.sweep := rfl
  have htab : (round p g o e s).table = (examine p g o e s).1.table := rfl
  have hentry : (examine p g o e s).1.entry = e := rfl
  rw [Examination.words, hentry, followUps]
  rw [hsweep, htab] at htable
  refine congrArg _ ?_
  by_cases he : IsEnumerated p g (examine p g o e s).1.sweep
  · rw [if_pos he] at htable ⊢
    obtain ⟨t, ht, hskip, -⟩ := htable
    obtain ⟨-, -, henc, hpos⟩ := hsound.head_of_table ht
    rw [ht]
    dsimp only
    rw [hskip, if_neg Bool.false_ne_true, henc, hpos, hsound.baseline]
  · rw [if_neg he] at htable ⊢
    cases ht : (examine p g o e s).1.table with
    | none => rfl
    | some t => exact if_pos (htable t ht).1

/-- The calls of a round around a tool are about all words of its
examination. -/
lemma map_fst_calls_round {σ : Type} {o : Oracle σ} {tool : Word → String}
    (h : o.Wraps tool) (p : Plan) (g : Goal) (e : Listing.Entry) (s : σ) :
    (round p g o e s).calls.map Prod.fst = (examine p g o e s).1.words := by
  rw [words_examine, Round.calls, List.map_append]
  exact congrArg₂ _ (Oracle.map_fst_calls_of_wraps h _ s)
    (Oracle.map_fst_calls_of_wraps h _ _)

/-- Around a tool a survey asks about all words of all examinations. -/
lemma map_fst_calls_rounds {σ : Type} {o : Oracle σ} {tool : Word → String}
    (h : o.Wraps tool) (p : Plan) (g : Goal) (es : List Listing.Entry)
    (s : σ) :
    ((rounds p g o es s).flatMap Round.calls).map Prod.fst =
      (examineAll p g o es s).1.flatMap Examination.words := by
  induction es generalizing s with
  | nil => rfl
  | cons e es ih =>
      rw [rounds, List.flatMap_cons, List.map_append, ih,
        map_fst_calls_round h, examineAll, List.flatMap_cons]

/-- With an oracle around a tool that prints some output for every word, a
survey finds nothing about the words whose output rejects them, and misses
nothing else on their account. Every bit whose flip leads to such a word is
excluded from its sweep, and every assignment that leads to such a word has no
row in its table, though it is counted. No sweep and no table is cut short:
the words asked about are all mutants of all entries, and all variants of all
tables that are not skipped. -/
theorem rejected_words {σ : Type} {o : Oracle σ} {tool : Word → String}
    (h : o.Wraps tool) (p : Plan) (g : Goal) (l : Listing) (s : σ) :
    let xs := (examineAll p g o l.entries s).1
    xs.map (·.entry) = l.entries ∧
    (run p g o l s).1 = report p.architecture g xs l.skipped ∧
    (∀ x ∈ xs,
      x.sweep.aborted = false ∧
      (∀ b < 64, Rejects (tool (x.entry.instruction.encoding.flip b)) →
        x.sweep.Excludes b) ∧
      ∀ t, x.table = some t →
        t.aborted = false ∧ (t.skipped = false →
          t.queries = 2 ^ t.positions.length ∧
          ∀ v < 2 ^ t.positions.length,
            Rejects (tool (t.encoding.assign t.positions
              (BitVec.ofNat 64 v))) → t.entries.find? v = none)) ∧
    (run p g o.transcribed l ([], s)).2.1.map Prod.fst =
      xs.flatMap Examination.words := by
  intro xs
  refine ⟨map_entry_examineAll p g o l.entries s, rfl, ?_, ?_⟩
  · intro x hx
    obtain ⟨e, s', rfl⟩ := exists_of_mem_examineAll hx
    refine ⟨Sweep.aborted_of_wraps h _ _ _, fun b hb hr => ?_,
      fun t ht => ?_⟩
    · exact Sweep.excludes_of_rejects h _ _ _ hb hr
    · exact DecodeTable.complete_of_wraps h (table_examine ht).2
  · have hout := congrArg (fun r => r.2.1.map Prod.fst)
      (examineAll_transcribed p g o l.entries [] s)
    exact hout.trans (map_fst_calls_rounds h p g l.entries s)

/-! ### A message on a later line -/

/-- A tool that decodes three words, and for one word prints an error message
below a line which would read as an instruction with other modifiers. -/
def lateMessage (w : Word) : String :=
  if w = 0x00#64 then "MOV R0 /*0x00*/"
  else if w = 0x10#64 then "MOV.X R0 /*0x10*/"
  else if w = 0x20#64 then "MOV.Y R0 /*0x20*/"
  else if w = 0x02#64 then "MOV.Z R0 /*0x02*/\nFaTaL: no such form"
  else "?"

/-- An entry whose word has no bits set. -/
def plainEntry : Listing.Entry :=
  ⟨1, "MOV R0 /*0x00*/", ⟨none, "MOV", ∅, ["R0"], 0#64, 3⟩⟩

/-- A plan by which the first line of an output counts. -/
def firstLinePlan : Plan :=
  ⟨.kepler, ⟨0, 3, ∅⟩, 12⟩

/-- The oracle around this tool. -/
def lateOracle : Oracle Unit :=
  .ofFunction fun w => classify (lateMessage w)

/-- The message excludes bit 1, and a question mark the last of the four
assignments to the bits 4 and 5. -/
theorem rejected_words_lateMessage :
    lateOracle.Wraps lateMessage ∧
    Rejects (lateMessage (Word.flip 0#64 1)) ∧
    Rejects (lateMessage (Word.assign 0#64 [4, 5] (BitVec.ofNat 64 3))) ∧
    ∃ x ∈ (examineAll firstLinePlan .modifiers lateOracle [plainEntry]
        ()).1,
      x.sweep.aborted = false ∧ x.sweep.Excludes 1 ∧
      ∃ t, x.table = some t ∧ t.positions = [4, 5] ∧
        t.aborted = false ∧ t.queries = 4 ∧ t.entries.find? 3 = none := by
  have hwraps : lateOracle.Wraps lateMessage :=
    Oracle.wraps_ofFunction lateMessage
  have hmessage : Rejects (lateMessage (Word.flip 0#64 1)) := by
    refine .marked "FaTaL: no such form".toList "fatal".toList
      (by decide +kernel) (by decide +kernel) ⟨"FaTaL".toList, ?_, ?_⟩
    · exact ⟨[], ": no such form".toList, by decide +kernel⟩
    · decide +kernel
  have hmark : Rejects
      (lateMessage (Word.assign 0#64 [4, 5] (BitVec.ofNat 64 3))) :=
    .uncertain (by decide +kernel)
  have htable : ((examineAll firstLinePlan .modifiers lateOracle [plainEntry]
      ()).1.map fun x => (x.entry.instruction.encoding, x.table.map fun t =>
        (t.positions, t.encoding, t.skipped))) =
          [(0#64, some ([4, 5], 0#64, false))] := by
    decide +kernel
  obtain ⟨-, -, hall, -⟩ := rejected_words hwraps firstLinePlan .modifiers
    ⟨[plainEntry], []⟩ ()
  obtain ⟨x, hxs, hx⟩ := List.map_eq_singleton_iff.1 htable
  rw [Prod.mk.injEq, Option.map_eq_some_iff] at hx
  obtain ⟨henc, t, ht, hhead⟩ := hx
  simp only [Prod.mk.injEq] at hhead
  obtain ⟨hpos, hword, hskip⟩ := hhead
  have hmem : x ∈ (examineAll firstLinePlan .modifiers lateOracle
      [plainEntry] ()).1 :=
    hxs ▸ List.mem_singleton_self x
  obtain ⟨hab, hbits, htab⟩ := hall x hmem
  obtain ⟨htab, hrows⟩ := htab t ht
  obtain ⟨hq, hrows⟩ := hrows hskip
  rw [henc] at hbits
  rw [hpos] at hq hrows
  rw [hword] at hrows
  exact ⟨hwraps, hmessage, hmark, x, hmem, hab,
    hbits 1 (by decide) hmessage, t, ht, hpos, htab, hq,
    hrows 3 (by decide) hmark⟩

end Survey

end BitProbe

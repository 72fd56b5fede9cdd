import BitProbe.Proofs.DecodeTable.Unbroken
import BitProbe.Proofs.Pool.Schedules
import BitProbe.Proofs.Survey.Rounds

/-!
Asking side by side and asking one after another.

If no word fails, it makes no difference in which order the tasks of a pool
take their steps: the sweep and the table are those of an oracle that is asked
one word after another. If some word fails, it does, as some tasks end before
they have asked. What is found then is marked as cut short, and it is part of
what would be found without gaps.

* `Sweep.Within`, `DecodeTable.Within`: a sweep or a table is part of another
  one;
* `Sweep.within_ofPool`, `DecodeTable.within_ofPool`: what a pool leads to is
  part of the sweep or the table without gaps;
* `Pool.parallel_agrees`: both cases, for sweeps and tables.
-/

namespace BitProbe

/-! ### Sweeps -/

namespace Sweep

/-- A sweep finds nothing that another sweep of the same baseline does not
find: bits have the same class or count as not decoded. -/
structure Within (s whole : Sweep) : Prop where
  baseline : s.baseline = whole.baseline
  length_classes : s.classes.length = Word.width
  classes : ∀ b < 64,
    s.classes[b]? = whole.classes[b]? ∨ s.classes[b]? = some .invalid
  opcodeBits : ∀ b ∈ s.opcodeBits, b ∈ whole.opcodeBits
  modifierBits : ∀ b ∈ s.modifierBits, b ∈ whole.modifierBits
  opcodeChanges : s.opcodeChanges.Sublist whole.opcodeChanges

variable {c : Criteria} {f : Word → Answer} {baseline : Instruction}
  {p : Pool}

section Ended

variable (c : Criteria) (h : p.Fair f (mutants baseline.encoding))
  (hend : p.HasEnded)

include h

/-- A pool leads to a class for each bit. -/
lemma length_classes_ofPool :
    (ofPool c baseline p).classes.length = Word.width := by
  rw [ofPool, ofVerdicts, List.length_map, List.length_map,
    Pool.length_results h, length_mutants]

include hend

/-- The class of a bit is that of the verdict on the answer to its mutant, or
the one of mutants that are not decoded if its task did not ask. -/
lemma getElem?_classes_ofPool {b : Nat} (hb : b < 64) :
    (ofPool c baseline p).classes[b]? =
        (unbroken c f baseline).classes[b]? ∨
      (ofPool c baseline p).classes[b]? = some .invalid := by
  rw [getElem?_classes_unbroken c f baseline hb, ofPool,
    getElem?_classes_ofVerdicts, List.getElem?_map]
  rcases Pool.getElem?_results h hend (getElem?_mutants _ hb) with
    ⟨hr, -⟩ | ⟨hr, -⟩
  · exact .inl (by rw [hr]; rfl)
  · exact .inr (by rw [hr]; rfl)

/-- A bit whose mutant is decoded has the same class without gaps. -/
lemma classes_unbroken_of_ofPool {b : Nat} {cls : BitClass}
    (hne : cls ≠ .invalid)
    (hb : (ofPool c baseline p).classes[b]? = some cls) :
    (unbroken c f baseline).classes[b]? = some cls := by
  have hlt : b < 64 := by
    have hlt := (List.getElem?_eq_some_iff.1 hb).1
    rwa [length_classes_ofPool c h] at hlt
  rcases getElem?_classes_ofPool c h hend hlt with heq | hinv
  · rw [← heq, hb]
  · rw [hinv] at hb
    exact absurd (Option.some.inj hb).symm hne

/-- What a pool leads to is part of the unbroken sweep. -/
theorem within_ofPool :
    (ofPool c baseline p).Within (unbroken c f baseline) := by
  constructor
  case baseline => rfl
  case length_classes => exact length_classes_ofPool c h
  case classes => exact fun b hb => getElem?_classes_ofPool c h hend hb
  case opcodeBits =>
    intro b hb
    exact (mem_opcodeBits_ofVerdicts _ _ _).2
      (classes_unbroken_of_ofPool c h hend (by decide)
        ((mem_opcodeBits_ofVerdicts _ _ _).1 hb))
  case modifierBits =>
    intro b hb
    exact (mem_modifierBits_ofVerdicts _ _ _).2
      (classes_unbroken_of_ofPool c h hend (by decide)
        ((mem_modifierBits_ofVerdicts _ _ _).1 hb))
  case opcodeChanges =>
    refine opcodeChanges_ofVerdicts_sublist ?_ _ _ _
    rw [List.forall₂_map_left_iff, List.forall₂_map_right_iff,
      List.forall₂_map_right_iff]
    refine (Pool.forall₂_results h hend).imp fun r w hrw new hnew => ?_
    rcases hrw with rfl | rfl
    · exact hnew
    · cases hnew

/-- A pool that has seen no failure leads to the unbroken sweep. -/
lemma ofPool_eq_unbroken
    (hf : ∀ w ∈ mutants baseline.encoding, (f w).isFailure = false) :
    ofPool c baseline p = unbroken c f baseline := by
  have hflag := Pool.flag_eq_false h hf
  have hab : (unbroken c f baseline).aborted = false := by
    rw [aborted_unbroken]
    exact List.any_eq_false.2 fun w hw => by simp [hf w hw]
  rw [ofPool, Pool.results_eq_of_flag h hend hflag, hflag, ← hab]
  rfl

end Ended

/-- If no mutant fails, the sweep is that of an oracle which is asked about
one mutant after another. -/
theorem parallel_eq_run {schedule : List Nat}
    (hend : (Pool.play f (mutants baseline.encoding) schedule).HasEnded)
    (hf : ∀ w ∈ mutants baseline.encoding, (f w).isFailure = false) :
    parallel c f baseline schedule =
      (run c (Oracle.ofFunction f) baseline ()).1 := by
  rw [run_eq_unbroken c (Oracle.ask_ofFunction_of_forall f hf)]
  exact ofPool_eq_unbroken c (Pool.fair_play f _ schedule) hend hf

end Sweep

/-! ### Tables -/

namespace DecodeTable

/-- A table has no row that another table of the same instruction and the same
bits does not have, and counts some assignments, but not more than there
are. -/
structure Within (t whole : DecodeTable) : Prop where
  line : t.line = whole.line
  opcode : t.opcode = whole.opcode
  encoding : t.encoding = whole.encoding
  positions : t.positions = whole.positions
  skipped : t.skipped = false
  entries : ∀ v text, t.entries.find? v = some text →
    whole.entries.find? v = some text
  queries_pos : 1 ≤ t.queries
  queries_le : t.queries ≤ 2 ^ t.positions.length

section Pool

variable (c : Criteria) {maxBits : Nat} {f : Word → Answer} (line : Nat)
  (opcode : String) {encoding : Word} {positions : List Nat} {p : Pool}

/-- What a pool leads to that has seen a failure is part of the unbroken
table. -/
theorem within_ofPool
    (h : p.Fair f (variants encoding (SortedSet.ofList positions).toList))
    (hend : p.HasEnded) (hflag : p.flag = true) :
    (ofPool c (start line opcode encoding positions) p).Within
      (unbroken c f line opcode encoding positions) := by
  constructor
  case line => rfl
  case opcode => rfl
  case encoding => rfl
  case positions => rfl
  case skipped => rfl
  case entries =>
    intro v text hv
    rw [ofPool, find?_entriesFrom, if_pos (Nat.zero_le v),
      Nat.sub_zero] at hv
    rw [unbroken, ofAnswers, find?_entriesFrom, if_pos (Nat.zero_le v),
      Nat.sub_zero, List.getElem?_map]
    cases hw : (variants encoding (SortedSet.ofList positions).toList)[v]? with
    | none =>
        rw [List.getElem?_eq_none_iff, ← Pool.length_results h] at hw
        rw [List.getElem?_eq_none hw] at hv
        cases hv
    | some w =>
        rcases Pool.getElem?_results h hend hw with ⟨hr, -⟩ | ⟨hr, -⟩
        · rwa [hr] at hv
        · rw [hr] at hv
          cases hv
  case queries_pos =>
    -- the task that has raised the flag has asked
    obtain ⟨j, w, -, hr, -⟩ := Pool.exists_of_flag h hflag
    exact List.countP_pos_iff.2 ⟨_, List.mem_of_getElem? hr, rfl⟩
  case queries_le =>
    have hlen := Pool.length_results h
    rw [length_variants] at hlen
    exact hlen ▸ List.countP_le_length

/-- A pool that has seen no failure leads to the unbroken table. -/
lemma ofPool_eq_unbroken
    (h : p.Fair f (variants encoding (SortedSet.ofList positions).toList))
    (hend : p.HasEnded)
    (hf : ∀ w ∈ variants encoding (SortedSet.ofList positions).toList,
      (f w).isFailure = false) :
    ofPool c (start line opcode encoding positions) p =
      unbroken c f line opcode encoding positions := by
  have hflag := Pool.flag_eq_false h hf
  have hab : (unbroken c f line opcode encoding positions).aborted =
      false := by
    rw [aborted_unbroken]
    exact List.any_eq_false.2 fun w hw => by simp [hf w hw]
  rw [ofPool, Pool.results_eq_of_flag h hend hflag, hflag, ← hab]
  rfl

/-- If there are not too many positions, a pool is asked about all
variants. -/
lemma parallel_of_le (maxBits : Nat) (f : Word → Answer) (encoding : Word)
    (schedule : List Nat)
    (hle : (SortedSet.ofList positions).toList.length ≤
      min maxBits positionsCeiling) :
    parallel c maxBits f line opcode encoding positions schedule =
      ofPool c (start line opcode encoding positions)
        (Pool.play f (questions maxBits encoding positions) schedule) := by
  rw [questions, if_neg (Nat.not_lt.2 hle)]
  exact if_neg (Nat.not_lt.2 hle)

/-- If no variant fails, the table is that of an oracle which is asked about
one variant after another. -/
theorem parallel_eq_run {schedule : List Nat}
    (hend : (Pool.play f (questions maxBits encoding positions)
      schedule).HasEnded)
    (hf : ∀ w ∈ questions maxBits encoding positions,
      (f w).isFailure = false) :
    parallel c maxBits f line opcode encoding positions schedule =
      (run c maxBits (Oracle.ofFunction f) line opcode encoding positions
        ()).1 := by
  rcases Nat.lt_or_ge (min maxBits positionsCeiling)
      (SortedSet.ofList positions).toList.length with hlt | hle
  · rw [run_of_lt c maxBits _ line opcode encoding positions () hlt]
    exact if_pos hlt
  · rw [parallel_of_le c line opcode maxBits f encoding schedule hle]
    rw [questions, if_neg (Nat.not_lt.2 hle)] at hend hf ⊢
    rw [run_eq_unbroken c maxBits _ f line opcode encoding positions () hle
      (Oracle.ask_ofFunction_of_forall f hf)]
    exact ofPool_eq_unbroken c line opcode (Pool.fair_play f _ schedule) hend
      hf

/-- If some variant fails, the table is cut short, and part of the unbroken
one. -/
theorem within_parallel {schedule : List Nat}
    (hend : (Pool.play f (questions maxBits encoding positions)
      schedule).HasEnded)
    (hf : ∃ w ∈ questions maxBits encoding positions,
      (f w).isFailure = true) :
    (parallel c maxBits f line opcode encoding positions
        schedule).aborted = true ∧
      (parallel c maxBits f line opcode encoding positions schedule).Within
        (unbroken c f line opcode encoding positions) := by
  rcases Nat.lt_or_ge (min maxBits positionsCeiling)
      (SortedSet.ofList positions).toList.length with hlt | hle
  · obtain ⟨w, hw, -⟩ := hf
    rw [questions, if_pos hlt] at hw
    cases hw
  · rw [parallel_of_le c line opcode maxBits f encoding schedule hle]
    rw [questions, if_neg (Nat.not_lt.2 hle)] at hend hf ⊢
    have hfair := Pool.fair_play f
      (variants encoding (SortedSet.ofList positions).toList) schedule
    have hflag := (Pool.flag_iff hfair hend).2 hf
    exact ⟨hflag, within_ofPool c line opcode hfair hend hflag⟩

end Pool

end DecodeTable

/-! ### Both -/

/-- Whatever the order in which the tasks of a sweep and those of an
enumeration take their steps: if no word that is asked about fails, the sweep
and the table are the same as with questions one after another. If a word
fails, the sweep or the table is cut short; the class of each bit is then that
of the verdict on its own mutant, or the one of mutants that are not decoded;
and the bits, the changes of mnemonic and the rows are among those that all
answers together lead to. -/
theorem Pool.parallel_agrees (c : Criteria) (f : Word → Answer)
    {baseline : Instruction} {schedule : List Nat}
    (hsweep : (play f (Sweep.mutants baseline.encoding) schedule).HasEnded)
    {maxBits : Nat} (line : Nat) (opcode : String) {encoding : Word}
    {positions schedule' : List Nat}
    (htable : (play f (DecodeTable.questions maxBits encoding positions)
      schedule').HasEnded) :
    ((∀ w ∈ Sweep.mutants baseline.encoding, (f w).isFailure = false) →
      Sweep.parallel c f baseline schedule =
        (Sweep.run c (Oracle.ofFunction f) baseline ()).1) ∧
    ((∃ w ∈ Sweep.mutants baseline.encoding, (f w).isFailure = true) →
      (Sweep.parallel c f baseline schedule).aborted = true ∧
      (∀ b < 64,
        (Sweep.parallel c f baseline schedule).classes[b]? =
          some (Verdict.ofAnswer c baseline
            (some (f (baseline.encoding.flip b)))).bitClass ∨
        (Sweep.parallel c f baseline schedule).classes[b]? =
          some .invalid) ∧
      (Sweep.parallel c f baseline schedule).Within
        (Sweep.unbroken c f baseline)) ∧
    ((∀ w ∈ DecodeTable.questions maxBits encoding positions,
        (f w).isFailure = false) →
      DecodeTable.parallel c maxBits f line opcode encoding positions
          schedule' =
        (DecodeTable.run c maxBits (Oracle.ofFunction f) line opcode encoding
          positions ()).1) ∧
    ((∃ w ∈ DecodeTable.questions maxBits encoding positions,
        (f w).isFailure = true) →
      (DecodeTable.parallel c maxBits f line opcode encoding positions
        schedule').aborted = true ∧
      (DecodeTable.parallel c maxBits f line opcode encoding positions
        schedule').Within
          (DecodeTable.unbroken c f line opcode encoding positions)) := by
  refine ⟨Sweep.parallel_eq_run hsweep, fun hf => ?_,
    DecodeTable.parallel_eq_run c line opcode htable,
    DecodeTable.within_parallel c line opcode htable⟩
  have hfair := fair_play f (Sweep.mutants baseline.encoding) schedule
  have hwithin := Sweep.within_ofPool c hfair hsweep
  refine ⟨(flag_iff hfair hsweep).2 hf, fun b hb => ?_, hwithin⟩
  have hb' := hwithin.classes b hb
  rwa [Sweep.getElem?_classes_unbroken c f baseline hb] at hb'

/-- A disassembler that cannot be started for one word, and decodes all
others alike. -/
def stuckAt (bad w : Word) : Answer :=
  if w = bad then .error (.processFailure "no such file")
  else .ok "MOV.X R0 /*0x00*/"

/-- It fails at no other word. -/
lemma isFailure_stuckAt_of_ne {bad w : Word} (h : w ≠ bad) :
    (stuckAt bad w).isFailure = false := by
  rw [stuckAt, if_neg h]
  rfl

/-- The instruction whose word has no bits set. -/
def plainMove : Instruction :=
  ⟨none, "MOV", ∅, ["R0"], 0#64, 3⟩

/-- The first line of an output counts, if it has three tokens. -/
def firstLine : Criteria :=
  ⟨0, 3, ∅⟩

/-- All tasks have looked at the flag before the failure is seen. With a word
that fails the sweep of all bits and the table of the two lowest are cut
short; with words that are asked about in only one of the two, the other is as
if asked for word by word. -/
theorem Pool.parallel_agrees_inRounds :
    (Sweep.parallel firstLine (stuckAt 1#64) plainMove
      (inRounds 64)).aborted = true ∧
    (Sweep.parallel firstLine (stuckAt 1#64) plainMove (inRounds 64)).Within
      (Sweep.unbroken firstLine (stuckAt 1#64) plainMove) ∧
    (DecodeTable.parallel firstLine 12 (stuckAt 1#64) 1 "MOV" 0#64 [0, 1]
      (inRounds 4)).aborted = true ∧
    (DecodeTable.parallel firstLine 12 (stuckAt 1#64) 1 "MOV" 0#64 [0, 1]
      (inRounds 4)).Within
        (DecodeTable.unbroken firstLine (stuckAt 1#64) 1 "MOV" 0#64
          [0, 1]) ∧
    Sweep.parallel firstLine (stuckAt 0#64) plainMove (inRounds 64) =
      (Sweep.run firstLine (Oracle.ofFunction (stuckAt 0#64)) plainMove
        ()).1 ∧
    DecodeTable.parallel firstLine 12 (stuckAt 4#64) 1 "MOV" 0#64 [0, 1]
        (inRounds 4) =
      (DecodeTable.run firstLine 12 (Oracle.ofFunction (stuckAt 4#64)) 1
        "MOV" 0#64 [0, 1] ()).1 := by
  have hbits : ∀ f : Word → Answer,
      (play f (Sweep.mutants plainMove.encoding) (inRounds 64)).HasEnded := by
    intro f
    have hend := hasEnded_inRounds f (Sweep.mutants plainMove.encoding)
    rwa [Sweep.length_mutants] at hend
  have hfour : (DecodeTable.questions 12 0#64 [0, 1]).length = 4 := by
    decide +kernel
  have hrows : ∀ f : Word → Answer,
      (play f (DecodeTable.questions 12 0#64 [0, 1])
        (inRounds 4)).HasEnded := by
    intro f
    have hend := hasEnded_inRounds f (DecodeTable.questions 12 0#64 [0, 1])
    rwa [hfour] at hend
  have hstuck : (stuckAt 1#64 1#64).isFailure = true := rfl
  have hbit : 1#64 ∈ Sweep.mutants plainMove.encoding := by decide +kernel
  have hrow : 1#64 ∈ DecodeTable.questions 12 0#64 [0, 1] := by
    decide +kernel
  have hnobit : ∀ w ∈ Sweep.mutants plainMove.encoding,
      (stuckAt 0#64 w).isFailure = false := by
    refine fun w hw => isFailure_stuckAt_of_ne ?_
    rintro rfl
    revert hw
    decide +kernel
  have hnorow : ∀ w ∈ DecodeTable.questions 12 0#64 [0, 1],
      (stuckAt 4#64 w).isFailure = false := by
    refine fun w hw => isFailure_stuckAt_of_ne ?_
    rintro rfl
    revert hw
    decide +kernel
  obtain ⟨-, hsweep, -, htable⟩ := parallel_agrees firstLine (stuckAt 1#64)
    (hbits _) 1 "MOV" (hrows _)
  obtain ⟨hall, -, -, -⟩ := parallel_agrees firstLine (stuckAt 0#64)
    (hbits _) 1 "MOV" (hrows _)
  obtain ⟨-, -, hfull, -⟩ := parallel_agrees firstLine (stuckAt 4#64)
    (hbits _) 1 "MOV" (hrows _)
  obtain ⟨hsab, -, hswithin⟩ := hsweep ⟨1#64, hbit, hstuck⟩
  obtain ⟨htab, htwithin⟩ := htable ⟨1#64, hrow, hstuck⟩
  exact ⟨hsab, hswithin, htab, htwithin, hall hnobit, hfull hnorow⟩

end BitProbe

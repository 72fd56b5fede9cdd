import BitProbe.Proofs.Alias.Connected
import BitProbe.Proofs.DecodeTable.Rendering
import BitProbe.Proofs.Oracle.Transcript
import BitProbe.Proofs.Sweep.Classes

/-!
What a sweep makes of the answers.

The mutants of a word are asked about from the lowest bit on, up to and
including the first process failure. What an answer shows its bit to be is a
matter of this answer alone, and bits from the failure on are not decoded.
This holds whatever the oracle goes by, as each answer is the one that it
gives to its own question.

* `Sweep.Decodes`: when an output decodes a mutant as an instruction;
* `Sweep.Shows`, `Sweep.shows_iff`: what an answer shows a bit to be;
* `Sweep.Follows`: how a sweep follows from the answers;
* `Sweep.run_follows_answers`: every sweep that an oracle makes does, and its
  calls are those about the mutants in their order.
-/

namespace BitProbe.Sweep

/-! ### What an answer shows -/

/-- An output decodes a mutant as an instruction: the line that counts is
there, has tokens besides an address, and enough of them, and they read as
this instruction. -/
def Decodes (index minTokens : Nat) (output : String) (mutant : Instruction) :
    Prop :=
  ∃ line, (Text.linesOf output)[index]? = some line ∧
    afterAddress (Text.wordsOf line) ≠ [] ∧
    minTokens ≤ (afterAddress (Text.wordsOf line)).length ∧
    Instruction.ofTokens (afterAddress (Text.wordsOf line)) = .ok mutant

/-- What an answer shows the bit of its mutant to be. A process failure shows
nothing. -/
inductive Shows (index minTokens : Nat) (pairs : List (String × String))
    (baseline : Instruction) : Answer → BitClass → Prop
  | ambiguous : Shows index minTokens pairs baseline (.error .ambiguous)
    .invalid
  | fault (message : String) :
    Shows index minTokens pairs baseline (.error (.fault message)) .invalid
  | noLine {output : String} (h : (Text.linesOf output)[index]? = none) :
    Shows index minTokens pairs baseline (.ok output) .unclassified
  | blank {output line : String}
    (h : (Text.linesOf output)[index]? = some line)
    (hblank : afterAddress (Text.wordsOf line) = []) :
    Shows index minTokens pairs baseline (.ok output) .unclassified
  | short {output line : String}
    (h : (Text.linesOf output)[index]? = some line)
    (hshort : (afterAddress (Text.wordsOf line)).length < minTokens) :
    Shows index minTokens pairs baseline (.ok output) .unclassified
  | unreadable {output line : String} {e : ReadError}
    (h : (Text.linesOf output)[index]? = some line)
    (herror :
      Instruction.ofTokens (afterAddress (Text.wordsOf line)) = .error e) :
    Shows index minTokens pairs baseline (.ok output) .unclassified
  | opcode {output : String} {mutant : Instruction}
    (h : Decodes index minTokens output mutant)
    (hother : ¬ Relation.EqvGen (AliasTable.Declared pairs) mutant.opcode
      baseline.opcode) :
    Shows index minTokens pairs baseline (.ok output) .opcode
  | modifier {output : String} {mutant : Instruction}
    (h : Decodes index minTokens output mutant)
    (hsame : Relation.EqvGen (AliasTable.Declared pairs) mutant.opcode
      baseline.opcode)
    (hother : mutant.modifiers ≠ baseline.modifiers) :
    Shows index minTokens pairs baseline (.ok output) .modifier
  | unchanged {output : String} {mutant : Instruction}
    (h : Decodes index minTokens output mutant)
    (hsame : Relation.EqvGen (AliasTable.Declared pairs) mutant.opcode
      baseline.opcode)
    (hmodifiers : mutant.modifiers = baseline.modifiers) :
    Shows index minTokens pairs baseline (.ok output) .unclassified

section Answer

variable {index minTokens : Nat} {pairs : List (String × String)}
  {baseline : Instruction}

/-- The comparison by given values. -/
def criteria (index minTokens : Nat) (pairs : List (String × String)) :
    Criteria :=
  ⟨index, minTokens, .ofPairs pairs⟩

/-- The tokens that count are those of a line that is there, if they are some
and enough. -/
lemma tokens_criteria_iff {pairs : List (String × String)} {output : String}
    {tokens : List String} :
    (criteria index minTokens pairs).tokens output = some tokens ↔
      ∃ line, (Text.linesOf output)[index]? = some line ∧
        tokens = afterAddress (Text.wordsOf line) ∧ tokens ≠ [] ∧
        minTokens ≤ tokens.length := by
  rw [Criteria.tokens_eq_some_iff, selectedTokens_eq_some_iff, criteria]
  constructor
  · rintro ⟨⟨line, hline, htokens, hne⟩, hmin⟩
    exact ⟨line, hline, htokens, hne,
      Nat.le_trans (Nat.le_max_right 1 minTokens) hmin⟩
  · rintro ⟨line, hline, htokens, hne, hmin⟩
    exact ⟨⟨line, hline, htokens, hne⟩,
      Nat.max_le.2 ⟨List.length_pos_iff.2 hne, hmin⟩⟩

/-- What the verdict on an output that decodes a mutant is, and why. -/
lemma ofOutput_cases (pairs : List (String × String)) (baseline : Instruction)
    {output : String} {mutant : Instruction}
    (h : Decodes index minTokens output mutant) :
    let v := Verdict.ofOutput (criteria index minTokens pairs) baseline output
    let related := Relation.EqvGen (AliasTable.Declared pairs) mutant.opcode
      baseline.opcode
    (v = .opcode mutant.opcode ∧ ¬ related) ∨
      (v = .modifier ∧ related ∧ mutant.modifiers ≠ baseline.modifiers) ∨
      (v = .unclassified ∧ related ∧
        mutant.modifiers = baseline.modifiers) := by
  intro v related
  obtain ⟨line, hline, hne, hmin, hread⟩ := h
  have htokens : (criteria index minTokens pairs).tokens output =
      some (afterAddress (Text.wordsOf line)) :=
    tokens_criteria_iff.2 ⟨line, hline, rfl, hne, hmin⟩
  have hrelated : related ↔ (criteria index minTokens pairs).aliases.equivalent
      mutant.opcode baseline.opcode = true :=
    (AliasTable.equivalent_ofPairs_iff_eqvGen _ _ _).symm
  simp only [v, Verdict.ofOutput, htokens, hread, hrelated]
  cases (criteria index minTokens pairs).aliases.equivalent mutant.opcode
    baseline.opcode with
  | false => simp
  | true =>
      by_cases hm : mutant.modifiers = baseline.modifiers <;> simp [hm]

/-- The verdict on an output that decodes no mutant. -/
lemma ofOutput_of_not_decodes {output : String}
    (h : ¬ ∃ mutant, Decodes index minTokens output mutant) :
    Verdict.ofOutput (criteria index minTokens pairs) baseline output =
      .unclassified := by
  rw [Verdict.ofOutput]
  cases htokens : (criteria index minTokens pairs).tokens output with
  | none => rfl
  | some tokens =>
      obtain ⟨line, hline, rfl, hne, hmin⟩ := tokens_criteria_iff.1 htokens
      cases hread : Instruction.ofTokens
          (afterAddress (Text.wordsOf line)) with
      | error e => simp only [hread]
      | ok mutant => exact absurd ⟨mutant, line, hline, hne, hmin, hread⟩ h

/-- An output that decodes no mutant shows nothing, and there are four reasons
for that. -/
lemma shows_of_not_decodes {output : String}
    (h : ¬ ∃ mutant, Decodes index minTokens output mutant) :
    Shows index minTokens pairs baseline (.ok output) .unclassified := by
  cases hline : (Text.linesOf output)[index]? with
  | none => exact .noLine hline
  | some line =>
      by_cases hne : afterAddress (Text.wordsOf line) = []
      · exact .blank hline hne
      by_cases hmin : minTokens ≤ (afterAddress (Text.wordsOf line)).length
      · cases hread : Instruction.ofTokens
            (afterAddress (Text.wordsOf line)) with
        | error e => exact .unreadable hline hread
        | ok mutant => exact absurd ⟨mutant, line, hline, hne, hmin, hread⟩ h
      · exact .short hline (Nat.lt_of_not_le hmin)

/-- A line that decodes a mutant is the line that counts. -/
lemma Decodes.of_line {output line : String} {mutant : Instruction}
    (h : Decodes index minTokens output mutant)
    (hline : (Text.linesOf output)[index]? = some line) :
    afterAddress (Text.wordsOf line) ≠ [] ∧
      minTokens ≤ (afterAddress (Text.wordsOf line)).length ∧
      Instruction.ofTokens (afterAddress (Text.wordsOf line)) =
        .ok mutant := by
  obtain ⟨other, hother, h⟩ := h
  rw [hline, Option.some.injEq] at hother
  rw [hother]
  exact h

/-- The class of the verdict on an answer is what the answer shows. -/
lemma bitClass_of_shows {a : Answer} {cls : BitClass}
    (h : Shows index minTokens pairs baseline a cls) :
    (Verdict.ofAnswer (criteria index minTokens pairs) baseline
      (some a)).bitClass = cls := by
  cases h with
  | ambiguous | fault message => rfl
  | noLine h =>
      exact congrArg Verdict.bitClass (ofOutput_of_not_decodes
        fun ⟨_, line, hline, _⟩ => by simp [h] at hline)
  | blank h hblank =>
      exact congrArg Verdict.bitClass (ofOutput_of_not_decodes
        fun ⟨_, hm⟩ => (hm.of_line h).1 hblank)
  | short h hshort =>
      exact congrArg Verdict.bitClass (ofOutput_of_not_decodes
        fun ⟨_, hm⟩ => Nat.not_le.2 hshort (hm.of_line h).2.1)
  | unreadable h herror =>
      refine congrArg Verdict.bitClass (ofOutput_of_not_decodes
        fun ⟨_, hm⟩ => ?_)
      rw [(hm.of_line h).2.2] at herror
      cases herror
  | opcode h hother =>
      rcases ofOutput_cases pairs baseline h with
        ⟨hv, -⟩ | ⟨-, hsame, -⟩ | ⟨-, hsame, -⟩
      · exact congrArg Verdict.bitClass hv
      · exact absurd hsame hother
      · exact absurd hsame hother
  | modifier h hsame hother =>
      rcases ofOutput_cases pairs baseline h with
        ⟨-, hnot⟩ | ⟨hv, -⟩ | ⟨-, -, heq⟩
      · exact absurd hsame hnot
      · exact congrArg Verdict.bitClass hv
      · exact absurd heq hother
  | unchanged h hsame hmodifiers =>
      rcases ofOutput_cases pairs baseline h with
        ⟨-, hnot⟩ | ⟨-, -, hne⟩ | ⟨hv, -⟩
      · exact absurd hsame hnot
      · exact absurd hmodifiers hne
      · exact congrArg Verdict.bitClass hv

/-- Every answer but a process failure shows the class of the verdict on
it. -/
lemma shows_bitClass {a : Answer} (h : a.isFailure = false) :
    Shows index minTokens pairs baseline a
      (Verdict.ofAnswer (criteria index minTokens pairs) baseline
        (some a)).bitClass := by
  rcases a with (_ | message | message) | output
  · exact .ambiguous
  · exact .fault message
  · cases h
  · rw [Verdict.ofAnswer]
    by_cases hd : ∃ mutant, Decodes index minTokens output mutant
    · obtain ⟨mutant, hd⟩ := hd
      rcases ofOutput_cases pairs baseline hd with
        ⟨hv, hnot⟩ | ⟨hv, hsame, hne⟩ | ⟨hv, hsame, heq⟩
      · rw [hv]
        exact .opcode hd hnot
      · rw [hv]
        exact .modifier hd hsame hne
      · rw [hv]
        exact .unchanged hd hsame heq
    · rw [ofOutput_of_not_decodes hd]
      exact shows_of_not_decodes hd

/-- What an answer shows is the class of the verdict on it, unless it is a
process failure. -/
lemma shows_iff {a : Answer} (h : a.isFailure = false) (cls : BitClass) :
    Shows index minTokens pairs baseline a cls ↔
      (Verdict.ofAnswer (criteria index minTokens pairs) baseline
        (some a)).bitClass = cls := by
  refine ⟨bitClass_of_shows, ?_⟩
  rintro rfl
  exact shows_bitClass h

/-- A new mnemonic is that of the mutant which the answer decodes. -/
lemma ofAnswer_eq_opcode_iff {a : Option Answer} {new : String} :
    Verdict.ofAnswer (criteria index minTokens pairs) baseline a =
        .opcode new ↔
      (Verdict.ofAnswer (criteria index minTokens pairs) baseline
        a).bitClass = .opcode ∧
      ∃ output mutant, a = some (.ok output) ∧
        Decodes index minTokens output mutant ∧ new = mutant.opcode := by
  rcases a with _ | e | output
  · simp [Verdict.ofAnswer]
  · simp [Verdict.ofAnswer]
  · rw [Verdict.ofAnswer]
    by_cases hd : ∃ mutant, Decodes index minTokens output mutant
    · obtain ⟨mutant, hd⟩ := hd
      have huniq : ∀ other, Decodes index minTokens output other →
          other = mutant := by
        intro other hother
        obtain ⟨line, hline, -, -, hread⟩ := hd
        have hread' := (hother.of_line hline).2.2
        rw [hread, Except.ok.injEq] at hread'
        exact hread'.symm
      rcases ofOutput_cases pairs baseline hd with
        ⟨hv, -⟩ | ⟨hv, -⟩ | ⟨hv, -⟩
      · rw [hv, Verdict.opcode.injEq]
        constructor
        · rintro rfl
          exact ⟨rfl, output, mutant, rfl, hd, rfl⟩
        · rintro ⟨-, _, other, heq, hother, rfl⟩
          cases heq
          rw [huniq other hother]
      · simp [hv, Verdict.bitClass]
      · simp [hv, Verdict.bitClass]
    · simp [ofOutput_of_not_decodes hd, Verdict.bitClass]

end Answer

/-! ### What the answers make of the bits -/

/-- How a sweep follows from the answers to the questions about the mutants,
as they would come if no failure ended them. -/
structure Follows (index minTokens : Nat) (pairs : List (String × String))
    (baseline : Instruction) (answers : List Answer) (s : Sweep) : Prop where
  baseline_eq : s.baseline = baseline
  length_classes : s.classes.length = 64
  aborted : s.aborted = true ↔ Oracle.firstFailure answers < 64
  /-- Before the first failure, a bit is what its answer shows. -/
  before : ∀ i a cls, i < Oracle.firstFailure answers →
    answers[i]? = some a →
    (s.classes[i]? = some cls ↔ Shows index minTokens pairs baseline a cls)
  /-- From there on, no bit is decoded. -/
  after : ∀ i, Oracle.firstFailure answers ≤ i → i < 64 →
    s.classes[i]? = some .invalid
  opcodeBits : ∀ i, i ∈ s.opcodeBits ↔ s.classes[i]? = some .opcode
  modifierBits : ∀ i, i ∈ s.modifierBits ↔ s.classes[i]? = some .modifier
  /-- The changes of mnemonic go through the bits of the opcode. -/
  bits : s.opcodeChanges.map (·.bit) = s.opcodeBits.toList
  changes : ∀ d, d ∈ s.opcodeChanges ↔
    d.old = baseline.opcode ∧ s.classes[d.bit]? = some .opcode ∧
      ∃ output mutant, answers[d.bit]? = some (.ok output) ∧
        Decodes index minTokens output mutant ∧ d.new = mutant.opcode

/-- A sweep adds the calls about the mutants to a transcript. -/
lemma run_transcribed {σ : Type} (c : Criteria) (o : Oracle σ)
    (baseline : Instruction) (earlier : List Call) (s : σ) :
    run c o.transcribed baseline (earlier, s) =
      ((run c o baseline s).1,
        (earlier ++ o.calls (mutants baseline.encoding) s,
          (run c o baseline s).2)) := by
  rw [run, Oracle.ask_transcribed]
  rfl

section Follow

variable (index minTokens : Nat) (pairs : List (String × String))
  (baseline : Instruction)

/-- The verdict on a bit, by the answers to the questions about all. -/
def verdictAt (c : Criteria) (baseline : Instruction)
    (answers : List Answer) (i : Nat) : Verdict :=
  if i < Oracle.firstFailure answers then
    Verdict.ofAnswer c baseline answers[i]?
  else .invalid

/-- The answers up to the first failure lead to these verdicts: the failure
itself, and questions that are not asked, decode nothing. -/
lemma getElem?_verdicts (c : Criteria) {answers : List Answer} {i : Nat}
    (hi : i < 64) :
    ((padded Word.width
        (answers.take (Oracle.firstFailure answers + 1))).map
          (Verdict.ofAnswer c baseline))[i]? =
      some (verdictAt c baseline answers i) := by
  rw [List.getElem?_map, getElem?_padded _ (show i < Word.width from hi),
    List.getElem?_take, Option.map_some, Option.some.injEq, verdictAt]
  rcases Nat.lt_trichotomy i (Oracle.firstFailure answers) with h | rfl | h
  · rw [if_pos h, if_pos (Nat.lt_succ_of_lt h)]
  · rw [if_pos (Nat.lt_succ_self _), if_neg (Nat.lt_irrefl _)]
    cases ha : answers[Oracle.firstFailure answers]? with
    | none => rfl
    | some a =>
        have hf := Oracle.isFailure_of_getElem?_firstFailure ha
        cases a with
        | error e => rfl
        | ok output => cases hf
  · rw [if_neg (by omega), if_neg (by omega)]
    rfl

/-- The sweep that the answers to all questions lead to, the last one that is
asked being the first with a process failure. -/
def ofAllAnswers (c : Criteria) (baseline : Instruction)
    (answers : List Answer) : Sweep :=
  ofAnswers c baseline
    (padded Word.width (answers.take (Oracle.firstFailure answers + 1)))

lemma length_classes_ofAllAnswers (c : Criteria) {answers : List Answer}
    (hlen : answers.length = 64) :
    (ofAllAnswers c baseline answers).classes.length = 64 := by
  have htake : (answers.take (Oracle.firstFailure answers + 1)).length ≤
      Word.width := by
    rw [List.length_take, hlen]
    exact Nat.min_le_right _ _
  rw [ofAllAnswers, ofAnswers, ofVerdicts, List.length_map, List.length_map,
    length_padded htake]
  rfl

lemma getElem?_classes_ofAllAnswers (c : Criteria) {answers : List Answer}
    {i : Nat} (hi : i < 64) :
    (ofAllAnswers c baseline answers).classes[i]? =
      some (verdictAt c baseline answers i).bitClass := by
  rw [ofAllAnswers, ofAnswers, getElem?_classes_ofVerdicts,
    getElem?_verdicts _ _ hi, Option.map_some]

/-- A change of mnemonic is a verdict on its bit. -/
lemma mem_opcodeChanges_ofAllAnswers (c : Criteria) {answers : List Answer}
    (hlen : answers.length = 64) {d : OpcodeChange} :
    d ∈ (ofAllAnswers c baseline answers).opcodeChanges ↔
      d.old = baseline.opcode ∧ d.bit < 64 ∧
        verdictAt c baseline answers d.bit = .opcode d.new := by
  rw [ofAllAnswers, ofAnswers, mem_opcodeChanges_ofVerdicts, and_comm]
  refine and_congr_right fun _ => ?_
  rcases Nat.lt_or_ge d.bit 64 with hw | hw
  · rw [getElem?_verdicts _ _ hw, Option.some.injEq, and_iff_right hw]
  · -- there is no bit with this number, and no verdict
    have hnone : (ofAllAnswers c baseline answers).classes[d.bit]? = none :=
      List.getElem?_eq_none
        (length_classes_ofAllAnswers baseline c hlen ▸ hw)
    rw [ofAllAnswers, ofAnswers, getElem?_classes_ofVerdicts,
      Option.map_eq_none_iff] at hnone
    rw [hnone]
    exact iff_of_false (Option.some_ne_none _).symm
      fun h => absurd h.1 (Nat.not_lt.2 hw)

/-- The answers to all questions make a sweep that follows from them. -/
lemma follows_ofAllAnswers {answers : List Answer}
    (hlen : answers.length = 64) :
    Follows index minTokens pairs baseline answers
      (ofAllAnswers (criteria index minTokens pairs) baseline answers) where
  baseline_eq := rfl
  length_classes := length_classes_ofAllAnswers baseline _ hlen
  aborted := by
    rw [← hlen, ← Oracle.any_isFailure_take_iff]
    exact Iff.of_eq (congrArg (· = true) (any_padded _ _))
  before := by
    intro i a cls hi ha
    have hw : i < 64 := hlen ▸ (List.getElem?_eq_some_iff.1 ha).1
    rw [getElem?_classes_ofAllAnswers baseline _ hw, verdictAt, if_pos hi, ha,
      Option.some.injEq, shows_iff (Oracle.isFailure_of_lt_firstFailure hi ha)]
  after := by
    intro i hi hw
    rw [getElem?_classes_ofAllAnswers baseline _ hw, verdictAt,
      if_neg (Nat.not_lt.2 hi)]
    rfl
  opcodeBits := fun _ => mem_opcodeBits_ofVerdicts _ _ _
  modifierBits := fun _ => mem_modifierBits_ofVerdicts _ _ _
  bits := map_bit_opcodeChanges_ofVerdicts _ _ _
  changes := by
    intro d
    rw [mem_opcodeChanges_ofAllAnswers baseline _ hlen]
    refine and_congr_right fun _ => ?_
    rcases Nat.lt_or_ge d.bit 64 with hw | hw
    · rw [and_iff_right hw, getElem?_classes_ofAllAnswers baseline _ hw,
        Option.some.injEq, verdictAt]
      split
      · exact ofAnswer_eq_opcode_iff
      · simp [Verdict.bitClass]
    · rw [List.getElem?_eq_none
        (length_classes_ofAllAnswers baseline _ hlen ▸ hw)]
      exact iff_of_false (fun h => absurd h.1 (Nat.not_lt.2 hw))
        fun h => Option.some_ne_none _ h.1.symm

end Follow

/-- Every sweep follows from what the oracle answers about the mutants, which
are asked about from the lowest bit on, up to and including the first process
failure. -/
theorem run_follows_answers {σ : Type} (o : Oracle σ)
    (pairs : List (String × String)) (index minTokens : Nat)
    (baseline : Instruction) (s : σ) :
    let words := (List.range 64).map fun i =>
      baseline.encoding ^^^ BitVec.twoPow 64 i
    let answers := o.answers words s
    let swept := run (criteria index minTokens pairs) o baseline s
    Follows index minTokens pairs baseline answers swept.1 ∧
      run (criteria index minTokens pairs) o.transcribed baseline ([], s) =
        (swept.1, ((words.zip answers).take
          (min (Oracle.firstFailure answers) 63 + 1), swept.2)) := by
  intro words answers swept
  have hwords : words = mutants baseline.encoding := rfl
  have hlen : answers.length = 64 := by
    rw [Oracle.length_answers, hwords, length_mutants]
    rfl
  constructor
  · have hrun : swept.1 = _ := run_fst _ _ _ _
    rw [hrun, Oracle.ask_eq_take_answers]
    exact follows_ofAllAnswers index minTokens pairs baseline hlen
  · have hzip : (words.zip answers).length = 64 := by
      rw [List.length_zip, hlen, hwords, length_mutants]
      rfl
    have htake : (words.zip answers).take
        (Oracle.firstFailure answers + 1) =
          (words.zip answers).take
            (min (Oracle.firstFailure answers) 63 + 1) := by
      rw [List.take_eq_take_iff, hzip]
      omega
    rw [run_transcribed, Oracle.calls_eq_take, List.nil_append, ← htake]
    rfl

end BitProbe.Sweep

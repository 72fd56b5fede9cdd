import BitProbe.Proofs.DecodeTable.Answers
import BitProbe.Proofs.Sorted.Lookup

/-!
Asking for more tokens.

A line with too few tokens says nothing, whatever it holds. So if more tokens
are asked for, some of what was decoded is discarded, and nothing is gained. A
sweep loses verdicts on bits of the two fields, and a table loses the rows
whose texts are too short; a text has just the tokens that were counted. What
the oracle is asked and whether it has failed have nothing to do with the
lines it prints.

* `Criteria.withMinTokens`: the same criteria with another least number of
  tokens;
* `Criteria.tokens_withMinTokens`: a line counts with the larger number if it
  does with the smaller, and is long enough;
* `Verdict.ofAnswer_withMinTokens`: what this does to one verdict;
* `Sweep.Thins`, `Sweep.thins_run`: what it does to a sweep;
* `DecodeTable.DropsShort`, `DecodeTable.dropsShort_run`: what it does to a
  table;
* `DecodeTable.more_tokens`: both, with the calls of the oracle.
-/

namespace BitProbe

/-- The same criteria with another least number of tokens. -/
def Criteria.withMinTokens (c : Criteria) (n : Nat) : Criteria :=
  { c with minTokens := n }

variable {m n : Nat}

/-- If more tokens are asked for, the lines that are long enough are some of
those that were before. -/
lemma Criteria.tokens_withMinTokens (h : m ≤ n) (c : Criteria)
    (output : String) :
    (c.withMinTokens n).tokens output =
      ((c.withMinTokens m).tokens output).filter fun tokens =>
        n ≤ tokens.length := by
  have hindex : ∀ k, (c.withMinTokens k).lineIndex = c.lineIndex :=
    fun _ => rfl
  have hmin : ∀ k, (c.withMinTokens k).minTokens = k := fun _ => rfl
  rw [tokens, tokens, hindex, hindex, hmin, hmin]
  cases selectedTokens c.lineIndex output with
  | none => rfl
  | some tokens =>
      dsimp only
      by_cases hn : n ≤ tokens.length
      · rw [if_pos hn, if_pos (Nat.le_trans h hn), Option.filter_some,
          if_pos (decide_eq_true hn)]
      · rw [if_neg hn]
        split
        · rw [Option.filter_some, if_neg (mt of_decide_eq_true hn)]
        · rfl

/-! ### One verdict -/

namespace Verdict

/-- A mutant that was decoded is not invalid. -/
lemma ofOutput_ne_invalid (c : Criteria) (baseline : Instruction)
    (output : String) : ofOutput c baseline output ≠ .invalid := by
  rw [ofOutput]
  split
  · simp
  · split
    · simp
    · split_ifs <;> simp

/-- If more tokens are asked for, the verdict on an answer stays, or nothing
is found out any more about a mutant that was decoded. -/
lemma ofAnswer_withMinTokens (h : m ≤ n) (c : Criteria)
    (baseline : Instruction) (a : Option Answer) :
    ofAnswer (c.withMinTokens n) baseline a =
        ofAnswer (c.withMinTokens m) baseline a ∨
      (ofAnswer (c.withMinTokens n) baseline a = .unclassified ∧
        ofAnswer (c.withMinTokens m) baseline a ≠ .invalid) := by
  rcases a with _ | e | output
  · exact .inl rfl
  · exact .inl rfl
  · have htokens := c.tokens_withMinTokens h output
    have hvalid := ofOutput_ne_invalid (c.withMinTokens m) baseline output
    simp only [ofAnswer, ofOutput] at hvalid ⊢
    rw [htokens]
    cases hm : (c.withMinTokens m).tokens output with
    | none => exact .inl rfl
    | some tokens =>
        rw [hm] at hvalid
        by_cases hn : n ≤ tokens.length
        · left
          rw [Option.filter_some, if_pos (decide_eq_true hn)]
          rfl
        · right
          rw [Option.filter_some, if_neg (mt of_decide_eq_true hn)]
          exact ⟨rfl, hvalid⟩

/-- A change of mnemonic that is still reported was reported before. -/
lemma ofAnswer_eq_opcode_of_withMinTokens (h : m ≤ n) {c : Criteria}
    {baseline : Instruction} {a : Option Answer} {new : String}
    (hnew : ofAnswer (c.withMinTokens n) baseline a = opcode new) :
    ofAnswer (c.withMinTokens m) baseline a = opcode new := by
  rcases ofAnswer_withMinTokens h c baseline a with heq | ⟨hlost, -⟩
  · rw [← heq, hnew]
  · rw [hlost] at hnew
    cases hnew

/-- The class of a bit stays, or a bit of one of the two fields belongs to no
field any more. -/
lemma bitClass_ofAnswer_withMinTokens (h : m ≤ n) (c : Criteria)
    (baseline : Instruction) (a : Option Answer) :
    let cls := (ofAnswer (c.withMinTokens m) baseline a).bitClass
    let cls' := (ofAnswer (c.withMinTokens n) baseline a).bitClass
    cls' = cls ∨
      ((cls = .opcode ∨ cls = .modifier) ∧ cls' = .unclassified) := by
  intro cls cls'
  rcases ofAnswer_withMinTokens h c baseline a with heq | ⟨hlost, hvalid⟩
  · exact .inl (congrArg bitClass heq)
  · simp only [cls, cls', hlost]
    cases hv : ofAnswer (c.withMinTokens m) baseline a with
    | opcode new => exact .inr ⟨.inl rfl, rfl⟩
    | modifier => exact .inr ⟨.inr rfl, rfl⟩
    | unclassified => exact .inl rfl
    | invalid => exact absurd hv hvalid

end Verdict

/-! ### One sweep -/

namespace Sweep

/-- How a sweep changes when more tokens are asked for. A bit keeps its class,
or leaves one of the two fields and belongs to none; so the bits of both
fields become fewer, and the changes of mnemonic some of those there were. -/
structure Thins (s s' : Sweep) : Prop where
  baseline : s'.baseline = s.baseline
  aborted : s'.aborted = s.aborted
  classes : ∀ b : Nat, s'.classes[b]? = s.classes[b]? ∨
    ((s.classes[b]? = some .opcode ∨ s.classes[b]? = some .modifier) ∧
      s'.classes[b]? = some .unclassified)
  opcodeBits : ∀ b ∈ s'.opcodeBits, b ∈ s.opcodeBits
  modifierBits : ∀ b ∈ s'.modifierBits, b ∈ s.modifierBits
  opcodeChanges : s'.opcodeChanges.Sublist s.opcodeChanges

section Thins

variable (h : m ≤ n) (c : Criteria) (baseline : Instruction)

include h

/-- A bit keeps its class, or loses it if it was in one of the two fields. -/
lemma classes_ofAnswers_withMinTokens (answers : List (Option Answer))
    (b : Nat) :
    let s := ofAnswers (c.withMinTokens m) baseline answers
    let s' := ofAnswers (c.withMinTokens n) baseline answers
    s'.classes[b]? = s.classes[b]? ∨
      ((s.classes[b]? = some .opcode ∨ s.classes[b]? = some .modifier) ∧
        s'.classes[b]? = some .unclassified) := by
  intro s s'
  simp only [s, s', getElem?_classes_ofAnswers]
  cases answers[b]? with
  | none => exact .inl rfl
  | some a =>
      simpa using Verdict.bitClass_ofAnswer_withMinTokens h c baseline a

/-- The same answers make a thinner sweep if more tokens are asked for. -/
lemma thins_ofAnswers (answers : List (Option Answer)) :
    (ofAnswers (c.withMinTokens m) baseline answers).Thins
      (ofAnswers (c.withMinTokens n) baseline answers) := by
  have hclasses := classes_ofAnswers_withMinTokens h c baseline answers
  -- a class other than the one that is left was there before
  have hkept : ∀ {b : Nat} {cls : BitClass}, cls ≠ .unclassified →
      (ofAnswers (c.withMinTokens n) baseline answers).classes[b]? =
        some cls →
      (ofAnswers (c.withMinTokens m) baseline answers).classes[b]? =
        some cls := by
    intro b cls hcls hb
    rcases hclasses b with heq | ⟨-, hlost⟩
    · rw [← heq, hb]
    · rw [hb, Option.some.injEq] at hlost
      exact absurd hlost hcls
  constructor
  case baseline => rfl
  case aborted => rfl
  case classes => exact hclasses
  case opcodeBits =>
    intro b hb
    exact (mem_opcodeBits_ofVerdicts _ _ _).2
      (hkept (by decide) ((mem_opcodeBits_ofVerdicts _ _ _).1 hb))
  case modifierBits =>
    intro b hb
    exact (mem_modifierBits_ofVerdicts _ _ _).2
      (hkept (by decide) ((mem_modifierBits_ofVerdicts _ _ _).1 hb))
  case opcodeChanges =>
    refine opcodeChanges_ofVerdicts_sublist ?_ _ _ _
    rw [List.forall₂_map_left_iff, List.forall₂_map_right_iff,
      List.forall₂_same]
    exact fun a _ new hnew =>
      Verdict.ofAnswer_eq_opcode_of_withMinTokens h hnew

/-- The sweep that an oracle makes becomes thinner if more tokens are asked
for. -/
lemma thins_run {σ : Type} (o : Oracle σ) (s : σ) :
    (run (c.withMinTokens m) o baseline s).1.Thins
      (run (c.withMinTokens n) o baseline s).1 := by
  rw [run_fst, run_fst]
  exact thins_ofAnswers h c baseline _

end Thins

end Sweep

/-! ### One table -/

namespace DecodeTable

/-- A text has the tokens that it was put together from. -/
lemma wordsOf_rendering {c : Criteria} {output : String}
    {tokens : List String} (h : c.tokens output = some tokens) :
    Text.wordsOf (String.intercalate " " tokens) = tokens :=
  Text.wordsOf_intercalate
    (isWord_of_mem_selectedTokens (Criteria.tokens_eq_some_iff.1 h).1)

/-- If more tokens are asked for, an answer enters the same text as before if
this has enough of them, and nothing otherwise. -/
lemma rendering_withMinTokens (h : m ≤ n) (c : Criteria) (a : Answer) :
    rendering (c.withMinTokens n) (some a) =
      (rendering (c.withMinTokens m) (some a)).filter fun text =>
        n ≤ (Text.wordsOf text).length := by
  cases a with
  | error e => rfl
  | ok output =>
      rw [rendering, rendering, c.tokens_withMinTokens h output]
      cases hm : (c.withMinTokens m).tokens output with
      | none => rfl
      | some tokens =>
          rw [Option.map_some, Option.filter_some, Option.filter_some,
            wordsOf_rendering hm]
          split <;> rfl

/-- How a table changes when at least `n` tokens are asked for: the rows with
fewer are gone, and nothing else has changed. -/
structure DropsShort (n : Nat) (t t' : DecodeTable) : Prop where
  instruction : t'.line = t.line ∧ t'.opcode = t.opcode ∧
    t'.encoding = t.encoding ∧ t'.positions = t.positions
  queries : t'.queries = t.queries
  skipped : t'.skipped = t.skipped
  aborted : t'.aborted = t.aborted
  entries : t'.entries.entries = t.entries.entries.filter fun e =>
    n ≤ (Text.wordsOf e.2).length

section Run

variable {σ : Type} (h : m ≤ n) (c : Criteria) (maxBits : Nat)
  (o : Oracle σ) (line : Nat) (opcode : String) (encoding : Word)
  (positions : List Nat) (s : σ)

/-- An oracle sees nothing of the criteria. -/
lemma run_snd_congr (c' : Criteria) :
    (run c maxBits o line opcode encoding positions s).2 =
      (run c' maxBits o line opcode encoding positions s).2 := by
  rw [run, run]
  split <;> rfl

include h

/-- The table that an oracle makes loses its short rows if more tokens are
asked for. -/
lemma dropsShort_run :
    (run (c.withMinTokens m) maxBits o line opcode encoding positions
      s).1.DropsShort n
        (run (c.withMinTokens n) maxBits o line opcode encoding positions
          s).1 := by
  rcases Nat.lt_or_ge (min maxBits positionsCeiling)
      (SortedSet.ofList positions).toList.length with hlt | hle
  · rw [run_of_lt _ maxBits o line opcode encoding positions s hlt,
      run_of_lt _ maxBits o line opcode encoding positions s hlt]
    exact ⟨⟨rfl, rfl, rfl, rfl⟩, rfl, rfl, rfl, rfl⟩
  · rw [run_of_le _ maxBits o line opcode encoding positions s hle,
      run_of_le _ maxBits o line opcode encoding positions s hle]
    refine ⟨⟨rfl, rfl, rfl, rfl⟩, rfl, rfl, rfl,
      SortedMap.entries_eq_filter
        (p := fun text => n ≤ (Text.wordsOf text).length) fun v => ?_⟩
    rw [find?_entries_ofAnswers, find?_entries_ofAnswers]
    cases (asked o encoding positions s)[v]? with
    | none => rfl
    | some a => exact rendering_withMinTokens h c a

/-- Asking for more tokens only discards what was decoded. A sweep is cut short
as before and leads to the same calls; each bit keeps its class, or leaves one
of the two fields and belongs to none. A table has the same questions and marks
and leads to the same calls, and its rows are those of before that have enough
tokens. This holds whatever the oracle goes by. -/
theorem more_tokens :
    (∀ baseline,
      (Sweep.run (c.withMinTokens m) o baseline s).1.Thins
        (Sweep.run (c.withMinTokens n) o baseline s).1 ∧
      (Sweep.run (c.withMinTokens n) o.transcribed baseline ([], s)).2 =
        (Sweep.run (c.withMinTokens m) o.transcribed baseline ([], s)).2) ∧
    (run (c.withMinTokens m) maxBits o line opcode encoding positions
      s).1.DropsShort n
        (run (c.withMinTokens n) maxBits o line opcode encoding positions
          s).1 ∧
    (run (c.withMinTokens n) maxBits o.transcribed line opcode encoding
        positions ([], s)).2 =
      (run (c.withMinTokens m) maxBits o.transcribed line opcode encoding
        positions ([], s)).2 := by
  refine ⟨fun baseline => ⟨Sweep.thins_run h c baseline o s, rfl⟩,
    dropsShort_run h c maxBits o line opcode encoding positions s,
    run_snd_congr _ maxBits _ line opcode encoding positions _ _⟩

end Run

/-- A disassembler that decodes two words, one of them to a text with a token
more, and fails at a third. -/
def unevenTexts (w : Word) : Answer :=
  if w = 0x01#64 then .ok "/*0008*/ ADD R0 /*0x01*/"
  else if w = 0x02#64 then .ok "RED R0, R1 /*0x02*/"
  else if w = 0x08#64 then .error (.processFailure "no answer")
  else .error .ambiguous

/-- With four tokens asked for instead of two, the first bit leaves the opcode
field and the second stays, and of two rows the longer one is left. -/
theorem more_tokens_two :
    let o := Oracle.ofFunction unevenTexts
    let c : Criteria := ⟨0, 0, ∅⟩
    let atom : Instruction := ⟨none, "ATOM", ∅, [], 0#64, 2⟩
    let s := (Sweep.run (c.withMinTokens 2) o atom ()).1
    let s' := (Sweep.run (c.withMinTokens 4) o atom ()).1
    let t := (run (c.withMinTokens 2) 12 o 1 "ATOM" 0#64 [0, 1] ()).1
    let t' := (run (c.withMinTokens 4) 12 o 1 "ATOM" 0#64 [0, 1] ()).1
    2 ≤ 4 ∧ s.opcodeBits.toList = [0, 1] ∧ s'.opcodeBits.toList = [1] ∧
    s'.opcodeChanges.Sublist s.opcodeChanges ∧ s'.aborted = s.aborted ∧
    t.entries.entries =
      [(1, "ADD R0 /*0x01*/"), (2, "RED R0, R1 /*0x02*/")] ∧
    t'.entries.entries = [(2, "RED R0, R1 /*0x02*/")] := by
  intro o c atom s s' t t'
  have hle : 2 ≤ 4 := by decide
  obtain ⟨hsweep, htable, -⟩ :=
    more_tokens hle c 12 o 1 "ATOM" 0#64 [0, 1] ()
  have hrows : t.entries.entries =
      [(1, "ADD R0 /*0x01*/"), (2, "RED R0, R1 /*0x02*/")] := by
    decide +kernel
  refine ⟨hle, by decide +kernel, by decide +kernel,
    (hsweep atom).1.opcodeChanges, (hsweep atom).1.aborted, hrows, ?_⟩
  rw [htable.entries, hrows]
  decide +kernel

end DecodeTable

end BitProbe

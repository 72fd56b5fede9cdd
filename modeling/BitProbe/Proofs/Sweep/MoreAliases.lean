import BitProbe.Proofs.Alias.Connected
import BitProbe.Proofs.Sweep.Classes

/-!
Sweeps with more aliases.

Aliases are looked at only where two mnemonics are compared. So if pairs are
added, most verdicts stay; only a changed mnemonic may turn out to count as
equal, and then the modifiers decide about the bit. The words that are asked
about, and the answers, have nothing to do with aliases.

* `Criteria.withAliases`: the same criteria with other aliases;
* `Verdict.ofAnswer_more`: what added pairs do to one verdict;
* `Sweep.Narrows`, `Sweep.narrows_run`: what they do to a sweep.
-/

namespace BitProbe

/-- The same criteria with the aliases of some pairs. -/
def Criteria.withAliases (c : Criteria) (pairs : List (String × String)) :
    Criteria :=
  { c with aliases := .ofPairs pairs }

variable {pairs more : List (String × String)}

/-! ### One verdict -/

/-- If pairs are added, the verdict on an answer stays, or a mnemonic that was
reported as changed counts as equal now, and the modifiers decide. -/
lemma Verdict.ofAnswer_more
    (h : AliasTable.edges pairs ⊆ AliasTable.edges more) (c : Criteria)
    (baseline : Instruction) (a : Option Answer) :
    ofAnswer (c.withAliases more) baseline a =
        ofAnswer (c.withAliases pairs) baseline a ∨
      ∃ output tokens mutant, a = some (.ok output) ∧
        c.tokens output = some tokens ∧
        Instruction.ofTokens tokens = .ok mutant ∧
        ofAnswer (c.withAliases pairs) baseline a = opcode mutant.opcode ∧
        ofAnswer (c.withAliases more) baseline a =
          if mutant.modifiers ≠ baseline.modifiers then modifier
          else unclassified := by
  have htokens : ∀ (ps : List (String × String)) (output : String),
      (c.withAliases ps).tokens output = c.tokens output :=
    fun _ _ => rfl
  rcases a with _ | e | output
  · exact .inl rfl
  · exact .inl rfl
  · rw [ofAnswer, ofAnswer, ofOutput, ofOutput, htokens, htokens]
    cases ht : c.tokens output with
    | none => exact .inl rfl
    | some tokens =>
        cases hm : Instruction.ofTokens tokens with
        | error e =>
            dsimp only
            rw [hm]
            exact .inl rfl
        | ok mutant =>
            dsimp only
            rw [hm]
            dsimp only
            cases hold : (AliasTable.ofPairs pairs).equivalent mutant.opcode
              baseline.opcode with
            | true =>
                have hnew := AliasTable.equivalent_mono h hold
                rw [Criteria.withAliases, Criteria.withAliases, hold, hnew]
                exact .inl rfl
            | false =>
                cases hnew : (AliasTable.ofPairs more).equivalent
                  mutant.opcode baseline.opcode with
                | false =>
                    rw [Criteria.withAliases, Criteria.withAliases, hold,
                      hnew]
                    exact .inl rfl
                | true =>
                    rw [Criteria.withAliases, Criteria.withAliases, hold,
                      hnew]
                    exact .inr ⟨output, tokens, mutant, rfl, ht, hm, rfl,
                      rfl⟩

/-- No mnemonic is reported as changed that was not before. -/
lemma Verdict.ofAnswer_eq_opcode_of_more
    (h : AliasTable.edges pairs ⊆ AliasTable.edges more) {c : Criteria}
    {baseline : Instruction} {a : Option Answer} {new : String}
    (hnew : ofAnswer (c.withAliases more) baseline a = opcode new) :
    ofAnswer (c.withAliases pairs) baseline a = opcode new := by
  rcases ofAnswer_more h c baseline a with heq | ⟨_, _, mutant, -, -, -, -, hm⟩
  · rw [← heq, hnew]
  · rw [hm] at hnew
    split at hnew <;> cases hnew

/-! ### One sweep -/

namespace Sweep

/-- How a sweep changes when pairs are added to the aliases. Bits outside the
opcode keep their class. A bit of the opcode stays one, with the same change
of mnemonic, or its class is that of a mutant with an equal mnemonic, and the
modifiers decide. -/
structure Narrows (c : Criteria) (f : Word → Answer) (s s' : Sweep) :
    Prop where
  baseline : s'.baseline = s.baseline
  aborted : s'.aborted = s.aborted
  kept : ∀ (b : Nat) (cls : BitClass), cls ≠ .opcode →
    s.classes[b]? = some cls → s'.classes[b]? = some cls
  opcode : ∀ b : Nat, s.classes[b]? = some .opcode → ∃ new : String,
    ⟨s.baseline.opcode, new, b⟩ ∈ s.opcodeChanges ∧
    ((s'.classes[b]? = some .opcode ∧
        ⟨s.baseline.opcode, new, b⟩ ∈ s'.opcodeChanges) ∨
      ∃ output tokens mutant,
        f (s.baseline.encoding.flip b) = .ok output ∧
        c.tokens output = some tokens ∧
        Instruction.ofTokens tokens = .ok mutant ∧ mutant.opcode = new ∧
        s'.classes[b]? =
          some (if mutant.modifiers ≠ s.baseline.modifiers then .modifier
            else .unclassified))
  opcodeBits : ∀ b ∈ s'.opcodeBits, b ∈ s.opcodeBits
  modifierBits : ∀ b ∈ s.modifierBits, b ∈ s'.modifierBits
  opcodeChanges : s'.opcodeChanges.Sublist s.opcodeChanges

/-- A bit is one of the opcode exactly if a change of mnemonic is recorded for
it. -/
lemma classes_ofAnswers_opcode_iff (c : Criteria) (baseline : Instruction)
    (answers : List (Option Answer)) (b : Nat) :
    (ofAnswers c baseline answers).classes[b]? = some .opcode ↔
      ∃ a new, answers[b]? = some a ∧
        Verdict.ofAnswer c baseline a = .opcode new := by
  rw [getElem?_classes_ofAnswers, Option.map_eq_some_iff]
  refine exists_congr fun a => ?_
  cases Verdict.ofAnswer c baseline a <;> simp [Verdict.bitClass]

section Narrows

variable (h : AliasTable.edges pairs ⊆ AliasTable.edges more) (c : Criteria)
  (baseline : Instruction) (answers : List (Option Answer))

include h

/-- Bits outside the opcode keep their class if pairs are added. -/
lemma classes_ofAnswers_kept {b : Nat} {cls : BitClass} (hne : cls ≠ .opcode)
    (hb : (ofAnswers (c.withAliases pairs) baseline answers).classes[b]? =
      some cls) :
    (ofAnswers (c.withAliases more) baseline answers).classes[b]? =
      some cls := by
  rw [getElem?_classes_ofAnswers, Option.map_eq_some_iff] at hb
  obtain ⟨a, ha, rfl⟩ := hb
  rw [getElem?_classes_ofAnswers, ha, Option.map_some]
  rcases Verdict.ofAnswer_more h c baseline a with heq | hchanged
  · rw [heq]
  · obtain ⟨_, _, mutant, -, -, -, hold, -⟩ := hchanged
    rw [hold] at hne
    exact absurd rfl hne

/-- A bit of the opcode stays one, with its change of mnemonic, or the
modifiers decide about it. -/
lemma classes_ofAnswers_opcode {b : Nat}
    (hb : (ofAnswers (c.withAliases pairs) baseline answers).classes[b]? =
      some .opcode) :
    ∃ new : String,
      ⟨baseline.opcode, new, b⟩ ∈
        (ofAnswers (c.withAliases pairs) baseline answers).opcodeChanges ∧
      (((ofAnswers (c.withAliases more) baseline answers).classes[b]? =
            some .opcode ∧
          ⟨baseline.opcode, new, b⟩ ∈
            (ofAnswers (c.withAliases more) baseline
              answers).opcodeChanges) ∨
        ∃ output tokens mutant,
          answers[b]? = some (some (.ok output)) ∧
          c.tokens output = some tokens ∧
          Instruction.ofTokens tokens = .ok mutant ∧ mutant.opcode = new ∧
          (ofAnswers (c.withAliases more) baseline answers).classes[b]? =
            some (if mutant.modifiers ≠ baseline.modifiers then .modifier
              else .unclassified)) := by
  obtain ⟨a, new, ha, hv⟩ := (classes_ofAnswers_opcode_iff _ _ _ _).1 hb
  have hchange : ∀ ps, Verdict.ofAnswer (c.withAliases ps) baseline a =
      .opcode new → ⟨baseline.opcode, new, b⟩ ∈
        (ofAnswers (c.withAliases ps) baseline answers).opcodeChanges := by
    intro ps hps
    refine (mem_opcodeChanges_ofVerdicts _ _ _).2 ⟨?_, rfl⟩
    rw [List.getElem?_map, ha, Option.map_some, hps]
  refine ⟨new, hchange pairs hv, ?_⟩
  rcases Verdict.ofAnswer_more h c baseline a with heq | hchanged
  · rw [hv] at heq
    exact .inl ⟨(classes_ofAnswers_opcode_iff _ _ _ _).2 ⟨a, new, ha, heq⟩,
      hchange more heq⟩
  · obtain ⟨output, tokens, mutant, rfl, htok, hread, hold, hnew⟩ := hchanged
    rw [hv] at hold
    refine .inr ⟨output, tokens, mutant, ha, htok, hread,
      (Verdict.opcode.inj hold).symm, ?_⟩
    rw [getElem?_classes_ofAnswers, ha, Option.map_some, hnew]
    exact congrArg some (apply_ite Verdict.bitClass _ _ _)

/-- Answers of a function to the mutants make a narrower sweep if pairs are
added. -/
theorem narrows_ofAnswers (f : Word → Answer)
    (hf : ∀ (b : Nat) (a : Answer), answers[b]? = some (some a) →
      f (baseline.encoding.flip b) = a) :
    (ofAnswers (c.withAliases pairs) baseline answers).Narrows c f
      (ofAnswers (c.withAliases more) baseline answers) := by
  constructor
  case baseline => rfl
  case aborted => rfl
  case kept =>
    exact fun b cls hne hb =>
      classes_ofAnswers_kept h c baseline answers hne hb
  case opcode =>
    intro b hb
    obtain ⟨new, hold, hnew⟩ :=
      classes_ofAnswers_opcode h c baseline answers hb
    refine ⟨new, hold, hnew.imp_right ?_⟩
    rintro ⟨output, tokens, mutant, ha, hread⟩
    exact ⟨output, tokens, mutant, hf b _ ha, hread⟩
  case opcodeBits =>
    intro b hb
    obtain ⟨a, new, ha, hv⟩ := (classes_ofAnswers_opcode_iff _ _ _ _).1
      ((mem_opcodeBits_ofVerdicts _ _ _).1 hb)
    exact (mem_opcodeBits_ofVerdicts _ _ _).2
      ((classes_ofAnswers_opcode_iff _ _ _ _).2
        ⟨a, new, ha, Verdict.ofAnswer_eq_opcode_of_more h hv⟩)
  case modifierBits =>
    intro b hb
    exact (mem_modifierBits_ofVerdicts _ _ _).2
      (classes_ofAnswers_kept h c baseline answers (by decide)
        ((mem_modifierBits_ofVerdicts _ _ _).1 hb))
  case opcodeChanges =>
    refine opcodeChanges_ofVerdicts_sublist ?_ _ _ _
    rw [List.forall₂_map_left_iff, List.forall₂_map_right_iff,
      List.forall₂_same]
    exact fun a _ new hnew => Verdict.ofAnswer_eq_opcode_of_more h hnew

omit answers in
/-- The sweep that a function leads to becomes narrower if pairs are added. -/
theorem narrows_run (f : Word → Answer) :
    (run (c.withAliases pairs) (Oracle.ofFunction f) baseline ()).1.Narrows c
      f (run (c.withAliases more) (Oracle.ofFunction f) baseline ()).1 := by
  rw [run_fst, run_fst]
  refine narrows_ofAnswers h c baseline _ f fun b a ha => ?_
  -- a bit with an answer was asked about, and the answer is the function's
  obtain ⟨rest, hrest⟩ :=
    Oracle.ask_ofFunction_isPrefix f (mutants baseline.encoding)
  have hask := getElem?_of_padded ha
  have hlt := (List.getElem?_eq_some_iff.1 hask).1
  have hmap : ((mutants baseline.encoding).map f)[b]? = some a := by
    rw [← hrest, List.getElem?_append_left hlt, hask]
  have hb : b < 64 := by
    have hle := (List.getElem?_eq_some_iff.1 hmap).1
    rwa [List.length_map, length_mutants] at hle
  rw [List.getElem?_map, getElem?_mutants _ hb] at hmap
  exact Option.some.inj hmap

end Narrows

end Sweep

end BitProbe

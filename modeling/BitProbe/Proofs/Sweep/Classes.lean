import BitProbe.Proofs.Oracle.Asking
import BitProbe.Sweep
import Mathlib.Data.List.Nodup

/-!
What the parts of a sweep have to do with one another.

A sweep keeps the classes of all bits, and besides the bits of two classes
and the changes of mnemonic. All of these come from one list of verdicts, so
the bits are those whose class it is, by ascending number, and there is one
change for each bit of the opcode.

* `Sweep.getElem?_classes_ofVerdicts`, `Sweep.mem_opcodeBits_ofVerdicts`,
  `Sweep.mem_modifierBits_ofVerdicts`, `Sweep.mem_opcodeChanges_ofVerdicts`:
  what verdicts lead to, bit by bit;
* `Sweep.getElem?_classes_ofAnswers`: what answers lead to;
* `Sweep.opcodeChanges_ofVerdicts_sublist`: fewer reports of a changed
  mnemonic;
* `Sweep.Consistent`: the parts of a sweep agree;
* `Sweep.consistent_ofVerdicts`: they do if the verdicts are justified;
* `Sweep.consistent_run`: every sweep that an oracle makes is consistent;
* `Verdict.exists_of_ofAnswer_opcode`, `Verdict.exists_of_bitClass_modifier`:
  what shows a bit of the opcode and a modifier bit.
-/

namespace BitProbe

/-! ### Bits by class -/

/-- Positions ascend in the order of a sorted set. -/
lemma pairwise_compare_of_pairwise_lt {l : List Nat}
    (h : l.Pairwise (· < ·)) : l.Pairwise fun a b => compare a b = .lt :=
  h.imp fun hab => Nat.compare_eq_lt.2 hab

/-- The bits of a class are the places of the class among all. -/
lemma bitsOf_eq_idxsOf (cls : BitClass) (verdicts : List Verdict) :
    bitsOf cls verdicts = (verdicts.map Verdict.bitClass).idxsOf cls := by
  have h : ∀ start, ((verdicts.zipIdx start).filter fun v =>
      v.1.bitClass = cls).map (·.2) =
        (verdicts.map Verdict.bitClass).idxsOf cls start := by
    induction verdicts with
    | nil => simp
    | cons v vs ih =>
        intro start
        rw [List.zipIdx_cons, List.map_cons, List.idxsOf_cons, ← ih,
          List.filter_cons]
        by_cases hv : v.bitClass = cls <;> simp [hv]
  exact h 0

/-- A set made of the places of a class lists them in ascending order. -/
lemma toList_ofList_bitsOf (cls : BitClass) (verdicts : List Verdict) :
    (SortedSet.ofList (bitsOf cls verdicts)).toList =
      (verdicts.map Verdict.bitClass).idxsOf cls := by
  rw [bitsOf_eq_idxsOf]
  exact SortedSet.toList_ofList
    (pairwise_compare_of_pairwise_lt List.pairwise_idxsOf)

/-- A class has places among others if it is one of them. -/
lemma idxsOf_ne_nil_iff {cls : BitClass} {classes : List BitClass} :
    classes.idxsOf cls ≠ [] ↔ cls ∈ classes := by
  rw [ne_eq, List.idxsOf_eq_nil_iff]
  simp

lemma mem_idxsOf_iff {cls : BitClass} {classes : List BitClass} {b : Nat} :
    b ∈ classes.idxsOf cls ↔ classes[b]? = some cls := by
  rw [List.mem_idxsOf_iff_exists_getElem_pos, List.getElem?_eq_some_iff]
  simp

namespace Verdict

/-- Only a verdict of the opcode class records a change. -/
lemma change_eq_some_iff {baseline : Instruction} {bit : Nat} {v : Verdict}
    {c : OpcodeChange} :
    v.change baseline bit = some c ↔
      v = opcode c.new ∧ c.old = baseline.opcode ∧ c.bit = bit := by
  obtain ⟨old, new, b⟩ := c
  cases v with
  | opcode m =>
      simp only [change, Option.some.injEq, OpcodeChange.mk.injEq,
        opcode.injEq]
      grind
  | modifier | unclassified | invalid => simp [change]

/-- A mnemonic is reported as changed only by a text with enough tokens that
reads as an instruction with this mnemonic, which is not equivalent to the
baseline's. -/
lemma exists_of_ofAnswer_opcode {c : Criteria} {baseline : Instruction}
    {a : Option Answer} {new : String}
    (h : ofAnswer c baseline a = opcode new) :
    ∃ output tokens mutant, a = some (.ok output) ∧
      c.tokens output = some tokens ∧
      Instruction.ofTokens tokens = .ok mutant ∧ mutant.opcode = new ∧
      c.aliases.equivalent new baseline.opcode = false := by
  rcases a with _ | e | output
  · cases h
  · cases h
  · rw [ofAnswer, ofOutput] at h
    split at h
    · cases h
    · rename_i tokens ht
      split at h
      · cases h
      · rename_i mutant hm
        split at h
        · rename_i hne
          cases h
          exact ⟨output, tokens, mutant, rfl, ht, hm, rfl, by simpa using hne⟩
        · split at h <;> cases h

lemma not_equivalent_of_ofAnswer {c : Criteria} {baseline : Instruction}
    {a : Option Answer} {new : String}
    (h : ofAnswer c baseline a = opcode new) :
    c.aliases.equivalent new baseline.opcode = false := by
  obtain ⟨_, _, _, -, -, -, -, hne⟩ := exists_of_ofAnswer_opcode h
  exact hne

/-- A modifier bit is shown by a text with enough tokens that reads as an
instruction with an equivalent mnemonic and other modifiers. -/
lemma exists_of_bitClass_modifier {c : Criteria} {baseline : Instruction}
    {a : Answer} (h : (ofAnswer c baseline (some a)).bitClass = .modifier) :
    ∃ output tokens mutant, a = .ok output ∧
      c.tokens output = some tokens ∧
      Instruction.ofTokens tokens = .ok mutant ∧
      c.aliases.equivalent mutant.opcode baseline.opcode = true ∧
      mutant.modifiers ≠ baseline.modifiers := by
  cases a with
  | error e => cases h
  | ok output =>
      rw [ofAnswer, ofOutput] at h
      split at h
      · cases h
      · rename_i tokens ht
        split at h
        · cases h
        · rename_i mutant hm
          split at h
          · cases h
          · rename_i heq
            split at h
            · rename_i hne
              exact ⟨output, tokens, mutant, rfl, ht, hm, by simpa using heq,
                hne⟩
            · cases h

end Verdict

namespace Sweep

/-- The parts of a sweep agree: there is a class for every bit of a word, the
bits of a class are kept in ascending order, and each bit of the opcode has
one change of mnemonic, from that of the baseline to one that is not
equivalent to it. -/
structure Consistent (c : Criteria) (s : Sweep) : Prop where
  length_classes : s.classes.length = Word.width
  opcodeBits : s.opcodeBits.toList = s.classes.idxsOf .opcode
  modifierBits : s.modifierBits.toList = s.classes.idxsOf .modifier
  changes : s.opcodeChanges.map (fun d => (d.old, d.bit)) =
    (s.classes.idxsOf .opcode).map fun b => (s.baseline.opcode, b)
  changed : ∀ d ∈ s.opcodeChanges, c.aliases.equivalent d.new d.old = false

/-- The bits of a class are bits of a word. -/
lemma Consistent.lt_of_mem_idxsOf {c : Criteria} {s : Sweep}
    (h : s.Consistent c) {cls : BitClass} {b : Nat}
    (hb : b ∈ s.classes.idxsOf cls) : b < 64 := by
  have hlt := List.lt_add_of_mem_idxsOf b hb
  rwa [h.length_classes, Nat.add_zero] at hlt

/-- The changes of mnemonic stand for the bits of the opcode, one each. -/
lemma map_changes (baseline : Instruction) (verdicts : List Verdict) :
    (verdicts.zipIdx.filterMap fun v => v.1.change baseline v.2).map
        (fun d => (d.old, d.bit)) =
      ((verdicts.map Verdict.bitClass).idxsOf .opcode).map fun b =>
        (baseline.opcode, b) := by
  have h : ∀ start, ((verdicts.zipIdx start).filterMap fun v =>
      v.1.change baseline v.2).map (fun d => (d.old, d.bit)) =
        ((verdicts.map Verdict.bitClass).idxsOf .opcode start).map fun b =>
          (baseline.opcode, b) := by
    induction verdicts with
    | nil => simp
    | cons v vs ih =>
        intro start
        rw [List.zipIdx_cons, List.map_cons, List.idxsOf_cons]
        cases v with
        | opcode new =>
            have hc : (Verdict.opcode new).change baseline start =
                some ⟨baseline.opcode, new, start⟩ := rfl
            have hb : ((Verdict.opcode new).bitClass == .opcode) = true := rfl
            rw [List.filterMap_cons, hc, if_pos hb, List.map_cons,
              List.map_cons, ih]
        | modifier | unclassified | invalid =>
            rw [List.filterMap_cons, if_neg (by decide), ← ih]
            rfl
  exact h 0

section Verdicts

variable (baseline : Instruction) (verdicts : List Verdict) (aborted : Bool)

/-- The class of a bit is that of the verdict on it. -/
lemma getElem?_classes_ofVerdicts (b : Nat) :
    (ofVerdicts baseline verdicts aborted).classes[b]? =
      verdicts[b]?.map Verdict.bitClass :=
  List.getElem?_map

/-- The bits of the opcode are those with that class. -/
lemma mem_opcodeBits_ofVerdicts {b : Nat} :
    b ∈ (ofVerdicts baseline verdicts aborted).opcodeBits ↔
      (ofVerdicts baseline verdicts aborted).classes[b]? = some .opcode := by
  have hlist := toList_ofList_bitsOf .opcode verdicts
  rw [← mem_idxsOf_iff]
  exact Iff.of_eq (congrArg (b ∈ ·) hlist)

/-- The modifier bits are those with that class. -/
lemma mem_modifierBits_ofVerdicts {b : Nat} :
    b ∈ (ofVerdicts baseline verdicts aborted).modifierBits ↔
      (ofVerdicts baseline verdicts aborted).classes[b]? =
        some .modifier := by
  have hlist := toList_ofList_bitsOf .modifier verdicts
  rw [← mem_idxsOf_iff]
  exact Iff.of_eq (congrArg (b ∈ ·) hlist)

/-- The changes of mnemonic are those that the verdicts report. -/
lemma mem_opcodeChanges_ofVerdicts {d : OpcodeChange} :
    d ∈ (ofVerdicts baseline verdicts aborted).opcodeChanges ↔
      verdicts[d.bit]? = some (.opcode d.new) ∧
        d.old = baseline.opcode := by
  rw [ofVerdicts, List.mem_filterMap]
  simp only [Prod.exists, List.mem_zipIdx_iff_getElem?,
    Verdict.change_eq_some_iff]
  constructor
  · rintro ⟨v, b, hv, rfl, hold, rfl⟩
    exact ⟨hv, hold⟩
  · rintro ⟨hv, hold⟩
    exact ⟨_, _, hv, rfl, hold, rfl⟩

/-- They go through the bits of the opcode. -/
lemma map_bit_opcodeChanges_ofVerdicts :
    (ofVerdicts baseline verdicts aborted).opcodeChanges.map (·.bit) =
      (ofVerdicts baseline verdicts aborted).opcodeBits.toList := by
  have hbits := congrArg (List.map Prod.snd) (map_changes baseline verdicts)
  rw [List.map_map, List.map_map] at hbits
  exact hbits.trans
    ((List.map_id' _).trans (toList_ofList_bitsOf _ _).symm)

end Verdicts

/-- The class of a bit is that of the verdict on its answer. -/
lemma getElem?_classes_ofAnswers (c : Criteria) (baseline : Instruction)
    (answers : List (Option Answer)) (b : Nat) :
    (ofAnswers c baseline answers).classes[b]? =
      answers[b]?.map fun a => (Verdict.ofAnswer c baseline a).bitClass := by
  rw [ofAnswers, getElem?_classes_ofVerdicts, List.getElem?_map,
    Option.map_map]
  rfl

/-- Verdicts that report no other change of mnemonic than others at the same
bits lead to some of their changes, in the same order. -/
lemma opcodeChanges_ofVerdicts_sublist {vs ws : List Verdict}
    (h : List.Forall₂
      (fun v w => ∀ new, v = Verdict.opcode new → w = Verdict.opcode new)
      vs ws) (baseline : Instruction) (aborted aborted' : Bool) :
    (ofVerdicts baseline vs aborted).opcodeChanges.Sublist
      (ofVerdicts baseline ws aborted').opcodeChanges := by
  have hfrom : ∀ start, ((vs.zipIdx start).filterMap fun v =>
      v.1.change baseline v.2).Sublist
        ((ws.zipIdx start).filterMap fun v => v.1.change baseline v.2) := by
    induction h with
    | nil => exact fun start => List.Sublist.refl _
    | @cons v w vs ws hvw hrest ih =>
        intro start
        rw [List.zipIdx_cons, List.zipIdx_cons, List.filterMap_cons]
        cases v with
        | opcode new =>
            rw [hvw new rfl]
            exact (ih (start + 1)).cons_cons _
        | modifier | unclassified | invalid =>
            exact (ih (start + 1)).trans
              ((List.sublist_cons_self _ _).filterMap _)
  exact hfrom 0

/-- Verdicts on all bits, none of which reports an equivalent mnemonic as
changed, make a consistent sweep. -/
theorem consistent_ofVerdicts {c : Criteria} {baseline : Instruction}
    {verdicts : List Verdict} (aborted : Bool)
    (hlen : verdicts.length = Word.width)
    (hne : ∀ new, Verdict.opcode new ∈ verdicts →
      c.aliases.equivalent new baseline.opcode = false) :
    (ofVerdicts baseline verdicts aborted).Consistent c where
  length_classes := by rw [ofVerdicts, List.length_map, hlen]
  opcodeBits := toList_ofList_bitsOf _ _
  modifierBits := toList_ofList_bitsOf _ _
  changes := map_changes _ _
  changed := by
    intro d hd
    obtain ⟨⟨v, b⟩, hv, hd⟩ := List.mem_filterMap.1 hd
    obtain ⟨rfl, hold, -⟩ := Verdict.change_eq_some_iff.1 hd
    rw [hold]
    exact hne _ (List.fst_mem_of_mem_zipIdx hv)

/-- Answers are filled up to one for each question. -/
lemma length_padded {n : Nat} {answers : List Answer}
    (h : answers.length ≤ n) : (padded n answers).length = n := by
  rw [padded, List.length_append, List.length_map, List.length_replicate]
  omega

/-- An answer among those that were filled up was given. -/
lemma getElem?_of_padded {n b : Nat} {answers : List Answer} {a : Answer}
    (h : (padded n answers)[b]? = some (some a)) :
    answers[b]? = some a := by
  rw [padded, List.getElem?_append, List.length_map] at h
  split at h
  · rw [List.getElem?_map, Option.map_eq_some_iff] at h
    obtain ⟨_, ha, hsome⟩ := h
    rw [ha, hsome]
  · rw [List.getElem?_replicate] at h
    split at h <;> cases h

/-- Each question has its answer, if it was asked. -/
lemma getElem?_padded {n b : Nat} (answers : List Answer) (hb : b < n) :
    (padded n answers)[b]? = some answers[b]? := by
  rw [padded, List.getElem?_append, List.length_map, List.getElem?_map,
    List.getElem?_replicate]
  by_cases hlt : b < answers.length
  · rw [if_pos hlt, List.getElem?_eq_getElem hlt, Option.map_some]
  · rw [if_neg hlt, if_pos (by omega), List.getElem?_eq_none (by omega)]

/-- A failure is among the answers that were given. -/
lemma any_padded (n : Nat) (answers : List Answer) :
    (padded n answers).any (fun a => a.any Answer.isFailure) =
      answers.any Answer.isFailure := by
  rw [padded, List.any_append, List.any_map]
  have h : (List.replicate (n - answers.length) (none : Option Answer)).any
      (fun a => a.any Answer.isFailure) = false := by
    simp
  rw [h, Bool.or_false]
  rfl

/-- A word has as many mutants as bits. -/
@[simp] lemma length_mutants (w : Word) :
    (mutants w).length = Word.width := by
  rw [mutants, List.length_map, List.length_range]

/-- The mutant of a bit has this bit flipped. -/
lemma getElem?_mutants (w : Word) {b : Nat} (hb : b < 64) :
    (mutants w)[b]? = some (w.flip b) := by
  rw [mutants, List.getElem?_map,
    List.getElem?_range (show b < Word.width from hb)]
  rfl

variable {σ : Type}

/-- A sweep is of the baseline that it was made for. -/
@[simp] lemma baseline_run (c : Criteria) (o : Oracle σ)
    (baseline : Instruction) (s : σ) :
    (run c o baseline s).1.baseline = baseline :=
  rfl

/-- A sweep is made of the answers that the oracle gives about the
mutants. -/
lemma run_fst (c : Criteria) (o : Oracle σ) (baseline : Instruction)
    (s : σ) :
    (run c o baseline s).1 = ofAnswers c baseline
      (padded Word.width (o.ask (mutants baseline.encoding) s).1) :=
  rfl

/-- The sweep that an oracle makes is consistent, whatever the oracle
answers. -/
theorem consistent_run (c : Criteria) (o : Oracle σ)
    (baseline : Instruction) (s : σ) :
    (run c o baseline s).1.Consistent c := by
  rw [run_fst, ofAnswers]
  refine consistent_ofVerdicts _ ?_ fun new hnew => ?_
  · have hle := o.length_ask_le (mutants baseline.encoding) s
    rw [length_mutants] at hle
    rw [List.length_map, length_padded hle]
  · obtain ⟨a, -, ha⟩ := List.mem_map.1 hnew
    exact Verdict.not_equivalent_of_ofAnswer ha

/-- A sweep is cut short by a process failure among the answers. -/
lemma aborted_run (c : Criteria) (o : Oracle σ) (baseline : Instruction)
    (s : σ) :
    (run c o baseline s).1.aborted =
      (o.ask (mutants baseline.encoding) s).1.any Answer.isFailure := by
  rw [run_fst]
  exact any_padded _ _

end Sweep

end BitProbe

import BitProbe.Proofs.Oracle.Transcript
import BitProbe.Proofs.Survey.Isolation
import BitProbe.Proofs.Sweep.MoreAliases

/-!
Surveys with more aliases.

Added aliases can only take something away from the opcode field. What a
survey reports about it shrinks: the bits to some of them, and the changes of
mnemonic to some of them in the same order. The modifier bits of each line
grow. The words that are asked about stay the same, as long as no modifiers
are enumerated.

* `FieldMap.exists_shown_of_subset`: a sweep that has shown more;
* `Survey.mem_opcodeBits_run_iff`, `Survey.modifierBitsOf_run_iff`: a report by
  the sweeps of its entries;
* `Survey.run_snd_opcodes`: an oracle sees nothing of the aliases;
* `Survey.more_aliases`: what added aliases do to all sweeps and to a survey.
-/

namespace BitProbe

/-- A sweep of the same baseline that has shown more bits says more about its
line. -/
lemma FieldMap.exists_shown_of_subset {s s' : Sweep} {bits : ModifierBits}
    (hbase : s'.baseline = s.baseline)
    (hsub : ∀ b ∈ s.modifierBits, b ∈ s'.modifierBits)
    (h : shown s = some bits) :
    ∃ bits', shown s' = some bits' ∧ bits'.opcode = bits.opcode ∧
      bits'.encoding = bits.encoding ∧
      bits.positions ⊆ bits'.positions := by
  have hne : s.modifierBits.toList ≠ [] := by
    rintro hnil
    rw [shown, SortedSet.isEmpty, hnil] at h
    cases h
  have hne' : s'.modifierBits.toList ≠ [] := by
    obtain ⟨b, hb⟩ := List.exists_mem_of_ne_nil _ hne
    exact List.ne_nil_of_mem (hsub b hb)
  rw [shown, SortedSet.isEmpty, List.isEmpty_eq_false_iff.2 hne,
    if_neg Bool.false_ne_true] at h
  cases h
  refine ⟨⟨s'.baseline.opcode, s'.baseline.encoding,
    s'.modifierBits.toList⟩, ?_, congrArg Instruction.opcode hbase,
    congrArg Instruction.encoding hbase, hsub⟩
  rw [shown, SortedSet.isEmpty, List.isEmpty_eq_false_iff.2 hne',
    if_neg Bool.false_ne_true]

namespace Survey

/-- The same plan with the aliases of some pairs. -/
def Plan.withAliases (p : Plan) (pairs : List (String × String)) : Plan :=
  { p with criteria := p.criteria.withAliases pairs }

/-! ### Reports by the sweeps of their entries -/

section Pure

variable (p : Plan) (g : Goal) (f : Word → Answer) (l : Listing)

/-- With an oracle that is a function, the bits of the opcode are those that
the entries show, each swept by itself. -/
lemma mem_opcodeBits_run_iff (b : Nat) :
    b ∈ (run p g (Oracle.ofFunction f) l ()).1.fields.opcodeBits ↔
      ∃ e ∈ l.entries, b ∈ (Sweep.run p.criteria (Oracle.ofFunction f)
        e.instruction ()).1.opcodeBits := by
  have hempty : b ∉ (∅ : FieldMap).opcodeBits := SortedSet.not_mem_empty b
  rw [run_ofFunction, fields_report, FieldMap.mem_opcodeBits_recordAll,
    or_iff_right hempty, List.map_map]
  simp only [List.mem_map, exists_exists_and_eq_and]
  rfl

/-- On distinct lines, the modifier bits of a line are those that its entry
shows. -/
lemma modifierBitsOf_run_iff (hlines : (l.entries.map (·.line)).Nodup)
    (line : Nat) (bits : ModifierBits) :
    (run p g (Oracle.ofFunction f) l ()).1.fields.modifierBitsOf line =
        some bits ↔
      ∃ e ∈ l.entries, e.line = line ∧
        FieldMap.shown (Sweep.run p.criteria (Oracle.ofFunction f)
          e.instruction ()).1 = some bits := by
  rw [run_ofFunction, fields_report, List.map_map,
    FieldMap.modifierBitsOf_recordAll_iff]
  · simp only [List.mem_map, exists_exists_and_eq_and]
    rfl
  · rw [List.map_map]
    exact hlines

end Pure

/-- If no modifiers are looked for, an oracle is asked the same and ends up
the same, whatever the aliases are. -/
lemma run_snd_opcodes {σ : Type} (p : Plan) (pairs more)
    (o : Oracle σ) (l : Listing) (s : σ) :
    (run (p.withAliases more) .opcodes o l s).2 =
      (run (p.withAliases pairs) .opcodes o l s).2 := by
  have hall : ∀ (es : List Listing.Entry) (s : σ),
      (examineAll (p.withAliases more) .opcodes o es s).2 =
        (examineAll (p.withAliases pairs) .opcodes o es s).2 := by
    intro es
    induction es with
    | nil => exact fun s => rfl
    | cons e es ih => exact fun s => ih _
  exact hall l.entries s

/-! ### More aliases -/

section More

variable {pairs more : List (String × String)}
  (h : AliasTable.edges pairs ⊆ AliasTable.edges more) (p : Plan)
  (f : Word → Answer)

include h

/-- The changes of mnemonic of entries shrink. -/
lemma changesOf_sublist (es : List Listing.Entry) :
    (changesOf (p.withAliases more) f es).Sublist
      (changesOf (p.withAliases pairs) f es) := by
  induction es with
  | nil => exact .refl _
  | cons e es ih =>
      rw [changesOf, changesOf, List.flatMap_cons, List.flatMap_cons]
      exact (Sweep.narrows_run h p.criteria e.instruction
        f).opcodeChanges.append ih

/-- Adding pairs to the aliases, in whatever places and turned round or not,
only takes something away from the opcode field. With an oracle that is a
function, in every sweep a bit outside the opcode keeps its class, and a bit
of the opcode stays one with the same new mnemonic or belongs to the modifiers
or to no field, as the modifiers of the mutant say; the oracle is asked the
same words, and the sweep is cut short as before. In the report on a file the
bits of the opcode shrink to a subset, the changes of mnemonic to a sublist,
and the modifier bits of each line grow; if no modifiers are enumerated, the
oracle is asked the same words throughout. -/
theorem more_aliases (g : Goal) (maxLines : Nat) (bytes : List UInt8) :
    (∀ baseline,
      (Sweep.run (p.criteria.withAliases pairs) (Oracle.ofFunction f)
        baseline ()).1.Narrows p.criteria f
          (Sweep.run (p.criteria.withAliases more) (Oracle.ofFunction f)
            baseline ()).1 ∧
      (Sweep.run (p.criteria.withAliases more)
          (Oracle.ofFunction f).transcribed baseline ([], ())).2 =
        (Sweep.run (p.criteria.withAliases pairs)
          (Oracle.ofFunction f).transcribed baseline ([], ())).2) ∧
    let l := Listing.ofBytes maxLines bytes
    let r := (run (p.withAliases pairs) g (Oracle.ofFunction f) l ()).1
    let r' := (run (p.withAliases more) g (Oracle.ofFunction f) l ()).1
    (∀ b ∈ r'.fields.opcodeBits, b ∈ r.fields.opcodeBits) ∧
    r'.fields.opcodeChanges.Sublist r.fields.opcodeChanges ∧
    (∀ line bits, r.fields.modifierBitsOf line = some bits →
      ∃ bits', r'.fields.modifierBitsOf line = some bits' ∧
        bits'.opcode = bits.opcode ∧ bits'.encoding = bits.encoding ∧
        bits.positions ⊆ bits'.positions) ∧
    (run (p.withAliases more) .opcodes (Oracle.ofFunction f).transcribed l
        ([], ())).2 =
      (run (p.withAliases pairs) .opcodes (Oracle.ofFunction f).transcribed l
        ([], ())).2 := by
  have hlines := Listing.nodup_line_entries maxLines bytes
  have hsweep := fun baseline => Sweep.narrows_run h p.criteria baseline f
  refine ⟨fun baseline => ⟨hsweep baseline, rfl⟩, fun b hb => ?_, ?_,
    fun line bits hbits => ?_, run_snd_opcodes p pairs more _ _ _⟩
  · rw [mem_opcodeBits_run_iff] at hb ⊢
    obtain ⟨e, he, hb⟩ := hb
    exact ⟨e, he, (hsweep e.instruction).opcodeBits b hb⟩
  · rw [opcodeChanges_run, opcodeChanges_run]
    exact changesOf_sublist h p f _
  · rw [modifierBitsOf_run_iff _ g f _ hlines] at hbits
    obtain ⟨e, he, hline, hshown⟩ := hbits
    obtain ⟨bits', hshown', hbits⟩ := FieldMap.exists_shown_of_subset
      (hsweep e.instruction).baseline (hsweep e.instruction).modifierBits
      hshown
    refine ⟨bits', ?_, hbits⟩
    rw [modifierBitsOf_run_iff _ g f _ hlines]
    exact ⟨e, he, hline, hshown'⟩

end More

/-! ### A pair turned round -/

/-- A disassembler that decodes every word to one of two mnemonics, with or
without a modifier. -/
def twoMnemonics (w : Word) : Answer :=
  if w = 0x01#64 then .ok "ADD R0 /*0x01*/"
  else if w = 0x02#64 then .ok "RED R0 /*0x02*/"
  else if w = 0x04#64 then .ok "RED.X R0 /*0x04*/"
  else .error .ambiguous

/-- A plan by which an instruction has three tokens. -/
def threeTokens : Plan :=
  ⟨.kepler, ⟨0, 3, ∅⟩, 12⟩

/-- The listing of one instruction with the mnemonic `ATOM`. -/
def atomLine : List UInt8 :=
  "ATOM R0 /*0x00*/".toUTF8.toList

/-- With `RED` as an alias of `ATOM`, two of three bits leave the opcode, and
one of them turns out to be a modifier. -/
theorem more_aliases_red :
    AliasTable.edges [("A", "B")] ⊆
      AliasTable.edges [("ATOM", "RED"), ("B", "A")] ∧
    (let l := Listing.ofBytes 10 atomLine
    let r := (run (threeTokens.withAliases [("A", "B")]) .opcodes
      (Oracle.ofFunction twoMnemonics) l ()).1
    let r' := (run (threeTokens.withAliases [("ATOM", "RED"), ("B", "A")])
      .opcodes (Oracle.ofFunction twoMnemonics) l ()).1
    r.fields.opcodeBits.toList = [0, 1, 2] ∧
    r'.fields.opcodeBits.toList = [0] ∧
    (r'.fields.modifierBitsOf 1).map (·.positions) = some [2] ∧
    r'.fields.opcodeChanges.Sublist r.fields.opcodeChanges) := by
  have h : AliasTable.edges [("A", "B")] ⊆
      AliasTable.edges [("ATOM", "RED"), ("B", "A")] := by
    rintro e ⟨q, hq, rfl⟩
    rw [List.mem_singleton.1 hq]
    exact ⟨("B", "A"), by simp, Sym2.eq_swap⟩
  obtain ⟨-, -, hchanges, -⟩ :=
    more_aliases h threeTokens twoMnemonics .opcodes 10 atomLine
  exact ⟨h, by decide +kernel, by decide +kernel, by decide +kernel,
    hchanges⟩

end Survey

end BitProbe

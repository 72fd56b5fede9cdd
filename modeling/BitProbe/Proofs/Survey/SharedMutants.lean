import BitProbe.Proofs.DecodeTable.Rendering
import BitProbe.Proofs.DecodeTable.Unbroken
import BitProbe.Proofs.Survey.Examinations
import BitProbe.Proofs.Word

/-!
The words that a sweep and an enumeration both ask about.

A sweep flips single bits of an instruction's word, an enumeration makes all
assignments to the modifier bits that the sweep has shown. The words with one
modifier bit flipped are among both, and so the table has rows for them that
read as what the sweep has found: an equivalent mnemonic with other
modifiers. The word itself is among the assignments, too, though the sweep
never asks about it.

* `Survey.exists_entry_of_mem_tables`: the entry that a table is about;
* `Survey.row_of_flipped_bit`: the row of a word with one modifier bit
  flipped;
* `Survey.row_of_word_itself`: the row of the word itself;
* `Survey.tables_share_mutants`: all of this for every table of a survey.
-/

namespace BitProbe.Survey

/-- With an oracle that is a function, each table is the one that some entry
examined by itself leads to. -/
lemma exists_entry_of_mem_tables {p : Plan} {g : Goal} {f : Word → Answer}
    {l : Listing} {t : DecodeTable}
    (ht : t ∈ (run p g (Oracle.ofFunction f) l ()).1.tables) :
    ∃ e ∈ l.entries,
      (examine p g (Oracle.ofFunction f) e ()).1.table = some t := by
  rw [run_ofFunction] at ht
  obtain ⟨x, hx, htab⟩ := List.mem_filterMap.1 ht
  obtain ⟨e, he, rfl⟩ := List.mem_map.1 hx
  exact ⟨e, he, htab⟩

section Table

variable {p : Plan} {f : Word → Answer} {e : Listing.Entry} {t : DecodeTable}
  (h : (examine p .modifiers (Oracle.ofFunction f) e ()).1.table = some t)

include h

/-- The positions of a table are the modifier bits that the sweep of its
entry has shown, and the sweep was not cut short. -/
lemma head_of_table :
    let sweep := (Sweep.run p.criteria (Oracle.ofFunction f) e.instruction
      ()).1
    t.line = e.line ∧ t.opcode = e.instruction.opcode ∧
      t.encoding = e.instruction.encoding ∧
      t.positions = sweep.classes.idxsOf .modifier ∧
      sweep.aborted = false := by
  intro sweep
  obtain ⟨⟨-, -, hab⟩, rfl⟩ := table_examine h
  obtain ⟨hline, hop, henc, hpos⟩ := DecodeTable.head_run p.criteria
    p.maxBits (Oracle.ofFunction f) e.line e.instruction.opcode
    e.instruction.encoding (sweep.classes.idxsOf .modifier) ()
  refine ⟨hline, hop, henc, hpos.trans ?_, hab⟩
  exact SortedSet.toList_ofList
    (pairwise_compare_of_pairwise_lt List.pairwise_idxsOf)

/-- The positions of a table are distinct bits of a word. -/
lemma positions_of_table :
    t.positions.Nodup ∧ ∀ b ∈ t.positions, b < 64 := by
  obtain ⟨-, -, -, hpos, -⟩ := head_of_table h
  rw [hpos]
  exact ⟨List.nodup_idxsOf, fun b hb =>
    (Sweep.consistent_run _ _ _ _).lt_of_mem_idxsOf hb⟩

/-- Each position of a table is a modifier bit: flipped, it makes the oracle
answer with a text that reads as an instruction with an equivalent mnemonic
and other modifiers. -/
lemma flipped_position {b : Nat} (hb : b ∈ t.positions) :
    ∃ output tokens mutant, f (t.encoding.flip b) = .ok output ∧
      p.criteria.tokens output = some tokens ∧
      Instruction.ofTokens tokens = .ok mutant ∧
      p.criteria.aliases.equivalent mutant.opcode e.instruction.opcode =
        true ∧
      mutant.modifiers ≠ e.instruction.modifiers := by
  obtain ⟨-, -, henc, hpos, hab⟩ := head_of_table h
  rw [hpos, List.mem_idxsOf_iff_exists_getElem_pos] at hb
  obtain ⟨hlt, hcls⟩ := hb
  have hcls' := List.getElem?_eq_some_iff.2 ⟨hlt, beq_iff_eq.1 hcls⟩
  rw [Sweep.getElem?_classes_ofFunction hab] at hcls'
  rw [henc]
  exact Verdict.exists_of_bitClass_modifier hcls'.2

/-- In a table that is neither skipped nor cut short, the row of an
assignment is what the answer to its word enters. -/
lemma row_of_table (hskip : t.skipped = false) (hab : t.aborted = false)
    {v : Nat} (hv : v < 2 ^ t.positions.length) :
    t.entries.find? v = DecodeTable.rendering p.criteria
      (some (f (t.encoding.assign t.positions (BitVec.ofNat 64 v)))) :=
  DecodeTable.find?_entries_ofFunction (table_examine h).2 hskip hab hv

/-- The word with one modifier bit flipped has a row, and the row reads as an
instruction with an equivalent mnemonic and other modifiers. -/
lemma row_of_flipped_bit (hskip : t.skipped = false)
    (hab : t.aborted = false) {j : Nat} (hj : j < t.positions.length) :
    ∃ text i,
      t.entries.find? (t.encoding.assignmentAt t.positions ^^^ 2 ^ j) =
        some text ∧
      Instruction.ofLine text = .ok i ∧
      p.criteria.aliases.equivalent i.opcode e.instruction.opcode = true ∧
      i.modifiers ≠ e.instruction.modifiers := by
  obtain ⟨hnd, hlt⟩ := positions_of_table h
  obtain ⟨output, tokens, i, hf, htok, hi, heq, hne⟩ :=
    flipped_position h (List.getElem_mem hj)
  have hwords := isWord_of_mem_selectedTokens
    (Criteria.tokens_eq_some_iff.1 htok).1
  refine ⟨String.intercalate " " tokens, i, ?_, ?_, heq, hne⟩
  · rw [row_of_table h hskip hab (Word.assignmentAt_xor_lt _ hj),
      Word.assign_assignmentAt_xor _ hnd hlt hj,
      DecodeTable.rendering_eq_some_iff]
    exact ⟨output, tokens, hf, htok, rfl⟩
  · rw [Instruction.ofLine_intercalate hwords, hi]

/-- The word itself has a row exactly if the oracle decodes it to enough
tokens, and the row is these. -/
lemma row_of_word_itself (hskip : t.skipped = false)
    (hab : t.aborted = false) (text : String) :
    t.entries.find? (t.encoding.assignmentAt t.positions) = some text ↔
      ∃ output tokens, f t.encoding = .ok output ∧
        selectedTokens p.criteria.lineIndex output = some tokens ∧
        max 1 p.criteria.minTokens ≤ tokens.length ∧
        text = String.intercalate " " tokens := by
  obtain ⟨hnd, hlt⟩ := positions_of_table h
  rw [row_of_table h hskip hab (Word.assignmentAt_lt _ _),
    Word.assign_assignmentAt _ hnd hlt, DecodeTable.rendering_eq_some_iff]
  simp only [Criteria.tokens_eq_some_iff, and_assoc]

end Table

/-- With an oracle that is a function, every table of a survey for modifiers
that is neither skipped nor cut short is about some entry of the listing, and
it agrees with the sweep of this entry on the words that both ask about. The
assignment that the word of the entry carries makes the word itself; with its
bit `j` turned over it makes the word with the `j`-th position flipped, and
this has a row that reads as an instruction with an equivalent mnemonic and
other modifiers. The word itself has a row exactly if the oracle decodes it to
enough tokens. -/
theorem tables_share_mutants (p : Plan) (f : Word → Answer) (l : Listing)
    {t : DecodeTable}
    (ht : t ∈ (run p .modifiers (Oracle.ofFunction f) l ()).1.tables)
    (hskip : t.skipped = false) (hab : t.aborted = false) :
    let v₀ := t.encoding.assignmentAt t.positions
    (∀ (j : Nat) (hj : j < t.positions.length),
      v₀.testBit j = t.encoding.getLsbD t.positions[j]) ∧
    v₀ < 2 ^ t.positions.length ∧
    t.encoding.assign t.positions (BitVec.ofNat 64 v₀) = t.encoding ∧
    ∃ e ∈ l.entries,
      (examine p .modifiers (Oracle.ofFunction f) e ()).1.table = some t ∧
      t.line = e.line ∧ t.opcode = e.instruction.opcode ∧
      t.encoding = e.instruction.encoding ∧
      (∀ (j : Nat) (hj : j < t.positions.length),
        t.encoding.assign t.positions (BitVec.ofNat 64 (v₀ ^^^ 2 ^ j)) =
          t.encoding.flip t.positions[j] ∧
        ∃ text i, t.entries.find? (v₀ ^^^ 2 ^ j) = some text ∧
          Instruction.ofLine text = .ok i ∧
          p.criteria.aliases.equivalent i.opcode e.instruction.opcode =
            true ∧
          i.modifiers ≠ e.instruction.modifiers) ∧
      ∀ text, t.entries.find? v₀ = some text ↔
        ∃ output tokens, f t.encoding = .ok output ∧
          selectedTokens p.criteria.lineIndex output = some tokens ∧
          max 1 p.criteria.minTokens ≤ tokens.length ∧
          text = String.intercalate " " tokens := by
  intro v₀
  obtain ⟨e, he, h⟩ := exists_entry_of_mem_tables ht
  obtain ⟨hnd, hlt⟩ := positions_of_table h
  obtain ⟨hline, hop, henc, -, -⟩ := head_of_table h
  refine ⟨fun j hj => Word.testBit_assignmentAt _ hj,
    Word.assignmentAt_lt _ _, Word.assign_assignmentAt _ hnd hlt,
    e, he, h, hline, hop, henc, fun j hj => ⟨?_, ?_⟩, ?_⟩
  · exact Word.assign_assignmentAt_xor _ hnd hlt hj
  · exact row_of_flipped_bit h hskip hab hj
  · exact row_of_word_itself h hskip hab

/-! ### An aliased mnemonic -/

/-- An oracle that decodes four words, one of them to nothing. -/
def fourWords (w : Word) : Answer :=
  if w = 0x00#64 then .ok "ATOM.ADD R0 /*0x00*/"
  else if w = 0x02#64 then .ok "ATOM.MIN R0 /*0x02*/"
  else if w = 0x10#64 then .ok "RED.MIN R0 /*0x10*/"
  else .error .ambiguous

/-- A plan by which `RED` is an alias of `ATOM`. -/
def aliasPlan : Plan :=
  ⟨.kepler, ⟨0, 3, .ofPairs [("RED", "ATOM")]⟩, 12⟩

/-- A listing of one instruction. -/
def oneEntry : Listing :=
  ⟨[⟨1, "ATOM.ADD R0 /*0x00*/",
    ⟨none, "ATOM", .ofList ["ADD"], ["R0"], 0#64, 3⟩⟩], []⟩

/-- The table of its two modifier bits. -/
def twoBits : DecodeTable :=
  ⟨1, "ATOM", 0#64, [1, 4], 4, .ofList [(0, "ATOM.ADD R0 /*0x00*/"),
    (1, "ATOM.MIN R0 /*0x02*/"), (2, "RED.MIN R0 /*0x10*/")], false, false⟩

/-- The row of the second bit alone reads as an instruction with the
aliased mnemonic. -/
theorem tables_share_mutants_twoBits :
    twoBits ∈
        (run aliasPlan .modifiers (.ofFunction fourWords) oneEntry
          ()).1.tables ∧
      twoBits.skipped = false ∧ twoBits.aborted = false ∧
      ∃ e ∈ oneEntry.entries, ∃ text i,
        twoBits.entries.find? 2 = some text ∧
        Instruction.ofLine text = .ok i ∧
        aliasPlan.criteria.aliases.equivalent i.opcode
          e.instruction.opcode = true ∧
        i.modifiers ≠ e.instruction.modifiers := by
  have ht : twoBits ∈ (run aliasPlan .modifiers (.ofFunction fourWords)
      oneEntry ()).1.tables := by
    decide +kernel
  obtain ⟨-, -, -, e, he, -, -, -, -, hrow, -⟩ :=
    tables_share_mutants aliasPlan fourWords oneEntry ht rfl rfl
  obtain ⟨-, text, i, hfind, hread⟩ := hrow 1 (by decide)
  rw [show twoBits.encoding.assignmentAt twoBits.positions ^^^ 2 ^ 1 = 2 by
    decide] at hfind
  exact ⟨ht, rfl, rfl, e, he, text, i, hfind, hread⟩

end BitProbe.Survey

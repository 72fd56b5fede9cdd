import BitProbe.Proofs.DecodeTable.Rendering
import BitProbe.Proofs.Survey.Rounds
import BitProbe.Proofs.Word

/-!
What an enumeration makes of the answers.

The words that agree with a given word outside some positions are asked about
by ascending assignment, up to and including the first process failure. None
of them comes twice, and none is left out if nothing fails. An assignment has a
row exactly if the answer to its word is a text whose line that counts has
enough tokens. This holds whatever the oracle goes by, as each answer is the one
that it gives to its own question.

* `Word.Exhausts`: how words go through all that agree with a word outside some
  positions;
* `DecodeTable.exhausts_variants`: the variants of a word do;
* `DecodeTable.Renders`: what an output is rendered as;
* `DecodeTable.Follows`: how a table follows from the answers;
* `DecodeTable.run_enumerates_variants`: every table that an oracle makes does,
  unless it is skipped.
-/

namespace BitProbe

/-! ### The words that are asked about -/

/-- Words go through all that agree with a word outside some positions, by the
assignment that they carry there. -/
structure Word.Exhausts (w : Word) (positions : List Nat) (words : List Word) :
    Prop where
  length_eq : words.length = 2 ^ positions.length
  nodup : words.Nodup
  mem_iff : ∀ u, u ∈ words ↔
    ∀ i < 64, i ∉ positions → u.getLsbD i = w.getLsbD i
  /-- The bit at the `j`-th position is bit `j` of the number of the word. -/
  getLsbD_eq : ∀ (v : Nat) (u : Word), words[v]? = some u →
    ∀ (j p : Nat), positions[j]? = some p → u.getLsbD p = v.testBit j

namespace DecodeTable

/-- Different assignments lead to different variants. -/
lemma nodup_variants (w : Word) {positions : List Nat}
    (hnd : positions.Nodup) (hlt : ∀ p ∈ positions, p < 64) :
    (variants w positions).Nodup := by
  refine List.Nodup.map_on (fun v hv v' hv' h => ?_) List.nodup_range
  refine Word.eq_of_testBit (List.mem_range.1 hv) (List.mem_range.1 hv')
    fun j hj => ?_
  rw [← w.getLsbD_assign_ofNat v hnd hlt hj,
    ← w.getLsbD_assign_ofNat v' hnd hlt hj, h]

/-- The variants are the words that agree with the word outside the
positions. -/
lemma mem_variants_iff (w : Word) {positions : List Nat}
    (hnd : positions.Nodup) (hlt : ∀ p ∈ positions, p < 64) (u : Word) :
    u ∈ variants w positions ↔
      ∀ i < 64, i ∉ positions → u.getLsbD i = w.getLsbD i := by
  rw [variants, List.mem_map]
  constructor
  · rintro ⟨v, -, rfl⟩ i - hi
    exact w.getLsbD_assign_of_not_mem _ hi
  · intro hoff
    exact ⟨u.assignmentAt positions,
      List.mem_range.2 (u.assignmentAt_lt positions),
      w.assign_assignmentAt_of_agrees hnd hlt hoff⟩

/-- The variants of a word go through all words that agree with it outside the
positions. -/
lemma exhausts_variants (w : Word) {positions : List Nat}
    (hnd : positions.Nodup) (hlt : ∀ p ∈ positions, p < 64) :
    w.Exhausts positions (variants w positions) where
  length_eq := length_variants w positions
  nodup := nodup_variants w hnd hlt
  mem_iff := mem_variants_iff w hnd hlt
  getLsbD_eq := by
    intro v u hu j p hp
    have hv : v < 2 ^ positions.length := by
      rw [← length_variants w]
      exact (List.getElem?_eq_some_iff.1 hu).1
    rw [getElem?_variants _ _ hv, Option.some.injEq] at hu
    obtain ⟨hj, rfl⟩ := List.getElem?_eq_some_iff.1 hp
    rw [← hu]
    exact w.getLsbD_assign_ofNat v hnd hlt hj

/-! ### What the answers make of the assignments -/

/-- An output is rendered as a text: its line that counts has enough tokens
besides an address, and the text is these with one blank between each two. -/
def Renders (index minTokens : Nat) (output text : String) : Prop :=
  ∃ line, (Text.linesOf output)[index]? = some line ∧
    max 1 minTokens ≤ (afterAddress (Text.wordsOf line)).length ∧
    text = String.intercalate " " (afterAddress (Text.wordsOf line))

/-- An answer enters a text if it is an output that is rendered as this. -/
lemma rendering_eq_some_iff_renders {c : Criteria} {a : Answer}
    {text : String} :
    rendering c (some a) = some text ↔
      ∃ output, a = .ok output ∧
        Renders c.lineIndex c.minTokens output text := by
  rw [rendering_eq_some_iff]
  refine exists_congr fun output => ?_
  constructor
  · rintro ⟨tokens, ha, htokens, rfl⟩
    obtain ⟨hselected, hmin⟩ := Criteria.tokens_eq_some_iff.1 htokens
    obtain ⟨line, hline, rfl, -⟩ := selectedTokens_eq_some_iff.1 hselected
    exact ⟨ha, line, hline, hmin, rfl⟩
  · rintro ⟨ha, line, hline, hmin, rfl⟩
    have hne : afterAddress (Text.wordsOf line) ≠ [] := by
      rw [← List.length_pos_iff]
      exact Nat.le_trans (Nat.le_max_left 1 c.minTokens) hmin
    exact ⟨_, ha, Criteria.tokens_eq_some_iff.2
      ⟨selectedTokens_eq_some_iff.2 ⟨line, hline, rfl, hne⟩, hmin⟩, rfl⟩

/-- How a table follows from the answers to the questions about some words, as
they would come if no failure ended them. -/
structure Follows (index minTokens : Nat) (words : List Word)
    (answers : List Answer) (calls : List Call) (t : DecodeTable) :
    Prop where
  skipped : t.skipped = false
  /-- The words are asked about in their order, up to and including the first
  whose answer is a process failure. -/
  calls_eq : calls =
    (words.zip answers).take (Oracle.firstFailure answers + 1)
  queries : t.queries = calls.length
  aborted : t.aborted = true ↔ ∃ call ∈ calls, call.2.isFailure = true
  entries : ∀ v text, t.entries.find? v = some text ↔
    ∃ w output, calls[v]? = some (w, .ok output) ∧
      Renders index minTokens output text

section Run

variable {σ : Type} (c : Criteria) (maxBits : Nat) (o : Oracle σ)
  (line : Nat) (opcode : String) (encoding : Word) (positions : List Nat)
  (s : σ)

/-- The positions of a table ascend, and are those that were given. -/
lemma positions_run :
    let t := (run c maxBits o line opcode encoding positions s).1
    t.positions.Pairwise (· < ·) ∧
      ∀ p, p ∈ t.positions ↔ p ∈ positions := by
  intro t
  have hps : t.positions = (SortedSet.ofList positions).toList :=
    (head_run c maxBits o line opcode encoding positions s).2.2.2
  rw [hps]
  exact ⟨(SortedSet.ofList positions).ascending.imp Nat.compare_eq_lt.1,
    fun p => SortedSet.mem_ofList⟩

/-- A table with few enough positions follows from the answers to the questions
about the variants. -/
lemma follows_run (h : (SortedSet.ofList positions).toList.length ≤
      min maxBits positionsCeiling) :
    let words := variants encoding (SortedSet.ofList positions).toList
    Follows c.lineIndex c.minTokens words (o.answers words s)
      (o.calls words s)
      (run c maxBits o line opcode encoding positions s).1 := by
  intro words
  have hasked : asked o encoding positions s =
      (o.calls words s).map Prod.snd :=
    (o.map_snd_calls words s).symm
  rw [run_of_le c maxBits o line opcode encoding positions s h, hasked]
  constructor
  case skipped => rfl
  case calls_eq => exact o.calls_eq_take words s
  case queries =>
    exact (countP_padded _ _).trans (List.length_map _)
  case aborted =>
    have hab : ∀ n answers, ((start line opcode encoding positions).ofAnswers c
        (Sweep.padded n answers)).aborted = answers.any Answer.isFailure :=
      Sweep.any_padded
    rw [hab, List.any_map, List.any_eq_true]
    rfl
  case entries =>
    intro v text
    rw [find?_entries_ofAnswers, List.getElem?_map, Option.bind_map,
      Option.bind_eq_some_iff]
    constructor
    · rintro ⟨⟨w, a⟩, hcall, htext⟩
      obtain ⟨output, rfl, hrenders⟩ :=
        rendering_eq_some_iff_renders.1 htext
      exact ⟨w, output, hcall, hrenders⟩
    · rintro ⟨w, output, hcall, hrenders⟩
      exact ⟨(w, .ok output), hcall,
        rendering_eq_some_iff_renders.2 ⟨output, rfl, hrenders⟩⟩

end Run

/-- Every table that an oracle makes has the distinct positions in order. With
too many of them nothing is asked; otherwise the words that agree with the
instruction's word outside them are asked about by ascending assignment, and
the table follows from the answers. -/
theorem run_enumerates_variants {σ : Type} (c : Criteria) (maxBits : Nat)
    (o : Oracle σ) (line : Nat) (opcode : String) (encoding : Word)
    {positions : List Nat} (hlt : ∀ p ∈ positions, p < 64) (s : σ) :
    let t := (run c maxBits o line opcode encoding positions s).1
    let logged :=
      run c maxBits o.transcribed line opcode encoding positions ([], s)
    let words := variants encoding t.positions
    logged.1 = t ∧
    t.positions.Pairwise (· < ·) ∧
    (∀ p, p ∈ t.positions ↔ p ∈ positions) ∧
    (min maxBits 32 < t.positions.length →
      t = ⟨line, opcode, encoding, t.positions, 0, ∅, true, false⟩ ∧
      logged.2.1 = []) ∧
    (t.positions.length ≤ min maxBits 32 →
      (t.line = line ∧ t.opcode = opcode ∧ t.encoding = encoding) ∧
      encoding.Exhausts t.positions words ∧
      Follows c.lineIndex c.minTokens words (o.answers words s)
        logged.2.1 t) := by
  intro t logged words
  obtain ⟨hline, hopcode, hencoding, hps⟩ :=
    head_run c maxBits o line opcode encoding positions s
  obtain ⟨hascending, hmem⟩ :=
    positions_run c maxBits o line opcode encoding positions s
  have hlogged : logged = (t, o.calls (questions maxBits encoding positions) s,
      (run c maxBits o line opcode encoding positions s).2) :=
    run_transcribed c maxBits o line opcode encoding positions [] s
  refine ⟨congrArg Prod.fst hlogged, hascending, hmem, fun h => ?_,
    fun h => ?_⟩
  · have hwide : min maxBits positionsCeiling <
        (SortedSet.ofList positions).toList.length := hps ▸ h
    rw [hlogged, questions, if_pos hwide]
    refine ⟨?_, rfl⟩
    rw [hps]
    exact run_of_lt c maxBits o line opcode encoding positions s hwide
  · have hnarrow : (SortedSet.ofList positions).toList.length ≤
        min maxBits positionsCeiling := hps ▸ h
    have hnd : t.positions.Nodup := hascending.imp Nat.ne_of_lt
    refine ⟨⟨hline, hopcode, hencoding⟩,
      exhausts_variants encoding hnd fun p hp => hlt p ((hmem p).1 hp), ?_⟩
    have hfollows :=
      follows_run c maxBits o line opcode encoding positions s hnarrow
    rw [← hps] at hfollows
    rw [hlogged, questions, if_neg (Nat.not_lt.2 hnarrow), ← hps]
    exact hfollows

/-- An oracle that decodes its first two words and fails at the third. -/
def lateFailure : Oracle Nat := fun _ n =>
  (match n with
    | 0 => .ok "/*0008*/ MOV.A  R0;"
    | 1 => .ok "NOP"
    | _ => .error (.processFailure "no answer"), n + 1)

/-- Of the four assignments to two positions that are given out of order, the
third fails and the fourth is left out. The second is decoded to a line that is
too short for a row. -/
theorem run_enumerates_variants_lateFailure :
    let t := (run ⟨0, 2, ∅⟩ 12 lateFailure 7 "MOV" 0x01#64 [4, 1, 4] 0).1
    let logged :=
      run ⟨0, 2, ∅⟩ 12 lateFailure.transcribed 7 "MOV" 0x01#64 [4, 1, 4]
        ([], 0)
    (∀ p ∈ [4, 1, 4], p < 64) ∧
    logged.2.1.map Prod.fst = [0x01#64, 0x03#64, 0x11#64] ∧
    t.queries = 3 ∧ t.aborted = true ∧
    t.entries.find? 0 = some "MOV.A R0;" ∧ t.entries.find? 1 = none := by
  intro t logged
  have hlt : ∀ p ∈ [4, 1, 4], p < 64 := by decide
  obtain ⟨-, -, -, -, hsmall⟩ := run_enumerates_variants ⟨0, 2, ∅⟩ 12
    lateFailure 7 "MOV" 0x01#64 hlt 0
  have hps : t.positions = [1, 4] := by decide +kernel
  obtain ⟨-, -, hfollows⟩ := hsmall (by rw [hps]; decide)
  have hcalls : logged.2.1 = [(0x01#64, .ok "/*0008*/ MOV.A  R0;"),
      (0x03#64, .ok "NOP"),
      (0x11#64, .error (.processFailure "no answer"))] := by
    refine hfollows.calls_eq.trans ?_
    rw [hps]
    decide +kernel
  refine ⟨hlt, by rw [hcalls]; rfl, ?_, ?_, ?_, ?_⟩
  · exact hfollows.queries.trans (by rw [hcalls]; rfl)
  · exact hfollows.aborted.2 ⟨(0x11#64, .error (.processFailure "no answer")),
      by rw [hcalls]; simp, rfl⟩
  · refine (hfollows.entries 0 _).2 ⟨0x01#64, "/*0008*/ MOV.A  R0;", ?_,
      "/*0008*/ MOV.A  R0;", ?_⟩
    · rw [hcalls]
      rfl
    · decide +kernel
  · refine Option.eq_none_iff_forall_ne_some.2 fun text htext => ?_
    obtain ⟨w, output, hcall, line, hline, hmin, -⟩ :=
      (hfollows.entries 1 text).1 htext
    rw [hcalls] at hcall
    obtain ⟨rfl, rfl⟩ : 0x03#64 = w ∧ "NOP" = output := by
      simpa using hcall
    have hnop : (Text.linesOf "NOP")[0]? = some "NOP" := by decide +kernel
    rw [hnop, Option.some.injEq] at hline
    subst hline
    exact absurd hmin (by decide +kernel)

end DecodeTable

end BitProbe

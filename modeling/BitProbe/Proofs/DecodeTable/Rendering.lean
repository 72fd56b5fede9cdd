import BitProbe.DecodeTable
import BitProbe.Proofs.Text.Words

/-!
Renderings of decoded words.

The rendering of an output is the tokens of the line that counts, with one
blank between each two. Nothing is lost by that: as a line it has the same
tokens, and reads as the same instruction.

* `selectedTokens_eq_some_iff`, `isWord_of_mem_selectedTokens`: the tokens that
  count, which are words;
* `Criteria.tokens_eq_some_iff`: when a line has enough tokens;
* `Instruction.ofLine_intercalate`: reading a rendering;
* `DecodeTable.rendering_eq_some_iff`: what an answer enters.
-/

namespace BitProbe

/-- The tokens that count are those of the line with the given number, if it
is there and has some besides an address. -/
lemma selectedTokens_eq_some_iff {index : Nat} {output : String}
    {tokens : List String} :
    selectedTokens index output = some tokens ↔
      ∃ line, (Text.linesOf output)[index]? = some line ∧
        tokens = afterAddress (Text.wordsOf line) ∧ tokens ≠ [] := by
  rw [selectedTokens]
  cases (Text.linesOf output)[index]? with
  | none => simp
  | some line =>
      simp only [List.isEmpty_iff, Option.some.injEq, exists_eq_left']
      split
      · rename_i he
        rw [he]
        exact ⟨fun h => (by cases h), fun h => absurd h.1 h.2⟩
      · rename_i hne
        constructor
        · rintro ⟨⟩
          exact ⟨rfl, hne⟩
        · rintro ⟨rfl, -⟩
          rfl

lemma selectedTokens_ne_nil {index : Nat} {output : String}
    {tokens : List String} (h : selectedTokens index output = some tokens) :
    tokens ≠ [] := by
  obtain ⟨-, -, -, hne⟩ := selectedTokens_eq_some_iff.1 h
  exact hne

/-- The tokens that count are words. -/
lemma isWord_of_mem_selectedTokens {index : Nat} {output : String}
    {tokens : List String} (h : selectedTokens index output = some tokens) :
    ∀ t ∈ tokens, Text.IsWord t.toList := by
  obtain ⟨line, -, rfl, -⟩ := selectedTokens_eq_some_iff.1 h
  intro t ht
  refine Text.isWord_of_mem_wordsOf (s := line) ?_
  cases hw : Text.wordsOf line with
  | nil => simp [hw, afterAddress] at ht
  | cons w ws =>
      rw [hw, afterAddress] at ht
      split at ht
      · exact List.mem_cons_of_mem _ ht
      · exact ht

/-- A line has enough tokens if it has some, and as many as are asked for. -/
lemma Criteria.tokens_eq_some_iff {c : Criteria} {output : String}
    {tokens : List String} :
    c.tokens output = some tokens ↔
      selectedTokens c.lineIndex output = some tokens ∧
        max 1 c.minTokens ≤ tokens.length := by
  rw [Criteria.tokens]
  cases hs : selectedTokens c.lineIndex output with
  | none => simp
  | some ts =>
      have hpos := List.length_pos_iff.2 (selectedTokens_ne_nil hs)
      by_cases hle : c.minTokens ≤ ts.length
      · simp only [if_pos hle, Option.some.injEq]
        constructor
        · rintro rfl
          exact ⟨rfl, by omega⟩
        · exact fun h => h.1
      · simp only [if_neg hle, Option.some.injEq]
        constructor
        · exact fun h => (by cases h)
        · rintro ⟨rfl, hmax⟩
          exact absurd hmax (by omega)

/-- A rendering reads as the instruction of its tokens. -/
lemma Instruction.ofLine_intercalate {tokens : List String}
    (h : ∀ t ∈ tokens, Text.IsWord t.toList) :
    Instruction.ofLine (String.intercalate " " tokens) =
      Instruction.ofTokens tokens := by
  rw [Instruction.ofLine, Text.wordsOf_intercalate h]

/-- An answer enters the tokens of the line that counts, if it is a text with
enough of them. -/
lemma DecodeTable.rendering_eq_some_iff {c : Criteria} {a : Answer}
    {text : String} :
    rendering c (some a) = some text ↔
      ∃ output tokens, a = .ok output ∧ c.tokens output = some tokens ∧
        text = String.intercalate " " tokens := by
  cases a with
  | error e => simp [rendering]
  | ok output =>
      rw [rendering, Option.map_eq_some_iff]
      constructor
      · rintro ⟨tokens, ht, rfl⟩
        exact ⟨output, tokens, rfl, ht, rfl⟩
      · rintro ⟨_, tokens, h, ht, rfl⟩
        cases h
        exact ⟨tokens, ht, rfl⟩

end BitProbe

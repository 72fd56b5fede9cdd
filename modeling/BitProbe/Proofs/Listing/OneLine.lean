import BitProbe.Proofs.Instruction.Grammar
import BitProbe.Proofs.Listing.Replacement
import BitProbe.Proofs.Text.Utf8
import BitProbe.Proofs.Text.Words

/-!
What is read from a line stays on one line.

A line of a file holds no line feed, whatever its bytes are, and so the text
that they stand for holds none, also where they are not all text. Reading takes
tokens away and cuts characters off their ends, so the characters of a mnemonic
are among those of the tokens, and so are the characters that an error message
cites.

* `Instruction.isLine_opcode_of_ofTokens`,
  `Instruction.isLine_message_of_ofTokens`: the mnemonic, and the reason why
  there is none;
* `Listing.Line.IsLine`, `Listing.isLine_readLine`: all that is kept of a line;
* `Listing.isLine_of_mem_entries`, `Listing.isLine_of_mem_skipped`: all that a
  listing holds.
-/

namespace BitProbe

open Text (IsLine)

/-- The message about a number that is none cites a token. -/
lemma ReadError.isLine_message_invalidEncoding (token : String) :
    IsLine (invalidEncoding token).message ↔ IsLine token := by
  have hmessage : (invalidEncoding token).message =
      "invalid encoding token \x27" ++ token ++ "\x27" := rfl
  rw [hmessage, Text.isLine_append, Text.isLine_append]
  exact ⟨fun h => h.1.2, fun h => ⟨⟨by decide, h⟩, by decide⟩⟩

namespace Reading

lemma afterOpenings_subset (cs : List Char) : afterOpenings cs ⊆ cs := by
  obtain ⟨n, hn⟩ := exists_openings cs
  intro c hc
  rw [hn]
  exact List.mem_append_right _ hc

lemma beforeClosings_subset (cs : List Char) : beforeClosings cs ⊆ cs :=
  fun _ h => List.mem_reverse.1
    (afterOpenings_subset _ (List.mem_reverse.1 h))

/-- The tokens before the number are among the tokens, and if there is no
number, the message has its characters from them. -/
lemma numberFromEnd_spec (tokens : List String) :
    match numberFromEnd tokens with
    | .ok (before, _) => before ⊆ tokens
    | .error e => (∀ t ∈ tokens, IsLine t) → IsLine e.message := by
  cases tokens with
  | nil =>
      intro _
      decide
  | cons number before =>
      rw [numberFromEnd]
      cases startsHexadecimal
          (beforeClosings (afterOpenings number.toList)) with
      | false =>
          intro _
          decide
      | true =>
          rw [if_pos rfl]
          cases hw : Word.ofString (String.ofList
              (beforeClosings (afterOpenings number.toList))) with
          | error e =>
              rw [ofString_eq_error hw]
              intro hs
              rw [ReadError.isLine_message_invalidEncoding,
                Text.isLine_ofList]
              exact fun h => hs number List.mem_cons_self
                (afterOpenings_subset _ (beforeClosings_subset _ h))
          | ok w =>
              intro x hx
              exact List.mem_cons_of_mem _
                (withoutFirst_subset _ _ (List.mem_reverse.1 hx))

/-- The same of the tokens in their order. -/
lemma splitEncoding_spec (tokens : List String) :
    match splitEncoding tokens with
    | .ok (before, _) => before ⊆ tokens
    | .error e => (∀ t ∈ tokens, IsLine t) → IsLine e.message := by
  have hsub : withoutFirst "*/" tokens.reverse ⊆ tokens := fun _ hx =>
    List.mem_reverse.1 (withoutFirst_subset _ _ hx)
  have hspec := numberFromEnd_spec (withoutFirst "*/" tokens.reverse)
  rw [splitEncoding_eq]
  cases hn : numberFromEnd (withoutFirst "*/" tokens.reverse) with
  | error e =>
      rw [hn] at hspec
      exact fun hs => hspec fun t ht => hs t (hsub ht)
  | ok r =>
      rw [hn] at hspec
      exact fun x hx => hsub (hspec hx)

/-- The rest of the tokens after a brace and a predicate. -/
lemma takePredicate_subset (tokens : List String) :
    (takePredicate (afterBrace tokens)).2 ⊆ tokens := by
  obtain ⟨brace, htokens, -⟩ :=
    takePredicate_afterBrace_eq_iff.1 (rfl : takePredicate
      (afterBrace tokens) = (_, (takePredicate (afterBrace tokens)).2))
  intro x hx
  rw [htokens]
  exact List.mem_append_right _ hx

lemma beforeTerminator_subset (cs : List Char) :
    beforeTerminator cs ⊆ cs := by
  rw [beforeTerminator]
  split
  · exact List.dropLast_subset cs
  · exact fun _ h => h

/-- A mnemonic has its characters from the token, and a missing one is told
without any. -/
lemma readHead_spec {token : String} (h : IsLine token) :
    match readHead token with
    | .ok (opcode, _) => IsLine opcode
    | .error e => IsLine e.message := by
  rw [readHead]
  cases hs : (beforeTerminator token.toList).splitOn '.' with
  | nil => decide
  | cons opcode rest =>
      dsimp only
      cases opcode.isEmpty with
      | true => exact (by decide : IsLine ReadError.missingOpcode.message)
      | false =>
          have hmem : opcode ∈ (beforeTerminator token.toList).splitOn '.' :=
            hs ▸ List.mem_cons_self
          exact (Text.isLine_ofList opcode).2 fun hc =>
            h (beforeTerminator_subset _
              ((Text.isInfix_of_mem_splitOn hmem).subset hc))

end Reading

namespace Instruction

open Reading

/-- What is read from tokens on one line: a mnemonic on one line, or a reason
on one line why there is no instruction. -/
lemma ofTokens_spec {tokens : List String} (hs : ∀ t ∈ tokens, IsLine t) :
    match ofTokens tokens with
    | .ok i => IsLine i.opcode
    | .error e => IsLine e.message := by
  rw [ofTokens]
  cases tokens.isEmpty with
  | true => exact (by decide : IsLine ReadError.empty.message)
  | false =>
      have hsplit := splitEncoding_spec tokens
      cases hn : splitEncoding tokens with
      | error e =>
          rw [hn] at hsplit
          exact hsplit hs
      | ok r =>
          obtain ⟨before, encoding⟩ := r
          rw [hn] at hsplit
          cases hp : takePredicate (afterBrace before) with
          | mk predicate rest =>
              have hrest : rest ⊆ tokens := fun x hx =>
                hsplit (takePredicate_subset before (hp ▸ hx))
              rw [if_neg Bool.false_ne_true]
              simp only [hp]
              cases rest with
              | nil => exact (by decide : IsLine ReadError.missingOpcode.message)
              | cons head rest =>
                  have hhead := readHead_spec
                    (hs head (hrest List.mem_cons_self))
                  cases hr : readHead head with
                  | error e =>
                      rw [hr] at hhead
                      simpa only [hr] using hhead
                  | ok o =>
                      rw [hr] at hhead
                      simpa only [hr] using hhead

lemma isLine_opcode_of_ofTokens {tokens : List String} {i : Instruction}
    (hs : ∀ t ∈ tokens, IsLine t) (h : ofTokens tokens = .ok i) :
    IsLine i.opcode := by
  have hspec := ofTokens_spec hs
  rw [h] at hspec
  exact hspec

lemma isLine_message_of_ofTokens {tokens : List String} {e : ReadError}
    (hs : ∀ t ∈ tokens, IsLine t) (h : ofTokens tokens = .error e) :
    IsLine e.message := by
  have hspec := ofTokens_spec hs
  rw [h] at hspec
  exact hspec

end Instruction

/-! ### Listings -/

namespace Listing

/-- What is kept of a line is on one line. -/
def Line.IsLine : Line → Prop
  | blank => True
  | entry e => Text.IsLine e.text ∧ Text.IsLine e.instruction.opcode
  | skipped s => Text.IsLine s.text ∧ Text.IsLine s.error.message

/-- Words are on one line. -/
lemma isLine_of_mem_wordsOf {s t : String} (h : t ∈ Text.wordsOf s) :
    IsLine t :=
  (Text.isWord_of_mem_wordsOf h).not_mem_lineFeed

lemma isLine_readText (n : Nat) {cs : List Char} (h : '\n' ∉ cs) :
    (readText n cs).IsLine := by
  have htext : IsLine (String.ofList (Text.trim cs)) := by
    rw [Text.isLine_ofList]
    exact fun hmem => h (Text.trim_subset cs hmem)
  rw [readText]
  dsimp only
  split
  · trivial
  · cases hi : Instruction.ofLine (String.ofList (Text.trim cs)) with
    | ok i =>
        exact ⟨htext, Instruction.isLine_opcode_of_ofTokens
          (fun _ => isLine_of_mem_wordsOf) hi⟩
    | error e =>
        exact ⟨htext, Instruction.isLine_message_of_ofTokens
          (fun _ => isLine_of_mem_wordsOf) hi⟩

/-- Bytes without line feeds are read as a line without any. -/
lemma isLine_readLine (n : Nat) {bytes : List UInt8} (h : 0x0A ∉ bytes) :
    (readLine n bytes).IsLine := by
  have hchomp : 0x0A ∉ Text.chomp 0x0D bytes := by
    intro hmem
    rw [Text.chomp] at hmem
    split at hmem
    · exact h (List.dropLast_subset bytes hmem)
    · exact h hmem
  rw [readLine]
  cases hd : Text.Utf8.decode (Text.chomp 0x0D bytes) with
  | some cs =>
      exact isLine_readText n fun hmem =>
        hchomp (Text.Utf8.mem_of_mem_decode hd hmem)
  | none =>
      refine ⟨?_, (by decide : IsLine ReadError.invalidUtf8.message)⟩
      rw [Text.isLine_ofList]
      exact fun hmem => hchomp
        (Text.Utf8.mem_of_mem_decodeLossy (Text.trim_subset _ hmem))

/-- The bytes of a numbered line hold no line feed. -/
lemma not_mem_of_mem_numbered {maxLines : Nat} {bytes : List UInt8}
    {l : List UInt8 × Nat} (h : l ∈ numbered maxLines bytes) : 0x0A ∉ l.1 :=
  Text.not_mem_of_mem_pieces
    (List.mem_of_mem_take (List.fst_mem_of_mem_zipIdx h))

variable {maxLines : Nat} {bytes : List UInt8}

/-- The entries of a listing are on one line each. -/
lemma isLine_of_mem_entries {e : Entry}
    (h : e ∈ (ofBytes maxLines bytes).entries) :
    IsLine e.text ∧ IsLine e.instruction.opcode := by
  rw [entries_ofBytes, List.mem_filterMap] at h
  obtain ⟨l, hl, he⟩ := h
  have hline := isLine_readLine l.2 (not_mem_of_mem_numbered hl)
  cases hr : readLine l.2 l.1 with
  | entry e' =>
      rw [hr] at hline he
      obtain rfl : e' = e := Option.some.inj he
      exact hline
  | blank | skipped => rw [hr] at he; cases he

/-- So is what it says about the lines that were left out. -/
lemma isLine_of_mem_skipped {s : Skipped}
    (h : s ∈ (ofBytes maxLines bytes).skipped) :
    IsLine s.text ∧ IsLine s.error.message := by
  rw [skipped_ofBytes, List.mem_filterMap] at h
  obtain ⟨l, hl, hs⟩ := h
  have hline := isLine_readLine l.2 (not_mem_of_mem_numbered hl)
  cases hr : readLine l.2 l.1 with
  | skipped s' =>
      rw [hr] at hline hs
      obtain rfl : s' = s := Option.some.inj hs
      exact hline
  | blank | entry => rw [hr] at hs; cases hs

end Listing

end BitProbe

import BitProbe.Proofs.Instruction.Grammar

/-!
Reading by places.

The tokens of a line can be read without taking any of them away: by counting
places from either end. Reading is then stuck if it looks at a place that is not
there, and the places from the two ends know nothing of each other. It never is:
a number stands before the end of the tokens and is no brace, so the comment
starts before the end, and after a brace if the tokens start with one.

* `Placed`: what reading by places can come to;
* `Placed.tokenAt`, `Placed.placeBefore`, `Placed.tokensBetween`: the ways to be
  stuck;
* `Placed.encoding`, `Placed.instruction`: reading a line by places;
* `Placed.encoding_eq`, `Placed.instruction_eq`: it comes to the same as taking
  tokens away;
* `Placed.places_exist`: all the places that are looked at are there.
-/

namespace BitProbe

open Reading

/-- What reading by places comes to: something, an error in the line, or nothing
if it was stuck. -/
abbrev Placed := ExceptT ReadError Option

namespace Placed

/-! ### Places -/

/-- Reading is stuck. -/
def stuck {α : Type} : Placed α :=
  ExceptT.mk none

/-- Reading is not stuck. -/
def ofExcept {α : Type} (x : Except ReadError α) : Placed α :=
  ExceptT.mk (some x)

/-- The token at a place. -/
def tokenAt (tokens : List String) (place : Nat) : Placed String :=
  match tokens[place]? with
  | some t => pure t
  | none => stuck

/-- The place before another one. -/
def placeBefore : Nat → Placed Nat
  | 0 => stuck
  | place + 1 => pure place

/-- The tokens from one place up to another one. -/
def tokensBetween (tokens : List String) (start stop : Nat) :
    Placed (List String) :=
  if start ≤ stop ∧ stop ≤ tokens.length then
    pure ((tokens.take stop).drop start)
  else stuck

/-! ### Reading a line -/

/-- The place after the number: that of a closing that stands alone at the end,
or the end. -/
def numberEnd (tokens : List String) : Placed Nat := do
  let last ← placeBefore tokens.length
  let t ← tokenAt tokens last
  pure (if t = "*/" then last else tokens.length)

/-- The place at which the comment starts that has its number at a place: that of
an opening that stands alone before it, or that of the number. -/
def commentStart (tokens : List String) (place : Nat) : Placed Nat :=
  if 0 < place then do
    let before ← placeBefore place
    let t ← tokenAt tokens before
    pure (if t = "/*" then before else place)
  else pure place

/-- The place at which the comment starts whose number ends at a place, and the
word in it. -/
def encodingBefore (tokens : List String) (stop : Nat) :
    Placed (Nat × Word) :=
  if stop = 0 then throw .missingEncoding
  else do
    let place ← placeBefore stop
    let number ← tokenAt tokens place
    let digits := beforeClosings (afterOpenings number.toList)
    if startsHexadecimal digits then do
      let w ← ofExcept (Word.ofString (String.ofList digits))
      let start ← commentStart tokens place
      pure (start, w)
    else throw .missingEncoding

/-- The place at which the comment at the end starts, and the word in it. -/
def encoding (tokens : List String) : Placed (Nat × Word) := do
  let stop ← numberEnd tokens
  encodingBefore tokens stop

/-- The place after an opening brace. -/
def placeAfterBrace (tokens : List String) : Placed Nat := do
  let t ← tokenAt tokens 0
  pure (if t = "\x7b" then 1 else 0)

/-- A predicate, if one stands at a place before the comment, and the place after
it. -/
def predicateAt (tokens : List String) (start place : Nat) :
    Placed (Option String × Nat) :=
  if place < start then do
    let t ← tokenAt tokens place
    pure (if t.toList.head? = some '@' then (some t, place + 1)
      else (none, place))
  else pure (none, place)

/-- Reads an instruction from the tokens of a line. -/
def instruction (tokens : List String) : Placed Instruction :=
  if tokens.isEmpty then throw .empty
  else do
    let (start, encoding) ← encoding tokens
    let first ← placeAfterBrace tokens
    let (predicate, place) ← predicateAt tokens start first
    if start ≤ place then throw .missingOpcode
    else do
      let head ← tokenAt tokens place
      let (opcode, modifiers) ← ofExcept (readHead head)
      let operands ← tokensBetween tokens (place + 1) start
      pure {
        predicate, opcode, modifiers, encoding
        operands := readOperands operands
        tokenCount := tokens.length }

/-- No tokens have no last place, so the comment is looked for only where there
are some. -/
example : (encoding []).run = none := rfl

/-! ### Places that are there -/

lemma tokenAt_of_getElem? {tokens : List String} {place : Nat} {t : String}
    (h : tokens[place]? = some t) : tokenAt tokens place = pure t := by
  rw [tokenAt, h]

/-- After some tokens comes the next one. -/
lemma tokenAt_length (before rest : List String) (t : String) :
    tokenAt (before ++ t :: rest) before.length = pure t :=
  tokenAt_of_getElem? (by simp)

/-- Before the end of a list is the place of its last token. -/
lemma placeBefore_concat (before : List String) (t : String) :
    placeBefore (before ++ [t]).length = pure before.length := by
  rw [List.length_append]
  rfl

/-- Tokens between two places of a first part of a list. -/
lemma tokensBetween_of_isPrefix {tokens before : List String}
    (h : before <+: tokens) {place : Nat} (hplace : place ≤ before.length) :
    tokensBetween tokens place before.length = pure (before.drop place) := by
  rw [tokensBetween, if_pos ⟨hplace, h.length_le⟩,
    ← List.prefix_iff_eq_take.1 h]

/-! ### The comment at the end -/

/-- The comment starts where the tokens before it end. -/
lemma commentStart_eq (before rest : List String) :
    commentStart (before ++ rest) before.length =
      pure (withoutFirst "/*" before.reverse).length := by
  cases before using List.reverseRecOn with
  | nil => rfl
  | append_singleton before t =>
      rw [commentStart, if_pos (by simp), placeBefore_concat, pure_bind,
        List.append_assoc, List.singleton_append, tokenAt_length, pure_bind,
        List.reverse_concat, withoutFirst]
      split <;> simp

/-- The number that ends at a place is the first one from there on back. -/
lemma encodingBefore_eq (before rest : List String) :
    encodingBefore (before ++ rest) before.length =
      ofExcept ((numberFromEnd before.reverse).map
        fun x => (x.1.length, x.2)) := by
  cases before using List.reverseRecOn with
  | nil => rfl
  | append_singleton before number =>
      rw [encodingBefore, if_neg (by simp), placeBefore_concat, pure_bind,
        List.append_assoc, List.singleton_append, tokenAt_length, pure_bind,
        List.reverse_concat, numberFromEnd, commentStart_eq]
      dsimp only
      generalize beforeClosings (afterOpenings number.toList) = digits
      split
      · cases Word.ofString (String.ofList digits) with
        | error e => rfl
        | ok w =>
            have hlength : (withoutFirst "/*" before.reverse).reverse.length =
                (withoutFirst "/*" before.reverse).length := List.length_reverse
            rw [← hlength]
            rfl
      · rfl

/-- Where there are tokens, the comment at their end is found, and it starts where
the tokens before it end. -/
lemma encoding_eq {tokens : List String} (hne : tokens ≠ []) :
    encoding tokens =
      ofExcept ((splitEncoding tokens).map fun x => (x.1.length, x.2)) := by
  cases tokens using List.reverseRecOn with
  | nil => exact absurd rfl hne
  | append_singleton before t =>
      have hlast : numberEnd (before ++ [t]) =
          pure (if t = "*/" then before.length else (before ++ [t]).length) := by
        rw [numberEnd, placeBefore_concat, pure_bind, tokenAt_length, pure_bind]
      rw [encoding, hlast, pure_bind, splitEncoding_eq, List.reverse_concat,
        withoutFirst]
      split
      · exact encodingBefore_eq before [t]
      · rw [← List.reverse_concat]
        simpa using encodingBefore_eq (before ++ [t]) []

/-- A comment that is found starts after the tokens before it. -/
lemma exists_of_encoding {tokens : List String} {start : Nat} {w : Word}
    (h : (encoding tokens).run = some (.ok (start, w))) :
    ∃ before, tokens ≠ [] ∧ splitEncoding tokens = .ok (before, w) ∧
      before.length = start := by
  have hne : tokens ≠ [] := by
    rintro rfl
    cases h
  rw [encoding_eq hne] at h
  have hmap : (splitEncoding tokens).map (fun x => (x.1.length, x.2)) =
      .ok (start, w) := Option.some.inj h
  cases hsplit : splitEncoding tokens with
  | error e =>
      rw [hsplit] at hmap
      cases hmap
  | ok split =>
      rw [hsplit] at hmap
      cases hmap
      exact ⟨split.1, hne, rfl, rfl⟩

/-- The tokens before a comment are a first part of all tokens but not all of
them, and start with the brace that these start with. -/
lemma isPrefix_of_splitEncoding {tokens before : List String} {w : Word}
    (h : splitEncoding tokens = .ok (before, w)) :
    before <+: tokens ∧ before.length < tokens.length ∧
      (tokens.head? = some "\x7b" → before.head? = some "\x7b") := by
  obtain ⟨opening, number, closing, rfl, hholds, hopening, -⟩ :=
    splitEncoding_eq_ok_iff.1 h
  refine ⟨⟨opening ++ number :: closing, by simp⟩, by simp, fun hhead => ?_⟩
  cases before with
  | cons t ts => exact hhead
  | nil =>
      exfalso
      rcases hopening with rfl | ⟨rfl, -⟩
      · simp at hhead
      · obtain rfl : number = "\x7b" := Option.some.inj hhead
        exact absurd (holds_iff.1 hholds).1 (by decide)

/-! ### The tokens before the comment -/

section Before

variable {tokens before : List String} (hpart : before <+: tokens)

include hpart

/-- A place before the comment is one among all tokens. -/
lemma tokenAt_of_lt {place : Nat} (h : place < before.length) :
    tokenAt tokens place = pure before[place] := by
  obtain ⟨rest, rfl⟩ := hpart
  refine tokenAt_of_getElem? ?_
  rw [List.getElem?_append_left h, List.getElem?_eq_getElem h]

/-- The place after a brace is not after the start of the comment. -/
lemma placeAfterBrace_eq (hne : tokens ≠ [])
    (hbrace : tokens.head? = some "\x7b" → before.head? = some "\x7b") :
    ∃ first, placeAfterBrace tokens = pure first ∧ first ≤ before.length ∧
      afterBrace before = before.drop first := by
  obtain ⟨t, ts, rfl⟩ := List.exists_cons_of_ne_nil hne
  refine ⟨if t = "\x7b" then 1 else 0, rfl, ?_⟩
  cases before with
  | nil =>
      have ht : t ≠ "\x7b" := by
        rintro rfl
        cases hbrace rfl
      rw [if_neg ht]
      exact ⟨Nat.le_refl 0, rfl⟩
  | cons b bs =>
      obtain ⟨rfl, -⟩ := List.cons_prefix_cons.1 hpart
      rw [afterBrace]
      split
      · exact ⟨Nat.le_add_left 1 _, rfl⟩
      · exact ⟨Nat.zero_le _, rfl⟩

/-- Nor is the place after a predicate. -/
lemma predicateAt_eq {place : Nat} (hplace : place ≤ before.length) :
    ∃ predicate next,
      predicateAt tokens before.length place = pure (predicate, next) ∧
      next ≤ before.length ∧
      takePredicate (before.drop place) = (predicate, before.drop next) := by
  by_cases hlt : place < before.length
  · rw [predicateAt, if_pos hlt, tokenAt_of_lt hpart hlt, pure_bind,
      List.drop_eq_getElem_cons hlt, takePredicate]
    split
    · exact ⟨_, _, rfl, hlt, rfl⟩
    · exact ⟨_, _, rfl, hplace, by rw [List.drop_eq_getElem_cons hlt]⟩
  · rw [predicateAt, if_neg hlt, List.drop_eq_nil_of_le (Nat.not_lt.1 hlt)]
    refine ⟨none, place, rfl, hplace, ?_⟩
    rw [List.drop_eq_nil_of_le (Nat.not_lt.1 hlt), takePredicate]

end Before

/-- Reading a line by places is never stuck, and comes to the same as taking its
tokens away. -/
theorem instruction_eq (tokens : List String) :
    instruction tokens = ofExcept (Instruction.ofTokens tokens) := by
  rw [instruction, Instruction.ofTokens]
  by_cases hempty : tokens.isEmpty = true
  · rw [if_pos hempty, if_pos hempty]
    rfl
  rw [if_neg hempty, if_neg hempty]
  have hne : tokens ≠ [] := by simpa using hempty
  rw [encoding_eq hne]
  cases hsplit : splitEncoding tokens with
  | error e => rfl
  | ok split =>
      obtain ⟨before, w⟩ := split
      obtain ⟨hpart, -, hbrace⟩ := isPrefix_of_splitEncoding hsplit
      obtain ⟨first, hfirst, hle, hafter⟩ :=
        placeAfterBrace_eq hpart hne hbrace
      obtain ⟨predicate, place, hpredicate, hplace, htake⟩ :=
        predicateAt_eq hpart hle
      have hencoding : ofExcept (Except.map
          (fun x : List String × Word => (x.1.length, x.2))
          (.ok (before, w))) = pure (before.length, w) := rfl
      rw [hencoding, pure_bind]
      dsimp only
      rw [hfirst, pure_bind, hpredicate, pure_bind, hafter, htake]
      dsimp only
      by_cases hlt : place < before.length
      · rw [if_neg (Nat.not_le.2 hlt), tokenAt_of_lt hpart hlt, pure_bind,
          tokensBetween_of_isPrefix hpart hlt,
          List.drop_eq_getElem_cons hlt]
        dsimp only
        cases readHead before[place] with
        | error e => rfl
        | ok named => rfl
      · rw [if_pos (Nat.not_lt.1 hlt),
          List.drop_eq_nil_of_le (Nat.not_lt.1 hlt)]
        rfl

/-- All places that reading a line looks at are there. Where there are tokens, the
comment at their end is looked for without being stuck. If it is found, it starts
before the end, and after a brace if the tokens start with one. So the places
after a brace and after a predicate are not after its start; and if the second of
them is before it, a token stands there, and those from the next place up to the
comment can be taken. Hence reading is never stuck: it comes to an instruction or
to an error, the same as taking tokens away does. -/
theorem places_exist (tokens : List String) :
    (tokens ≠ [] → ∃ result, (encoding tokens).run = some result) ∧
    (∀ start w, (encoding tokens).run = some (.ok (start, w)) →
      start < tokens.length ∧
      (tokens.head? = some "\x7b" → 1 ≤ start) ∧
      ∃ first predicate place,
        (placeAfterBrace tokens).run = some (.ok first) ∧ first ≤ start ∧
        (predicateAt tokens start first).run =
          some (.ok (predicate, place)) ∧ place ≤ start ∧
        (place < start → ∃ head operands,
          (tokenAt tokens place).run = some (.ok head) ∧
          (tokensBetween tokens (place + 1) start).run =
            some (.ok operands))) ∧
    (instruction tokens).run = some (Instruction.ofTokens tokens) := by
  refine ⟨fun hne => ⟨_, by rw [encoding_eq hne]; rfl⟩, ?_,
    by rw [instruction_eq]; rfl⟩
  intro start w hstart
  obtain ⟨before, hne, hsplit, rfl⟩ := exists_of_encoding hstart
  obtain ⟨hpart, hlt, hbrace⟩ := isPrefix_of_splitEncoding hsplit
  obtain ⟨first, hfirst, hle, -⟩ := placeAfterBrace_eq hpart hne hbrace
  obtain ⟨predicate, place, hpredicate, hplace, -⟩ :=
    predicateAt_eq hpart hle
  refine ⟨hlt, fun hhead => ?_, first, predicate, place, by rw [hfirst]; rfl, hle,
    by rw [hpredicate]; rfl, hplace, fun hbefore => ?_⟩
  · have hsome := hbrace hhead
    cases before with
    | nil => cases hsome
    | cons b bs => exact Nat.le_add_left 1 _
  · exact ⟨before[place], before.drop (place + 1),
      by rw [tokenAt_of_lt hpart hbefore]; rfl,
      by rw [tokensBetween_of_isPrefix hpart hbefore]; rfl⟩

end Placed

end BitProbe

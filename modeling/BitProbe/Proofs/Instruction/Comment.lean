import BitProbe.Instruction.Reading
import BitProbe.Proofs.Text.Numerals
import BitProbe.Proofs.Word
import Mathlib.Data.List.Basic
import Mathlib.Tactic.Common

/-!
The comment at the end of a line.

A line ends with a number, and the tokens before it are the instruction. The
number may carry delimiters of a comment, any number of them at either end, and
one delimiter of each kind may stand alone next to it. None of them has to be
there.

* `Reading.withoutFirst`, `Reading.numberFromEnd`: the comment, taken from the
  end piece by piece;
* `Reading.Holds`: the tokens that hold a word;
* `Reading.holds_iff`: taking the delimiters off such a token;
* `Reading.EndsWith`: tokens that end with a word;
* `Reading.splitEncoding_eq_ok_iff`: these are the tokens from which a word is
  read;
* `Reading.comment`, `Reading.endsWith_comment_iff`: a comment with both
  delimiters.
-/

namespace BitProbe.Reading

/-! ### From the end, piece by piece -/

/-- Tokens without the first one, if that is a given one. -/
def withoutFirst (u : String) : List String → List String
  | [] => []
  | t :: ts => if t = u then ts else t :: ts

lemma withoutFirst_subset (u : String) (tokens : List String) :
    withoutFirst u tokens ⊆ tokens := by
  cases tokens with
  | nil => exact fun _ h => h
  | cons t ts =>
      rw [withoutFirst]
      split
      · exact List.subset_cons_self t ts
      · exact fun _ h => h

/-- What is left is all but the given token, or all if that does not come
first. -/
lemma withoutFirst_eq_iff {u : String} {tokens rest : List String} :
    withoutFirst u tokens = rest ↔
      tokens = u :: rest ∨ tokens = rest ∧ rest.head? ≠ some u := by
  cases tokens with
  | nil =>
      rw [withoutFirst]
      constructor
      · rintro rfl
        exact .inr ⟨rfl, by simp⟩
      · rintro (h | ⟨rfl, -⟩)
        · cases h
        · rfl
  | cons t ts =>
      rw [withoutFirst]
      by_cases ht : t = u
      · rw [if_pos ht, ht]
        constructor
        · rintro rfl
          exact .inl rfl
        · rintro (h | ⟨rfl, hne⟩)
          · exact (List.cons.inj h).2
          · exact absurd rfl hne
      · rw [if_neg ht]
        constructor
        · rintro rfl
          exact .inr ⟨rfl, by simpa using ht⟩
        · rintro (h | ⟨h, -⟩)
          · exact absurd (List.cons.inj h).1 ht
          · exact h

/-- The number that comes first from the end, and the tokens before it. -/
def numberFromEnd : List String → Except ReadError (List String × Word)
  | [] => .error .missingEncoding
  | number :: before =>
    let digits := beforeClosings (afterOpenings number.toList)
    if startsHexadecimal digits then
      match Word.ofString (String.ofList digits) with
      | .error e => .error e
      | .ok w => .ok ((withoutFirst "/*" before).reverse, w)
    else .error .missingEncoding

lemma splitEncoding_eq (tokens : List String) :
    splitEncoding tokens =
      numberFromEnd (withoutFirst "*/" tokens.reverse) := by
  rw [splitEncoding]
  cases tokens.reverse with
  | nil => rfl
  | cons t ts =>
      dsimp only [withoutFirst]
      cases (if t = "*/" then ts else t :: ts) with
      | nil => rfl
      | cons number before =>
          dsimp only [numberFromEnd]
          generalize beforeClosings (afterOpenings number.toList) = digits
          generalize Word.ofString (String.ofList digits) = word
          cases word with
          | error e => rfl
          | ok w => cases before <;> rfl

/-- Reading a word says no more than which token is none. -/
lemma ofString_eq_error {token : String} {e : ReadError}
    (h : Word.ofString token = .error e) : e = .invalidEncoding token := by
  rw [Word.ofString] at h
  split at h <;> cases h
  rfl

lemma ofString_eq_ok_iff {cs : List Char} {w : Word} :
    Word.ofString (String.ofList cs) = .ok w ↔ Word.read? cs = some w := by
  rw [Word.ofString, String.toList_ofList]
  cases Word.read? cs with
  | none => simp
  | some v => simp

/-! ### Tokens that hold a word -/

/-- So many openings of a comment. -/
def openings (n : Nat) : List Char :=
  (List.replicate n ['/', '*']).flatten

/-- So many closings of a comment. -/
def closings (n : Nat) : List Char :=
  (List.replicate n ['*', '/']).flatten

/-- Digits stand for a word: they start like a number in base sixteen, and
read as the word. -/
def StandsFor (digits : List Char) (w : Word) : Prop :=
  startsHexadecimal digits = true ∧ Word.read? digits = some w

/-- A token holds a word: digits that stand for it, with any number of openings
before them and of closings after them. -/
def Holds (token : String) (w : Word) : Prop :=
  ∃ n digits m, token.toList = openings n ++ digits ++ closings m ∧
    StandsFor digits w

lemma openings_succ (n : Nat) (cs : List Char) :
    openings (n + 1) ++ cs = '/' :: '*' :: (openings n ++ cs) := by
  rw [openings, List.replicate_succ, List.flatten_cons, openings]
  rfl

/-- Read backwards, closings are openings. -/
lemma reverse_closings (n : Nat) : (closings n).reverse = openings n := by
  rw [closings, openings, List.reverse_flatten, List.map_replicate,
    List.reverse_replicate]
  rfl

lemma afterOpenings_openings (n : Nat) (cs : List Char) :
    afterOpenings (openings n ++ cs) = afterOpenings cs := by
  induction n with
  | zero => rfl
  | succ n ih => rw [openings_succ, afterOpenings, ih]

/-- The openings are all that is taken off. -/
lemma exists_openings (cs : List Char) :
    ∃ n, cs = openings n ++ afterOpenings cs := by
  induction cs using afterOpenings.induct with
  | case1 cs ih =>
      obtain ⟨n, hn⟩ := ih
      refine ⟨n + 1, ?_⟩
      rw [afterOpenings, openings_succ, ← hn]
  | case2 cs h =>
      refine ⟨0, ?_⟩
      rw [afterOpenings]
      · rfl
      · exact h

lemma beforeClosings_closings (cs : List Char) (n : Nat) :
    beforeClosings (cs ++ closings n) = beforeClosings cs := by
  rw [beforeClosings, List.reverse_append, reverse_closings,
    afterOpenings_openings, beforeClosings]

lemma exists_closings (cs : List Char) :
    ∃ n, cs = beforeClosings cs ++ closings n := by
  obtain ⟨n, hn⟩ := exists_openings cs.reverse
  refine ⟨n, ?_⟩
  rw [beforeClosings, ← List.reverse_inj, List.reverse_append,
    reverse_closings, List.reverse_reverse]
  exact hn

/-- Nothing is taken off a text that starts with another character. -/
lemma afterOpenings_of_head? {cs : List Char} (h : cs.head? ≠ some '/') :
    afterOpenings cs = cs := by
  rw [afterOpenings]
  rintro ds rfl
  exact h rfl

/-- A text that reads as a word has no slash in it. -/
lemma slash_not_mem {digits : List Char} {w : Word}
    (h : Word.read? digits = some w) : '/' ∉ digits := by
  intro hmem
  have hmark : '/' ∈ Word.afterBaseMark digits := by
    rw [Word.afterBaseMark.eq_def]
    split <;> simpa using hmem
  have hplus : '/' ∈ Word.afterPlus (Word.afterBaseMark digits) := by
    rw [Word.afterPlus.eq_def]
    split <;> simp_all
  rw [Word.read?] at h
  split at h
  · obtain ⟨n, hn, -⟩ := Option.map_eq_some_iff.1 h
    exact absurd (Text.isSome_of_hexadecimal? hn _ hplus) (by decide)
  · cases h

/-- Taking the delimiters off a token leaves the digits that they are
around. -/
lemma digits_of_token {digits : List Char} {w : Word}
    (h : StandsFor digits w) (n m : Nat) :
    beforeClosings (afterOpenings (openings n ++ digits ++ closings m)) =
      digits := by
  obtain ⟨hstart, hread⟩ := h
  have hslash := slash_not_mem hread
  have hhead : (digits ++ closings m).head? ≠ some '/' := by
    cases digits with
    | nil => cases hstart
    | cons c cs =>
        rintro heq
        exact hslash (by simp_all)
  have hlast : digits.reverse.head? ≠ some '/' := fun heq =>
    hslash (List.mem_reverse.1 (List.mem_of_head? heq))
  rw [List.append_assoc, afterOpenings_openings, afterOpenings_of_head? hhead,
    beforeClosings_closings, beforeClosings, afterOpenings_of_head? hlast,
    List.reverse_reverse]

/-- A token holds a word exactly if what is left without the delimiters stands
for it. -/
lemma holds_iff {token : String} {w : Word} :
    Holds token w ↔
      StandsFor (beforeClosings (afterOpenings token.toList)) w := by
  constructor
  · rintro ⟨n, digits, m, htoken, hstands⟩
    rw [htoken, digits_of_token hstands]
    exact hstands
  · intro hstands
    obtain ⟨n, hn⟩ := exists_openings token.toList
    obtain ⟨m, hm⟩ := exists_closings (afterOpenings token.toList)
    refine ⟨n, _, m, ?_, hstands⟩
    rw [List.append_assoc, ← hm, ← hn]

/-- A token that holds a word is no delimiter. -/
lemma Holds.ne_closing {token : String} {w : Word} (h : Holds token w) :
    token ≠ "*/" := by
  rintro rfl
  exact absurd (holds_iff.1 h).1 (by decide)

/-! ### Tokens that end with a word -/

/-- Tokens end with a word after some others: a token that holds it comes last,
or is followed by one closing. An opening right before it does not belong to
the others. -/
def EndsWith (tokens before : List String) (w : Word) : Prop :=
  ∃ opening number closing,
    tokens = before ++ opening ++ number :: closing ∧ Holds number w ∧
    (opening = ["/*"] ∨ opening = [] ∧ before.getLast? ≠ some "/*") ∧
    (closing = ["*/"] ∨ closing = [])

lemma numberFromEnd_eq_ok_iff {fromEnd before : List String} {w : Word} :
    numberFromEnd fromEnd = .ok (before, w) ↔
      ∃ number rest, fromEnd = number :: rest ∧ Holds number w ∧
        withoutFirst "/*" rest = before.reverse := by
  cases fromEnd with
  | nil => simp [numberFromEnd]
  | cons number rest =>
      have hsame : (∃ t ts, number :: rest = t :: ts ∧ Holds t w ∧
          withoutFirst "/*" ts = before.reverse) ↔
          Holds number w ∧ withoutFirst "/*" rest = before.reverse := by
        constructor
        · rintro ⟨t, ts, ⟨⟩, h⟩
          exact h
        · exact fun h => ⟨number, rest, rfl, h⟩
      rw [hsame, holds_iff, StandsFor, numberFromEnd]
      cases startsHexadecimal
          (beforeClosings (afterOpenings number.toList)) with
      | false => simp
      | true =>
          simp only [if_true, true_and, ← ofString_eq_ok_iff]
          cases Word.ofString (String.ofList
              (beforeClosings (afterOpenings number.toList))) with
          | error e => simp
          | ok v => simp [List.reverse_eq_iff, and_comm]

/-- A word is read from the tokens that end with it, and from no others. -/
theorem splitEncoding_eq_ok_iff {tokens before : List String} {w : Word} :
    splitEncoding tokens = .ok (before, w) ↔ EndsWith tokens before w := by
  rw [splitEncoding_eq, numberFromEnd_eq_ok_iff]
  constructor
  · rintro ⟨number, rest, hnumber, hholds, hrest⟩
    have hopening : ∃ opening, rest.reverse = before ++ opening ∧
        (opening = ["/*"] ∨
          opening = [] ∧ before.getLast? ≠ some "/*") := by
      rcases withoutFirst_eq_iff.1 hrest with rfl | ⟨rfl, hne⟩
      · exact ⟨["/*"], by simp, .inl rfl⟩
      · exact ⟨[], by simp, .inr ⟨rfl, by simpa using hne⟩⟩
    have hclosing : ∃ closing, tokens = rest.reverse ++ number :: closing ∧
        (closing = ["*/"] ∨ closing = []) := by
      rcases withoutFirst_eq_iff.1 hnumber with htokens | ⟨htokens, -⟩
      · exact ⟨["*/"], by simpa using congrArg List.reverse htokens, .inl rfl⟩
      · exact ⟨[], by simpa using congrArg List.reverse htokens, .inr rfl⟩
    obtain ⟨opening, hbefore, hopening⟩ := hopening
    obtain ⟨closing, rfl, hclosing⟩ := hclosing
    exact ⟨opening, number, closing, by rw [hbefore], hholds, hopening,
      hclosing⟩
  · rintro ⟨opening, number, closing, rfl, hholds, hopening, hclosing⟩
    refine ⟨number, opening.reverse ++ before.reverse, ?_, hholds, ?_⟩
    · rw [withoutFirst_eq_iff]
      rcases hclosing with rfl | rfl
      · exact .inl (by simp)
      · exact .inr ⟨by simp, by simpa using hholds.ne_closing⟩
    · rw [withoutFirst_eq_iff]
      rcases hopening with rfl | ⟨rfl, hne⟩
      · exact .inl rfl
      · exact .inr ⟨rfl, by simpa using hne⟩

/-! ### A comment with both delimiters -/

/-- A comment as three tokens. -/
def comment (w : Word) : List String :=
  ["/*", w.display, "*/"]

/-- Tokens before a comment end with its word, and with no other one. -/
lemma endsWith_comment_iff {tokens before : List String} {w v : Word} :
    EndsWith (tokens ++ comment w) before v ↔ before = tokens ∧ v = w := by
  have hholds : Holds w.display w :=
    ⟨0, w.displayChars, 0, by simp [Word.display, openings, closings], rfl,
      Word.read?_displayChars w⟩
  have hends : EndsWith (tokens ++ comment w) tokens w :=
    ⟨["/*"], _, ["*/"], by simp [comment], hholds, .inl rfl, .inl rfl⟩
  rw [← splitEncoding_eq_ok_iff, splitEncoding_eq_ok_iff.2 hends,
    Except.ok.injEq, Prod.mk.injEq, eq_comm, @eq_comm _ w]

end BitProbe.Reading

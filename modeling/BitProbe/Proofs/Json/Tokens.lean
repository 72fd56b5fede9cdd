import BitProbe.Json.Reading
import BitProbe.Proofs.Text.Numerals
import Mathlib.Data.List.TakeWhile

/-!
Reading tokens back.

A token is read back from how it is written, whatever follows, except that a
digit after a number would be taken for one more digit of it. So a text in
which tokens and blanks follow one another, and no digit follows a number, is
cut into just these tokens.

* `Json.readText_quoted`: strings;
* `Json.readToken_spell`: tokens;
* `Json.Writes`: texts that write tokens in this way, with
  `Writes.token_cons`, `Writes.number`, `Writes.blanks_append` and
  `Writes.append` to put them together;
* `Json.tokenize_of_writes`: cutting such a text.
-/

namespace BitProbe.Json

/-! ### Strings -/

/-- The characters with a short escape. -/
lemma shortEscapes_find? (c : Char) :
    (shortEscapes.find? (·.2 = c) = none ∧
        ∀ e ∈ shortEscapes, e.2 ≠ c) ∨
      ∃ e ∈ shortEscapes, e.2 = c ∧ shortEscapes.find? (·.2 = c) = some e := by
  cases h : shortEscapes.find? (·.2 = c) with
  | none =>
      refine .inl ⟨rfl, fun e he hc => ?_⟩
      exact absurd (decide_eq_true hc) (List.find?_eq_none.1 h e he)
  | some e =>
      have hc : e.2 = c := by simpa using List.find?_some h
      exact .inr ⟨e, List.mem_of_find?_eq_some h, hc, rfl⟩

/-- A short escape is read as the character that it stands for. -/
lemma readUnits_shortEscape {e : Char × Char} (he : e ∈ shortEscapes)
    (rest : List Char) :
    readUnits ('\\' :: e.1 :: rest) =
      (readUnits rest).map fun r => (e.2.toNat :: r.1, r.2) := by
  simp only [shortEscapes, List.mem_cons, List.not_mem_nil, or_false] at he
  rcases he with rfl | rfl | rfl | rfl | rfl | rfl | rfl <;> rfl

/-- An escape by number is read as the number. -/
lemma readUnits_numberEscape {n : Nat} (h : n < 16 ^ 4) (rest : List Char) :
    readUnits ('\\' :: 'u' :: (Text.hexadecimal 4 n ++ rest)) =
      (readUnits rest).map fun r => (n :: r.1, r.2) := by
  have hread := Text.hexadecimal?_hexadecimal (by omega) h
  obtain ⟨a, b, c, d, hds⟩ : ∃ a b c d, Text.hexadecimal 4 n = [a, b, c, d] :=
    ⟨_, _, _, _, rfl⟩
  rw [hds] at hread ⊢
  simp only [List.cons_append, List.nil_append, readUnits, hread]

/-- A character that needs no escape is read as itself. -/
lemma readUnits_plain {c : Char} (hquote : c ≠ '\x22') (hslash : c ≠ '\\')
    (hctl : ¬ c.toNat < 0x20) (rest : List Char) :
    readUnits (c :: rest) =
      (readUnits rest).map fun r => (c.toNat :: r.1, r.2) := by
  rw [readUnits]
  · simp [hslash, hctl]
  · exact fun h => absurd h hquote
  · exact fun _ _ _ _ _ h => absurd h hslash
  · exact fun _ _ h => absurd h hslash

/-- A character as it is written in a string is read as its number. -/
lemma readUnits_escape (c : Char) (rest : List Char) :
    readUnits (escape c ++ rest) =
      (readUnits rest).map fun r => (c.toNat :: r.1, r.2) := by
  rcases shortEscapes_find? c with ⟨hnone, hno⟩ | ⟨e, he, rfl, hsome⟩
  · rw [escape, hnone]
    dsimp only
    split
    · rename_i hctl
      exact readUnits_numberEscape (Nat.lt_trans hctl (by decide)) rest
    · rename_i hctl
      refine readUnits_plain (fun hc => ?_) (fun hc => ?_) hctl rest
      · exact hno ('\x22', '\x22') (by simp [shortEscapes]) hc.symm
      · exact hno ('\\', '\\') (by simp [shortEscapes]) hc.symm
  · rw [escape, hsome]
    exact readUnits_shortEscape he rest

/-- The body of a string is read as the numbers of its characters. -/
lemma readUnits_body (cs rest : List Char) :
    readUnits (cs.flatMap escape ++ '\x22' :: rest) =
      some (cs.map Char.toNat, rest) := by
  induction cs with
  | nil => rw [List.flatMap_nil, List.nil_append, readUnits, List.map_nil]
  | cons c cs ih =>
      rw [List.flatMap_cons, List.append_assoc, readUnits_escape, ih,
        Option.map_some, List.map_cons]

/-- No character is a surrogate, so each number stands for itself. -/
lemma joinUnits_map_toNat (cs : List Char) :
    joinUnits (cs.map Char.toNat) = some cs := by
  induction cs with
  | nil => rfl
  | cons c cs ih =>
      have hvalid : c.toNat < 0xD800 ∨ 0xDFFF < c.toNat ∧ c.toNat < 0x110000 :=
        c.valid
      have hhigh : ¬ (0xD800 ≤ c.toNat && c.toNat < 0xDC00) = true := by
        simp only [Bool.and_eq_true, decide_eq_true_eq]
        omega
      have hlow : ¬ (0xDC00 ≤ c.toNat && c.toNat < 0xE000) = true := by
        simp only [Bool.and_eq_true, decide_eq_true_eq]
        omega
      rw [List.map_cons, joinUnits.eq_def]
      dsimp only
      rw [if_neg hhigh, if_neg hlow, ih, Option.map_some, Char.ofNat_toNat]

/-- A string is read back from between its quotes. -/
lemma readText_quoted (cs rest : List Char) :
    readText (cs.flatMap escape ++ '\x22' :: rest) = some (cs, rest) := by
  rw [readText, readUnits_body, Option.bind_some, joinUnits_map_toNat,
    Option.map_some]

/-! ### Tokens -/

/-- A text that does not go on with a digit. -/
def NoDigit (cs : List Char) : Prop :=
  ∀ c, cs.head? = some c → c.isDigit = false

lemma noDigit_nil : NoDigit [] :=
  fun _ h => (by cases h)

lemma noDigit_cons {c : Char} (h : c.isDigit = false) (cs : List Char) :
    NoDigit (c :: cs) := by
  intro d hd
  cases hd
  exact h

lemma NoDigit.append {cs ds : List Char} (hc : NoDigit cs)
    (hd : NoDigit ds) : NoDigit (cs ++ ds) := by
  cases cs with
  | nil => exact hd
  | cons c cs => exact noDigit_cons (hc c rfl) _

/-- A numeral before a text that does not go on with a digit is read back. -/
lemma readNumber_decimal (n : Nat) {rest : List Char} (h : NoDigit rest) :
    readNumber (Text.decimal n ++ rest) = some (n, rest) := by
  have hrest : rest.takeWhile Char.isDigit = [] ∧
      rest.dropWhile Char.isDigit = rest := by
    cases rest with
    | nil => exact ⟨rfl, rfl⟩
    | cons c rest =>
        have hc := h c rfl
        exact ⟨by rw [List.takeWhile_cons, hc]; rfl,
          by rw [List.dropWhile_cons, hc]; rfl⟩
  have hdigits : ∀ c ∈ Text.decimal n, c.isDigit = true :=
    fun c hc => Text.isDigit_of_mem_decimal hc
  have hzero : ¬ ((Text.decimal n).head? = some '0' &&
      (Text.decimal n).length ≠ 1) = true := by
    simp only [Bool.and_eq_true, decide_eq_true_eq]
    rintro ⟨hhead, hlen⟩
    exact hlen (Text.length_decimal_of_head? hhead)
  rw [readNumber, List.takeWhile_append_of_pos hdigits, hrest.1,
    List.append_nil, List.dropWhile_append_of_pos hdigits, hrest.2,
    if_neg hzero, Text.decimal?_decimal, Option.map_some]

/-- Whether a token can be written: a mark is one of the six. -/
def Token.IsProper : Token → Prop
  | mark c => isMark c = true
  | _ => True

/-- Whether a digit after a token would be taken for a part of it. -/
def Token.isNumber : Token → Bool
  | number _ => true
  | _ => false

/-- A token is read back from how it is written. -/
theorem readToken_spell {t : Token} (ht : t.IsProper) {rest : List Char}
    (h : t.isNumber = true → NoDigit rest) :
    readToken (t.spell ++ rest) = some (t, rest) := by
  cases t with
  | mark c =>
      have hc : isMark c = true := ht
      rw [Token.spell, List.singleton_append, readToken, if_pos hc]
  | text s =>
      rw [Token.spell, quoted, List.cons_append, List.append_assoc,
        List.singleton_append, readToken, if_neg (by decide), if_pos rfl,
        readText_quoted, Option.map_some, String.ofList_toList]
  | number n =>
      have hread := readNumber_decimal n (h rfl)
      rw [Token.spell]
      cases hds : Text.decimal n with
      | nil => exact absurd hds (Text.decimal_ne_nil n)
      | cons c ds =>
          have hc : c.isDigit = true :=
            Text.isDigit_of_mem_decimal (hds ▸ List.mem_cons_self)
          have hmark : isMark c ≠ true := by
            rw [isMark, ne_eq, decide_eq_true_eq]
            intro hmem
            simp only [List.mem_cons, List.not_mem_nil, or_false] at hmem
            rcases hmem with rfl | rfl | rfl | rfl | rfl | rfl <;>
              exact absurd hc (by decide)
          have hquote : c ≠ '\x22' := by
            rintro rfl
            exact absurd hc (by decide)
          rw [hds] at hread
          rw [List.cons_append, readToken, if_neg hmark, if_neg hquote,
            if_pos hc, ← List.cons_append, hread, Option.map_some]
  | bool b => cases b <;> rfl
  | null => rfl

/-- A written token is not empty and does not start with a blank. -/
lemma spell_eq_cons {t : Token} (ht : t.IsProper) :
    ∃ c cs, t.spell = c :: cs ∧ isSpace c = false := by
  cases t with
  | mark c =>
      refine ⟨c, [], rfl, ?_⟩
      have hc : isMark c = true := ht
      rw [isMark, decide_eq_true_eq] at hc
      simp only [List.mem_cons, List.not_mem_nil, or_false] at hc
      rcases hc with rfl | rfl | rfl | rfl | rfl | rfl <;> decide
  | text s => exact ⟨'\x22', _, rfl, by decide⟩
  | number n =>
      cases hds : Text.decimal n with
      | nil => exact absurd hds (Text.decimal_ne_nil n)
      | cons c ds =>
          have hc : c.isDigit = true :=
            Text.isDigit_of_mem_decimal (hds ▸ List.mem_cons_self)
          refine ⟨c, ds, hds, ?_⟩
          rw [← Bool.not_eq_true]
          intro hs
          simp only [isSpace, Bool.or_eq_true, decide_eq_true_eq] at hs
          rcases hs with ((rfl | rfl) | rfl) | rfl <;>
            exact absurd hc (by decide)
  | bool b =>
      cases b
      · exact ⟨'f', _, rfl, by decide⟩
      · exact ⟨'t', _, rfl, by decide⟩
  | null => exact ⟨'n', _, rfl, by decide⟩

/-! ### Texts made of tokens -/

/-- A text that is made of tokens, with blanks around them as one likes and no
digit right after a number. -/
inductive Spelling : List Char → List Token → Prop
  | blanks {bs : List Char} (h : ∀ b ∈ bs, isSpace b = true) :
    Spelling bs []
  | token {bs : List Char} {t : Token} {rest : List Char} {ts : List Token}
    (hb : ∀ b ∈ bs, isSpace b = true) (ht : t.IsProper)
    (hnum : t.isNumber = true → NoDigit rest) (h : Spelling rest ts) :
    Spelling (bs ++ (t.spell ++ rest)) (t :: ts)

/-- There are no more tokens than characters. -/
lemma Spelling.length_le {cs : List Char} {ts : List Token}
    (h : Spelling cs ts) : ts.length ≤ cs.length := by
  induction h with
  | blanks => exact Nat.zero_le _
  | token hb ht hnum h ih =>
      obtain ⟨c, ds, hspell, -⟩ := spell_eq_cons ht
      rw [hspell]
      simp only [List.length_cons, List.length_append]
      omega

/-- All of its tokens can be written. -/
lemma Spelling.isProper {cs : List Char} {ts : List Token}
    (h : Spelling cs ts) : ∀ t ∈ ts, t.IsProper := by
  induction h with
  | blanks => simp
  | token hb ht hnum h ih =>
      intro u hu
      rcases List.mem_cons.1 hu with rfl | hu
      · exact ht
      · exact ih u hu

/-- With fuel for each token, a text made of tokens is cut into them. -/
lemma Spelling.tokenizeWith {cs : List Char} {ts : List Token}
    (h : Spelling cs ts) {fuel : Nat} (hf : ts.length ≤ fuel) :
    tokenizeWith fuel cs = some ts := by
  induction h generalizing fuel with
  | blanks hb =>
      have hdrop := List.dropWhile_eq_nil_iff.2 hb
      cases fuel with
      | zero => rw [Json.tokenizeWith, hdrop]; rfl
      | succ fuel => rw [Json.tokenizeWith, hdrop]; rfl
  | @token bs t rest ts hb ht hnum h ih =>
      obtain ⟨c, ds, hspell, hc⟩ := spell_eq_cons ht
      have hdrop : (bs ++ (t.spell ++ rest)).dropWhile isSpace =
          t.spell ++ rest := by
        rw [List.dropWhile_append_of_pos hb, hspell, List.cons_append,
          List.dropWhile_cons_of_neg (by simp [hc])]
      cases fuel with
      | zero => exact absurd hf (by simp)
      | succ fuel =>
          have hne : (t.spell ++ rest).isEmpty = false := by
            rw [hspell]
            rfl
          rw [Json.tokenizeWith, hdrop, hne, readToken_spell ht hnum]
          exact congrArg (Option.map (t :: ·)) (ih (by simpa using hf))

/-- Blanks in front make no difference. -/
lemma Spelling.blanks_append {bs cs : List Char} {ts : List Token}
    (hb : ∀ b ∈ bs, isSpace b = true) (h : Spelling cs ts) :
    Spelling (bs ++ cs) ts := by
  have hall : ∀ {bs' : List Char}, (∀ b ∈ bs', isSpace b = true) →
      ∀ b ∈ bs ++ bs', isSpace b = true := by
    intro bs' hb' b hmem
    rcases List.mem_append.1 hmem with hmem | hmem
    · exact hb b hmem
    · exact hb' b hmem
  cases h with
  | blanks hb' => exact .blanks (hall hb')
  | token hb' ht hnum h' =>
      rw [← List.append_assoc]
      exact .token (hall hb') ht hnum h'

/-- A text that writes tokens: they come before whatever tokens the text after
it is made of, if that does not go on with a digit. -/
def Writes (cs : List Char) (ts : List Token) : Prop :=
  ∀ rest us, NoDigit rest → Spelling rest us → Spelling (cs ++ rest) (ts ++ us)

namespace Writes

/-- A token that is no number is written before anything. -/
lemma token_cons {t : Token} (ht : t.IsProper) (hnum : t.isNumber = false)
    {cs : List Char} {ts : List Token} (h : Writes cs ts) :
    Writes (t.spell ++ cs) (t :: ts) := by
  intro rest us hrest hspell
  have htoken : Spelling ([] ++ (t.spell ++ (cs ++ rest)))
      (t :: (ts ++ us)) :=
    .token (by simp) ht (by simp [hnum]) (h rest us hrest hspell)
  rwa [List.nil_append, ← List.append_assoc] at htoken

/-- A number is written by its numeral. -/
lemma number (n : Nat) : Writes (Text.decimal n) [.number n] := by
  intro rest us hrest hspell
  have htoken : Spelling ([] ++ ((Token.number n).spell ++ rest))
      (.number n :: us) :=
    .token (by simp) trivial (fun _ => hrest) hspell
  exact htoken

/-- Nothing writes no tokens. -/
lemma nil : Writes [] [] :=
  fun _ _ _ hspell => hspell

/-- Blanks in front write nothing more. -/
lemma blanks_append {bs : List Char} (hb : ∀ b ∈ bs, isSpace b = true)
    {cs : List Char} {ts : List Token} (h : Writes cs ts) :
    Writes (bs ++ cs) ts := by
  intro rest us hrest hspell
  rw [List.append_assoc]
  exact (h rest us hrest hspell).blanks_append hb

/-- What one text writes comes before what the next one writes, if this does
not go on with a digit. -/
lemma append {cs ds : List Char} {ts us : List Token} (h : Writes cs ts)
    (h' : Writes ds us) (hd : NoDigit ds) : Writes (cs ++ ds) (ts ++ us) := by
  intro rest vs hrest hspell
  rw [List.append_assoc, List.append_assoc]
  exact h _ _ (hd.append hrest) (h' rest vs hrest hspell)

/-- A text that writes tokens is made of them. -/
lemma spelling {cs : List Char} {ts : List Token} (h : Writes cs ts) :
    Spelling cs ts := by
  have hspell := h [] [] noDigit_nil (.blanks (by simp))
  rwa [List.append_nil, List.append_nil] at hspell

end Writes

/-- A text is cut into the tokens that it is made of. -/
lemma Spelling.tokenize {cs : List Char} {ts : List Token}
    (h : Spelling cs ts) : Json.tokenize cs = some ts :=
  h.tokenizeWith h.length_le

/-- A text is cut into the tokens that it writes. -/
theorem tokenize_of_writes {cs : List Char} {ts : List Token}
    (h : Writes cs ts) : tokenize cs = some ts :=
  h.spelling.tokenize

end BitProbe.Json

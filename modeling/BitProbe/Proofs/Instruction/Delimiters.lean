import BitProbe.Proofs.Instruction.Grammar

/-!
The delimiters of the comment.

The comment at the end of a line is meant to have an opening delimiter and a
closing one. Reading takes them off where they are and does not miss them where
they are not. So what is read from tokens is what is read when the end of them
is replaced with a comment that has both, and a number for an operand is taken
for the word if nothing follows it.

* `Reading.Enclosed`: tokens that end with a word in a comment;
* `Instruction.ofTokens_eq_ok_iff_comment`: the delimiters make no difference;
* `Instruction.not_forall_enclosed`: tokens that are read without any.
-/

namespace BitProbe

namespace Reading

/-- Tokens end with a word in a comment: either delimiter touches the number or
stands alone next to it. -/
def Enclosed (tokens : List String) (w : Word) : Prop :=
  ∃ before opening number closing,
    tokens = before ++ opening ++ number :: closing ∧ Holds number w ∧
    (opening = ["/*"] ∨ opening = [] ∧ "/*".toList <+: number.toList) ∧
    (closing = ["*/"] ∨ closing = [] ∧ "*/".toList <:+ number.toList)

/-- The last token has the closing delimiter. -/
lemma Enclosed.isSuffix_of_getLast? {tokens : List String} {w : Word}
    (h : Enclosed tokens w) {t : String} (ht : tokens.getLast? = some t) :
    "*/".toList <:+ t.toList := by
  obtain ⟨before, opening, number, closing, rfl, -, -, hclosing⟩ := h
  rw [List.getLast?_append_cons] at ht
  rcases hclosing with rfl | ⟨rfl, hnumber⟩
  · obtain rfl : "*/" = t := Option.some.inj ht
    exact List.suffix_rfl
  · obtain rfl : number = t := Option.some.inj ht
    exact hnumber

end Reading

namespace Instruction

open Reading

/-- Tokens are read as an instruction exactly if they end with its word and are
read as the same instruction with a comment in the place of their end. Whether
they end with a comment makes no difference. -/
theorem ofTokens_eq_ok_iff_comment {tokens : List String} {i : Instruction} :
    ofTokens tokens = .ok i ↔
      i.tokenCount = tokens.length ∧
      ∃ before, EndsWith tokens before i.encoding ∧
        ofTokens (before ++ comment i.encoding) =
          .ok { i with tokenCount := before.length + 3 } := by
  rw [ofTokens_eq_ok_iff]
  simp only [ofTokens_comment_eq_ok_iff]
  constructor
  · rintro ⟨before, head, rest, qs, hends, hbegins, hnames, hms, hops, hcount⟩
    exact ⟨hcount, before, hends, head, rest, qs, hbegins, hnames, hms, hops,
      trivial, trivial⟩
  · rintro ⟨hcount, before, hends, head, rest, qs, hbegins, hnames, hms, hops,
      -⟩
    exact ⟨before, head, rest, qs, hends, hbegins, hnames, hms, hops, hcount⟩

/-- The number of an immediate operand is taken for the word, and there is no
comment. -/
theorem not_forall_enclosed :
    ¬ ∀ tokens i, ofTokens tokens = .ok i → Enclosed tokens i.encoding := by
  intro h
  have hread : ofTokens ["MOV", "R1,", "0x40"] =
      .ok ⟨none, "MOV", ∅, ["R1"], 0x40#64, 3⟩ := by
    decide +kernel
  exact absurd ((h _ _ hread).isSuffix_of_getLast? rfl) (by decide)

end Instruction

end BitProbe

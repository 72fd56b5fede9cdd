import BitProbe.Proofs.Instruction.Grammar
import BitProbe.Proofs.Text.Digits
import Mathlib.Data.List.DropRight

/-!
Statements as a disassembler prints them.

A statement is a line of disassembly in its parts: a brace or none, a predicate
or none, a mnemonic with qualifiers, operands, and a comment with the encoding.
The parts may be spelled in several ways. However they are, the tokens of the
statement are read as the instruction that it states.

* `Comment`, `Comment.tokens`: the comment in its four spellings;
* `Statement`, `Statement.tokens`: a statement and its tokens;
* `Statement.WellFormed`: no part can be taken for another one;
* `Statement.exists_ofTokens`: every part is read from where it stands.
-/

namespace BitProbe

/-- The comment with the encoding. -/
structure Comment where
  /-- Whether the mark of base sixteen is a capital letter. -/
  capitalMark : Bool
  digits : List Char
  /-- Whether there is a blank between the opening delimiter and the number. -/
  openingApart : Bool
  /-- Whether there is a blank between the number and the closing delimiter. -/
  closingApart : Bool

namespace Comment

/-- The number of a comment, as text. -/
def number (c : Comment) : String :=
  (if c.capitalMark then "0X" else "0x") ++ String.ofList c.digits

/-- The token with the number, and with the delimiters that touch it. -/
def numberToken (c : Comment) : String :=
  (if c.openingApart then "" else "/*") ++ c.number ++
    (if c.closingApart then "" else "*/")

/-- The tokens of a comment. -/
def tokens (c : Comment) : List String :=
  (if c.openingApart then ["/*"] else []) ++
    c.numberToken :: (if c.closingApart then ["*/"] else [])

/-- The value that the digits of a comment have by their places. -/
def value (c : Comment) : Nat :=
  Nat.ofDigits 16 (c.digits.filterMap Text.hexDigit?).reverse

/-- A comment has one to sixteen digits in base sixteen. -/
structure WellFormed (c : Comment) : Prop where
  digits_ne : c.digits ≠ []
  length_digits : c.digits.length ≤ 16
  isDigit : ∀ d ∈ c.digits, (Text.hexDigit? d).isSome = true

/-- The number of a comment stands for its value. -/
lemma WellFormed.standsFor {c : Comment} (h : c.WellFormed) :
    Reading.StandsFor c.number.toList (BitVec.ofNat 64 c.value) := by
  have hread : ∀ mark, mark = 'x' ∨ mark = 'X' →
      Word.read? ('0' :: mark :: c.digits) =
        some (BitVec.ofNat 64 c.value) := fun _ hmark =>
    Word.read?_of_digits hmark h.digits_ne h.length_digits h.isDigit
  rw [number, String.toList_append, String.toList_ofList]
  cases c.capitalMark with
  | false => exact ⟨rfl, hread 'x' (.inl rfl)⟩
  | true => exact ⟨rfl, hread 'X' (.inr rfl)⟩

/-- The token with the number holds it, with the delimiters or without. -/
lemma WellFormed.holds {c : Comment} (h : c.WellFormed) :
    Reading.Holds c.numberToken (BitVec.ofNat 64 c.value) := by
  refine ⟨if c.openingApart then 0 else 1, c.number.toList,
    if c.closingApart then 0 else 1, ?_, h.standsFor⟩
  rw [numberToken, String.toList_append, String.toList_append]
  cases c.openingApart <;> cases c.closingApart <;> rfl

end Comment

/-- A line of disassembly in its parts. -/
structure Statement where
  /-- Whether the statement opens a bundle. -/
  braced : Bool
  predicate : Option String
  mnemonic : String
  qualifiers : List String
  /-- Whether a semicolon ends the token of the mnemonic. -/
  terminated : Bool
  /-- The operands, with the punctuation after them. -/
  operands : List String
  comment : Comment

namespace Statement

/-- The token of the mnemonic. -/
def head (s : Statement) : String :=
  String.intercalate "." (s.mnemonic :: s.qualifiers) ++
    if s.terminated then ";" else ""

/-- The tokens of a statement. -/
def tokens (s : Statement) : List String :=
  (if s.braced then ["\x7b"] else []) ++ s.predicate.toList ++
    s.head :: s.operands ++ s.comment.tokens

/-- An operand without the commas and semicolons that it ends with. -/
def bare (operand : String) : String :=
  String.ofList (operand.toList.rdropWhile fun c => c = ',' || c = ';')

/-- Every part of a statement is what it seems to be where it stands. -/
structure WellFormed (s : Statement) : Prop where
  comment : s.comment.WellFormed
  predicate : ∀ p, s.predicate = some p → p.toList.head? = some '@'
  mnemonic_ne : s.mnemonic ≠ ""
  dot_not_mem : ∀ f ∈ s.mnemonic :: s.qualifiers, '.' ∉ f.toList
  terminated : s.terminated = false → s.head.toList.getLast? ≠ some ';'
  /-- Where a predicate might stand, the mnemonic is none. -/
  head_unmarked : s.predicate = none → s.head.toList.head? ≠ some '@'
  /-- Where a brace might stand, the mnemonic is none. -/
  head_ne_brace : s.braced = false → s.predicate = none → s.head ≠ "\x7b"
  /-- Where the comment might begin, no operand does. -/
  last_ne_opening : (s.head :: s.operands).getLast? ≠ some "/*"

variable {s : Statement} (h : s.WellFormed)

include h

/-- The tokens of a statement end with the word in its comment. -/
lemma WellFormed.endsWith :
    Reading.EndsWith s.tokens ((if s.braced then ["\x7b"] else []) ++
      s.predicate.toList ++ s.head :: s.operands)
      (BitVec.ofNat 64 s.comment.value) := by
  refine ⟨if s.comment.openingApart then ["/*"] else [],
    s.comment.numberToken, if s.comment.closingApart then ["*/"] else [],
    ?_, h.comment.holds, ?_, ?_⟩
  · rw [tokens, Comment.tokens, List.append_assoc _ (ite _ _ _)]
  · have hlast := h.last_ne_opening
    cases s.comment.openingApart with
    | true => exact .inl rfl
    | false =>
        refine .inr ⟨rfl, ?_⟩
        rwa [List.getLast?_append_cons]
  · cases s.comment.closingApart with
    | true => exact .inl rfl
    | false => exact .inr rfl

/-- Before the comment, they begin with what precedes the mnemonic. -/
lemma WellFormed.beginsWith :
    Reading.BeginsWith ((if s.braced then ["\x7b"] else []) ++
      s.predicate.toList ++ s.head :: s.operands) s.predicate
      (s.head :: s.operands) :=
  Reading.beginsWith_of s.braced h.predicate h.head_ne_brace h.head_unmarked

lemma WellFormed.names :
    Reading.Names s.head s.mnemonic s.qualifiers where
  mnemonic_ne := h.mnemonic_ne
  dot_not_mem := h.dot_not_mem
  eq_or := by
    cases hterminated : s.terminated with
    | true =>
        rw [head, hterminated]
        exact .inl rfl
    | false =>
        refine .inr ⟨?_, h.terminated hterminated⟩
        rw [head, hterminated]
        exact String.append_empty

/-- The tokens of a statement are read as an instruction with its predicate, its
mnemonic, its qualifiers as modifiers, its operands without punctuation and the
value in its comment. -/
theorem exists_ofTokens :
    ∃ i, Instruction.ofTokens s.tokens = .ok i ∧
      i.predicate = s.predicate ∧ i.opcode = s.mnemonic ∧
      (∀ m, m ∈ i.modifiers ↔ m ∈ s.qualifiers ∧ m ≠ "") ∧
      i.operands = (s.operands.map bare).filter (· ≠ "") ∧
      i.encoding.toNat = s.comment.value ∧
      i.tokenCount = s.tokens.length := by
  refine ⟨⟨s.predicate, s.mnemonic, .ofList (s.qualifiers.filter (· ≠ "")),
    (s.operands.map bare).filter (· ≠ ""), BitVec.ofNat 64 s.comment.value,
    s.tokens.length⟩, ?_, rfl, rfl, ?_, rfl, ?_, rfl⟩
  · exact Instruction.ofTokens_eq_ok_iff.2 ⟨_, s.head, s.operands,
      s.qualifiers, h.endsWith, h.beginsWith, h.names, rfl, rfl, rfl⟩
  · intro m
    simp
  · exact Word.toNat_ofDigits h.comment.length_digits

omit h

/-- A statement that opens a bundle. One of its qualifiers is empty, the last
operand is a semicolon only, and the opening delimiter touches the number. -/
def bundled : Statement where
  braced := true
  predicate := some "@!P0"
  mnemonic := "ATOM"
  qualifiers := ["E", "", "ADD"]
  terminated := false
  operands := ["R0,", "[R2],;", ";"]
  comment := ⟨true, ['6', '8', '3', '8', '0', 'a', 'F'], false, true⟩

/-- The brace is no part of the instruction, and neither is what is empty. -/
theorem exists_ofTokens_bundled :
    bundled.WellFormed ∧
      ∃ i, Instruction.ofTokens ["\x7b", "@!P0", "ATOM.E..ADD", "R0,", "[R2],;",
          ";", "/*0X68380aF", "*/"] = .ok i ∧
        i.predicate = some "@!P0" ∧ i.opcode = "ATOM" ∧
        "" ∉ i.modifiers ∧ "ADD" ∈ i.modifiers ∧
        i.operands = ["R0", "[R2]"] ∧ i.encoding = 0x68380AF#64 ∧
        i.tokenCount = 8 := by
  have hwell : bundled.WellFormed := by
    constructor
    case comment => exact ⟨by decide, by decide, List.all_eq_true.1 rfl⟩
    all_goals decide
  obtain ⟨i, hread, hpredicate, hopcode, hmodifiers, hoperands, hencoding,
    hcount⟩ := exists_ofTokens hwell
  refine ⟨hwell, i, hread, hpredicate, hopcode, ?_, ?_, ?_, ?_, hcount⟩
  · rw [hmodifiers]
    exact fun h => h.2 rfl
  · rw [hmodifiers]
    decide
  · rw [hoperands]
    decide +kernel
  · rw [← BitVec.toNat_inj, hencoding]
    decide +kernel

end Statement

end BitProbe

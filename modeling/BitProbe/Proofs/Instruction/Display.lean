import BitProbe.Proofs.Instruction.Grammar
import BitProbe.Proofs.Text.Words
import Mathlib.Algebra.Order.BigOperators.Group.List
import Mathlib.Algebra.Order.Group.Nat
import Mathlib.Data.List.DropRight
import Mathlib.Data.List.Perm.Subperm

/-!
Instructions as lines, and back.

An instruction that was read from a line is written as a line again. The tokens
of that line are the parts of the instruction with new punctuation, and a
comment with both delimiters. So the parts are read back, but for the token of
the mnemonic: where no semicolon is written after it, it loses one of its own,
and where nothing is written before it, it may be taken for a brace.

* `Instruction.displayTokens`, `Instruction.display_eq`: the tokens of the line;
* `Instruction.Legible`, `Instruction.legible_of_ofTokens`: what holds of an
  instruction that was read;
* `Instruction.Legible.wordsOf_display`: the line is cut into its tokens;
* `Instruction.Legible.exists_names`, `Instruction.not_names`: when the token of
  the mnemonic is read back;
* `Instruction.ofLine_display_iff`: when the instruction is.
-/

namespace BitProbe.Instruction

open Reading

/-! ### The tokens of a line -/

/-- Operands with the punctuation that they are written with: a comma after
each, and a semicolon after the last. -/
def punctuated : List String → List String
  | [] => []
  | [t] => [t ++ ";"]
  | t :: u :: ts => (t ++ ",") :: punctuated (u :: ts)

/-- The tokens of the mnemonic and the operands. -/
def statementTokens (i : Instruction) : List String :=
  if i.operands.isEmpty then [i.head ++ ";"]
  else i.head :: punctuated i.operands

/-- The tokens of an instruction that is written as a line. -/
def displayTokens (i : Instruction) : List String :=
  i.predicate.toList ++ i.statementTokens ++ comment i.encoding

lemma length_punctuated (ts : List String) :
    (punctuated ts).length = ts.length := by
  induction ts using punctuated.induct with
  | case1 | case2 t => rfl
  | case3 t u ts ih =>
      rw [punctuated, List.length_cons, ih]
      rfl

/-- Operands are written with a comma and a blank between each two, and a
semicolon at the end. -/
lemma intercalate_punctuated {ts : List String} (h : ts ≠ []) :
    String.intercalate " " (punctuated ts) =
      String.intercalate ", " ts ++ ";" := by
  induction ts using punctuated.induct with
  | case1 => exact absurd rfl h
  | case2 t => simp [punctuated]
  | case3 t u ts ih =>
      have hne : punctuated (u :: ts) ≠ [] := by
        rw [← List.length_pos_iff, length_punctuated]
        exact Nat.zero_lt_succ _
      rw [punctuated, String.intercalate_cons_of_ne_nil hne,
        ih (List.cons_ne_nil u ts), String.intercalate_cons_cons]
      simp only [String.append_assoc]
      rfl

/-- The token of the mnemonic stands alone if operands follow. -/
lemma statementTokens_of_ne {i : Instruction} (h : i.operands ≠ []) :
    i.statementTokens = i.head :: punctuated i.operands := by
  rw [statementTokens, if_neg (mt List.isEmpty_iff.1 h)]

lemma length_statementTokens (i : Instruction) :
    i.statementTokens.length = 1 + i.operands.length := by
  rw [statementTokens]
  cases hops : i.operands with
  | nil => rfl
  | cons t ts =>
      rw [List.isEmpty_cons, if_neg Bool.false_ne_true, List.length_cons,
        length_punctuated]
      omega

/-- The mnemonic and the operands as they are written. -/
lemma intercalate_statementTokens (i : Instruction) :
    String.intercalate " " i.statementTokens =
      i.head ++ (if i.operands.isEmpty then ""
        else " " ++ String.intercalate ", " i.operands) ++ ";" := by
  rw [statementTokens]
  by_cases h : i.operands.isEmpty = true
  · rw [if_pos h, if_pos h, String.intercalate_singleton,
      String.append_empty]
  · have hne : i.operands ≠ [] := mt List.isEmpty_iff.2 h
    have hpunctuated : punctuated i.operands ≠ [] := by
      rw [← List.length_pos_iff, length_punctuated, List.length_pos_iff]
      exact hne
    rw [if_neg h, if_neg h, String.intercalate_cons_of_ne_nil hpunctuated,
      intercalate_punctuated hne]
    simp only [String.append_assoc]

/-- A line is its tokens with one blank between each two. -/
lemma display_eq (i : Instruction) :
    i.display = String.intercalate " " i.displayTokens := by
  have hne : i.statementTokens ≠ [] := by
    rw [← List.length_pos_iff, length_statementTokens]
    omega
  have hcomment : String.intercalate " " (comment i.encoding) =
      "/* " ++ i.encoding.display ++ " */" := by
    rw [comment]
    simp only [String.intercalate_cons_cons, String.intercalate_singleton,
      String.append_assoc]
    rfl
  have hrest : String.intercalate " "
      (i.statementTokens ++ comment i.encoding) =
        i.head ++ (if i.operands.isEmpty then ""
          else " " ++ String.intercalate ", " i.operands) ++ "; /* " ++
          i.encoding.display ++ " */" := by
    have hne' : comment i.encoding ≠ [] := List.cons_ne_nil _ _
    rw [String.intercalate_append_of_ne_nil hne hne',
      intercalate_statementTokens, hcomment]
    simp only [String.append_assoc]
    rfl
  rw [displayTokens, display, List.append_assoc]
  cases i.predicate with
  | none =>
      rw [Option.toList_none, List.nil_append, hrest]
      simp only [String.append_assoc, String.empty_append]
  | some p =>
      rw [Option.toList_some, List.singleton_append,
        String.intercalate_cons_of_ne_nil
          (List.append_ne_nil_of_left_ne_nil hne _), hrest]
      simp only [String.append_assoc]

/-! ### Instructions that were read -/

/-- What holds of the parts of an instruction that was read from a line. -/
structure Legible (i : Instruction) : Prop where
  predicate : ∀ p, i.predicate = some p →
    IsPredicate p ∧ Text.IsWord p.toList
  opcode_ne : i.opcode ≠ ""
  opcode_unmarked : i.predicate = none → ¬ IsPredicate i.opcode
  empty_not_mem : "" ∉ i.modifiers
  field : ∀ f ∈ i.opcode :: i.modifiers.toList,
    '.' ∉ f.toList ∧ ∀ c ∈ f.toList, Text.isBlank c = false
  /-- No punctuation is left at the end of an operand. -/
  operands : ∀ t ∈ i.operands, Text.IsWord t.toList ∧ operand t = t

/-- An operand is an initial part of its token. -/
lemma operand_isPrefix (t : String) : (operand t).toList <+: t.toList := by
  rw [operand, String.toList_ofList]
  exact Text.dropRight_isPrefix _ _

/-- The punctuation is taken off at once. -/
lemma operand_operand (t : String) : operand (operand t) = operand t := by
  rw [operand, operand, String.toList_ofList]
  exact congrArg String.ofList (List.rdropWhile_idempotent _ _)

/-- Words are read as a legible instruction. -/
lemma legible_of_ofTokens {tokens : List String} {i : Instruction}
    (hwords : ∀ t ∈ tokens, Text.IsWord t.toList)
    (h : ofTokens tokens = .ok i) : i.Legible := by
  obtain ⟨before, head, rest, qs, ⟨opening, number, closing, rfl, -⟩,
    ⟨brace, rfl, -, hpredicate, hunmarked⟩, hnames, hmodifiers, hoperands,
    -⟩ := ofTokens_eq_ok_iff.1 h
  have hhead := hwords head (by simp)
  have hmem : ∀ m, m ∈ i.modifiers ↔ m ∈ qs ∧ m ≠ "" := by
    intro m
    rw [hmodifiers]
    simp
  constructor
  case predicate =>
    intro p hp
    exact ⟨hpredicate p hp, hwords p (by simp [hp])⟩
  case opcode_ne => exact hnames.mnemonic_ne
  case opcode_unmarked =>
    intro hp hmark
    exact hunmarked hp head rfl (hnames.isPredicate_iff.2 hmark)
  case empty_not_mem =>
    rw [hmem]
    exact fun h => h.2 rfl
  case field =>
    intro f hf
    have hf' : f ∈ i.opcode :: qs := by
      rcases List.mem_cons.1 hf with rfl | hf
      · exact List.mem_cons_self
      · exact List.mem_cons_of_mem _ ((hmem f).1 hf).1
    exact ⟨hnames.dot_not_mem f hf', fun c hc =>
      hhead.2 c (hnames.subset hf' hc)⟩
  case operands =>
    intro t ht
    rw [hoperands, readOperands, List.mem_filter, List.mem_map] at ht
    obtain ⟨⟨u, hu, rfl⟩, hne⟩ := ht
    refine ⟨⟨by simpa using hne, fun c hc => ?_⟩, operand_operand u⟩
    exact (hwords u (by simp [hu])).2 c ((operand_isPrefix u).subset hc)

/-! ### Cutting a line into its tokens -/

/-- Fields with dots are the first field, and each other one after a dot. -/
lemma intercalate_dot_cons (f : String) (fs : List String) :
    String.intercalate "." (f :: fs) = f ++ String.join (fs.map ("." ++ ·)) := by
  induction fs generalizing f with
  | nil => simp
  | cons g fs ih =>
      rw [String.intercalate_cons_cons, ih, List.map_cons, String.join_cons]
      simp only [String.append_assoc]

lemma head_eq (i : Instruction) :
    i.head = String.intercalate "." (i.opcode :: i.modifiers.toList) :=
  (intercalate_dot_cons _ _).symm

lemma Legible.isWord_head {i : Instruction} (h : i.Legible) :
    Text.IsWord i.head.toList := by
  constructor
  · rw [head]
    simp [h.opcode_ne]
  · intro c hc
    rw [head_eq, toList_intercalate_dot] at hc
    rcases Text.mem_of_mem_intercalate hc with hdot | ⟨cs, hcs, hmem⟩
    · rw [List.mem_singleton.1 hdot]
      decide
    · obtain ⟨f, hf, rfl⟩ := List.mem_map.1 hcs
      exact (h.field f hf).2 c hmem

/-- A word with punctuation is a word. -/
lemma isWord_append {s t : String} (hs : Text.IsWord s.toList)
    (ht : t.toList.all isSeparator = true) : Text.IsWord (s ++ t).toList := by
  rw [String.toList_append]
  refine ⟨List.append_ne_nil_of_left_ne_nil hs.1 _, fun c hc => ?_⟩
  rcases List.mem_append.1 hc with hc | hc
  · exact hs.2 c hc
  · rcases Bool.or_eq_true_iff.1 (List.all_eq_true.1 ht c hc) with hc | hc
    all_goals
      rw [of_decide_eq_true hc]
      decide

/-- What holds of the operands with either punctuation holds of them as they
are written. -/
lemma forall_mem_punctuated {p : String → Prop} {ts : List String}
    (h : ∀ t ∈ ts, p (t ++ ",") ∧ p (t ++ ";")) :
    ∀ t ∈ punctuated ts, p t := by
  induction ts using punctuated.induct with
  | case1 => exact fun t ht => absurd ht List.not_mem_nil
  | case2 t =>
      intro u hu
      exact List.mem_singleton.1 hu ▸ (h t List.mem_cons_self).2
  | case3 t u ts ih =>
      intro v hv
      rcases List.mem_cons.1 hv with rfl | hv
      · exact (h t List.mem_cons_self).1
      · exact ih (fun w hw => h w (List.mem_cons_of_mem t hw)) v hv

/-- A word of 64 bits is written as a word. -/
lemma isWord_displayChars (w : Word) : Text.IsWord w.displayChars := by
  have hall : ∀ d < 16, Text.isBlank (Nat.digitChar d) = false := by decide
  refine ⟨List.cons_ne_nil _ _, ?_⟩
  rw [Word.displayChars, List.forall_mem_cons, List.forall_mem_cons]
  refine ⟨by decide, by decide, fun c hc => ?_⟩
  obtain ⟨n, -, rfl⟩ := List.mem_map.1 hc
  exact hall _ (Nat.mod_lt _ (by decide))

/-- Every token of a line is a word. -/
lemma Legible.isWord_of_mem {i : Instruction} (h : i.Legible) :
    ∀ t ∈ i.displayTokens, Text.IsWord t.toList := by
  have hstatement : ∀ t ∈ i.statementTokens, Text.IsWord t.toList := by
    rw [statementTokens]
    split
    · exact List.forall_mem_singleton.2 (isWord_append h.isWord_head rfl)
    · refine List.forall_mem_cons.2 ⟨h.isWord_head, ?_⟩
      refine forall_mem_punctuated fun t ht => ?_
      have hword := (h.operands t ht).1
      exact ⟨isWord_append hword rfl, isWord_append hword rfl⟩
  intro t ht
  rw [displayTokens, List.mem_append, List.mem_append] at ht
  rcases ht with (ht | ht) | ht
  · exact (h.predicate t (Option.mem_toList.1 ht)).2
  · exact hstatement t ht
  · simp only [comment, List.mem_cons, List.not_mem_nil, or_false] at ht
    rcases ht with rfl | rfl | rfl
    · decide
    · rw [Word.display, String.toList_ofList]
      exact isWord_displayChars _
    · decide

/-- A line is cut into its tokens. -/
lemma Legible.wordsOf_display {i : Instruction} (h : i.Legible) :
    Text.wordsOf i.display = i.displayTokens := by
  rw [display_eq, Text.wordsOf_intercalate h.isWord_of_mem]

/-! ### Reading a line back -/

/-- Punctuation after a token changes nothing. -/
lemma operand_append {s t : String} (ht : t.toList.all isSeparator = true) :
    operand (s ++ t) = operand s := by
  rw [operand, operand, Text.dropRight, Text.dropRight, String.toList_append,
    List.reverse_append, List.dropWhile_append_of_pos]
  exact fun c hc => List.all_eq_true.1 ht c (List.mem_reverse.1 hc)

lemma map_operand_punctuated (ts : List String) :
    (punctuated ts).map operand = ts.map operand := by
  induction ts using punctuated.induct with
  | case1 => rfl
  | case2 t =>
      rw [punctuated, List.map_singleton, List.map_singleton,
        operand_append rfl]
  | case3 t u ts ih =>
      rw [punctuated, List.map_cons, List.map_cons, ih,
        operand_append rfl]

/-- The operands are read from their tokens. -/
lemma Legible.readOperands_punctuated {i : Instruction} (h : i.Legible) :
    readOperands (punctuated i.operands) = i.operands := by
  have hmap : i.operands.map operand = i.operands :=
    (List.map_congr_left fun t ht => (h.operands t ht).2).trans
      (List.map_id _)
  rw [readOperands, map_operand_punctuated, hmap, List.filter_eq_self]
  intro t ht
  simpa using (h.operands t ht).1.1

/-- No more operands are read than there are tokens. -/
lemma length_readOperands_le (tokens : List String) :
    (readOperands tokens).length ≤ tokens.length := by
  rw [readOperands]
  exact Nat.le_trans (List.length_filter_le _ _) (by simp)

/-- The token of the mnemonic names its parts, also where a semicolon is
written after it. -/
lemma Legible.names {i : Instruction} (h : i.Legible) {token : String}
    (ht : token = i.head ++ ";" ∨
      token = i.head ∧ i.head.toList.getLast? ≠ some ';') :
    Names token i.opcode i.modifiers.toList := by
  refine ⟨h.opcode_ne, fun f hf => (h.field f hf).1, ?_⟩
  rw [← head_eq]
  rcases ht with rfl | ⟨rfl, hne⟩
  · exact .inl rfl
  · exact .inr ⟨rfl, hne⟩

/-- The mnemonic and the operands are in their tokens unless the first of these
loses a semicolon or is taken for a brace. -/
lemma Legible.exists_names {i : Instruction} (h : i.Legible)
    (hsafe : i.operands = [] ∨ i.head.toList.getLast? ≠ some ';' ∧
      ¬ (i.predicate = none ∧ i.head = "\x7b")) :
    ∃ token rest, i.statementTokens = token :: rest ∧
      Names token i.opcode i.modifiers.toList ∧
      (i.predicate = none → token ≠ "\x7b") ∧
      i.operands = readOperands rest := by
  rcases eq_or_ne i.operands [] with hnil | hne
  · refine ⟨i.head ++ ";", [], ?_, h.names (.inl rfl), fun _ heq => ?_, hnil⟩
    · rw [statementTokens, hnil]
      rfl
    · have hlast := congrArg (·.toList.getLast?) heq
      simp at hlast
  · obtain ⟨hlast, hbrace⟩ := hsafe.resolve_left hne
    exact ⟨i.head, _, statementTokens_of_ne hne, h.names (.inr ⟨rfl, hlast⟩),
      fun hp hhead => hbrace ⟨hp, hhead⟩, h.readOperands_punctuated.symm⟩

/-- The modifiers are a set without the empty text. -/
lemma Legible.modifiers_eq {i : Instruction} (h : i.Legible) :
    i.modifiers = .ofList (i.modifiers.toList.filter (· ≠ "")) := by
  refine SortedSet.ext_mem fun m => ?_
  rw [SortedSet.mem_ofList, List.mem_filter, decide_eq_true_iff]
  refine ⟨fun hm => ⟨hm, ?_⟩, fun hm => hm.1⟩
  rintro rfl
  exact h.empty_not_mem hm

/-- How long fields with dots are. -/
lemma length_intercalate_dot (f : String) (fs : List String) :
    (String.intercalate "." (f :: fs)).length =
      f.length + (fs.map fun g => g.length + 1).sum := by
  have hjoin : (String.join (fs.map ("." ++ ·))).length =
      (fs.map fun g => g.length + 1).sum := by
    induction fs with
    | nil => rfl
    | cons g fs ih =>
        rw [List.map_cons, String.join_cons, String.length_append,
          String.length_append, ih, List.map_cons, List.sum_cons,
          Nat.add_comm g.length]
        rfl
  rw [intercalate_dot_cons, String.length_append, hjoin]

/-- Qualifiers are no fewer characters than the modifiers that they are. -/
lemma length_head_le {i : Instruction} {qualifiers : List String}
    (hmodifiers : i.modifiers = .ofList (qualifiers.filter (· ≠ ""))) :
    i.head.length ≤
      (String.intercalate "." (i.opcode :: qualifiers)).length := by
  have hnodup : i.modifiers.toList.Nodup := i.modifiers.ascending.imp
    fun hlt heq => by
      rw [heq, Std.compare_eq_iff_eq.2 rfl] at hlt
      cases hlt
  have hsubset : i.modifiers.toList ⊆ qualifiers := by
    intro m hm
    have hmem : m ∈ i.modifiers := hm
    rw [hmodifiers, SortedSet.mem_ofList] at hmem
    exact (List.mem_filter.1 hmem).1
  obtain ⟨ms, hperm, hsublist⟩ := List.subperm_of_subset hnodup hsubset
  have hsum : (i.modifiers.toList.map fun g => g.length + 1).sum ≤
      (qualifiers.map fun g => g.length + 1).sum := by
    rw [← (hperm.map _).sum_nat]
    exact (hsublist.map _).sum_le_sum fun _ _ => Nat.zero_le _
  rw [head_eq, length_intercalate_dot, length_intercalate_dot]
  exact Nat.add_le_add_left hsum _

/-- A mnemonic that ends with a semicolon is not read back from a token without
another one. -/
lemma not_names {i : Instruction} (hlast : i.head.toList.getLast? = some ';')
    {qualifiers : List String}
    (hmodifiers : i.modifiers = .ofList (qualifiers.filter (· ≠ ""))) :
    ¬ Names i.head i.opcode qualifiers := by
  intro h
  rcases h.eq_or with heq | ⟨-, hne⟩
  · have hle := length_head_le hmodifiers
    rw [heq, String.length_append] at hle
    exact absurd hle (Nat.not_le.2 (Nat.lt_succ_self _))
  · exact hne hlast

/-- If the operands are read back, the token of the mnemonic has not lost a
semicolon and was not taken for a brace. -/
lemma kept_of_beginsWith {i : Instruction} (hne : i.operands ≠ [])
    {head : String} {rest qualifiers : List String}
    (hbegins : BeginsWith (i.predicate.toList ++ i.statementTokens)
      i.predicate (head :: rest))
    (hnames : Names head i.opcode qualifiers)
    (hmodifiers : i.modifiers = .ofList (qualifiers.filter (· ≠ "")))
    (hoperands : i.operands = readOperands rest) :
    i.head.toList.getLast? ≠ some ';' ∧
      ¬ (i.predicate = none ∧ i.head = "\x7b") := by
  rw [statementTokens_of_ne hne] at hbegins
  obtain ⟨brace, htokens, rfl | ⟨rfl, hbrace⟩, -⟩ := hbegins
  · -- A token is lost with the brace, and so is an operand.
    have hlength : (punctuated i.operands).length = rest.length + 1 := by
      have hall := congrArg List.length htokens
      simp only [List.length_append, List.length_cons,
        List.length_nil] at hall
      omega
    have hle := length_readOperands_le rest
    rw [← hoperands, ← length_punctuated, hlength] at hle
    exact absurd hle (Nat.not_succ_le_self _)
  · obtain ⟨rfl, rfl⟩ : i.head = head ∧ punctuated i.operands = rest := by
      simpa using htokens
    refine ⟨fun hlast => not_names hlast hmodifiers hnames, ?_⟩
    rintro ⟨hnone, hhead⟩
    rw [hnone, hhead] at hbrace
    exact hbrace rfl

lemma length_predicate_append_statementTokens (i : Instruction) :
    (i.predicate.toList ++ i.statementTokens).length =
      (if i.predicate.isSome then 1 else 0) + 1 + i.operands.length := by
  rw [List.length_append, length_statementTokens]
  cases i.predicate with
  | none => simp
  | some p =>
      rw [Option.toList_some, List.length_singleton, Option.isSome_some,
        if_pos rfl, Nat.add_assoc]

/-- An instruction that was read from a line is read back from the line that it
is written as, with the tokens of that line counted, exactly if there are no
operands, or the token of its mnemonic neither loses a semicolon nor is taken
for the brace of a bundle. -/
theorem ofLine_display_iff {line : String} {i : Instruction}
    (h : ofLine line = .ok i) :
    ofLine i.display = .ok { i with tokenCount :=
        (if i.predicate.isSome then 1 else 0) + 1 + i.operands.length + 3 } ↔
      i.operands = [] ∨ i.head.toList.getLast? ≠ some ';' ∧
        ¬ (i.predicate = none ∧ i.head = "\x7b") := by
  have hlegible : i.Legible :=
    legible_of_ofTokens (fun _ => Text.isWord_of_mem_wordsOf) h
  rw [ofLine, hlegible.wordsOf_display, displayTokens,
    ofTokens_comment_eq_ok_iff]
  constructor
  · rintro ⟨head, rest, qs, hbegins, hnames, hmodifiers, hoperands, -⟩
    exact or_iff_not_imp_left.2 fun hne =>
      kept_of_beginsWith hne hbegins hnames hmodifiers hoperands
  · intro hsafe
    obtain ⟨token, rest, htokens, hnames, hbrace, hoperands⟩ :=
      hlegible.exists_names hsafe
    have hbegins : BeginsWith (i.predicate.toList ++ token :: rest)
        i.predicate (token :: rest) :=
      beginsWith_of false (fun p hp => (hlegible.predicate p hp).1)
        (fun _ => hbrace)
        fun hp => mt hnames.isPredicate_iff.1 (hlegible.opcode_unmarked hp)
    exact ⟨token, rest, _, htokens ▸ hbegins, hnames, hlegible.modifiers_eq,
      hoperands, rfl, by rw [length_predicate_append_statementTokens]⟩

/-- What is read from two braces and an operand: the second brace is the
mnemonic. -/
def bracesRead : Instruction :=
  ⟨none, "\x7b", ∅, ["R1"], 0x2A#64, 4⟩

/-- What is read from a mnemonic with a qualifier that is written twice. -/
def guardedRead : Instruction :=
  ⟨some "@P0", "FADD", .ofList ["FTZ"], ["R0", "R1"], 0x2A#64, 6⟩

/-- A brace for a mnemonic is lost, but a qualifier that is written twice makes
no difference. -/
theorem ofLine_display_iff_braces :
    (ofLine "\x7b \x7b R1; /*0x2A*/" = .ok bracesRead ∧
      ofLine bracesRead.display ≠ .ok { bracesRead with tokenCount := 5 }) ∧
    (ofLine "@P0 FADD.FTZ.FTZ R0,, R1 ; /*0x2A*/" = .ok guardedRead ∧
      ofLine guardedRead.display =
        .ok { guardedRead with tokenCount := 7 }) := by
  have hbraces : ofLine "\x7b \x7b R1; /*0x2A*/" = .ok bracesRead := by
    decide +kernel
  have hguarded :
      ofLine "@P0 FADD.FTZ.FTZ R0,, R1 ; /*0x2A*/" = .ok guardedRead := by
    decide +kernel
  refine ⟨⟨hbraces, fun h => ?_⟩, hguarded, ?_⟩
  · exact absurd ((ofLine_display_iff hbraces).1 h) (by decide)
  · exact (ofLine_display_iff hguarded).2 (by decide)

end BitProbe.Instruction

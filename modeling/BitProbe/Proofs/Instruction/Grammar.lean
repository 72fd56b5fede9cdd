import BitProbe.Proofs.Instruction.Comment
import BitProbe.Proofs.Text.Pieces

/-!
The tokens of an instruction.

Tokens are read as an instruction exactly if they end with a word, and the
others begin with a predicate or none, perhaps after a brace, and go on with a
token for the mnemonic and its qualifiers. Everything else about the instruction
is in these parts.

* `Reading.BeginsWith`, `Reading.takePredicate_eq_iff`: what stands before the
  mnemonic;
* `Reading.Names`, `Reading.readHead_eq_ok_iff`: the token with the mnemonic;
* `Instruction.ofTokens_eq_ok_iff`: the tokens of an instruction;
* `Instruction.ofTokens_comment_eq_ok_iff`: those with a comment at the end.
-/

namespace BitProbe

namespace Reading

/-! ### Before the mnemonic -/

/-- A predicate starts with an at sign. -/
def IsPredicate (token : String) : Prop :=
  token.toList.head? = some '@'

instance (token : String) : Decidable (IsPredicate token) :=
  inferInstanceAs (Decidable (_ = _))

/-- Tokens begin with a predicate or none, perhaps after a brace. What follows
does not begin with a predicate if there is none. -/
def BeginsWith (tokens : List String) (predicate : Option String)
    (rest : List String) : Prop :=
  ∃ brace, tokens = brace ++ predicate.toList ++ rest ∧
    (brace = ["\x7b"] ∨ brace = [] ∧ tokens.head? ≠ some "\x7b") ∧
    (∀ p, predicate = some p → IsPredicate p) ∧
    (predicate = none → ∀ t, rest.head? = some t → ¬ IsPredicate t)

lemma afterBrace_eq (tokens : List String) :
    afterBrace tokens = withoutFirst "\x7b" tokens := by
  cases tokens <;> rfl

lemma takePredicate_eq_iff {tokens rest : List String}
    {predicate : Option String} :
    takePredicate tokens = (predicate, rest) ↔
      tokens = predicate.toList ++ rest ∧
      (∀ p, predicate = some p → IsPredicate p) ∧
      (predicate = none → ∀ t, rest.head? = some t → ¬ IsPredicate t) := by
  cases predicate with
  | none =>
      cases tokens with
      | nil =>
          rw [takePredicate]
          constructor
          · rintro ⟨⟩
            simp
          · rintro ⟨rfl, -⟩
            rfl
      | cons t ts =>
          rw [takePredicate]
          by_cases ht : t.toList.head? = some '@'
          · rw [if_pos ht]
            refine ⟨fun h => (by cases h), ?_⟩
            rintro ⟨rfl, -, h⟩
            exact absurd ht (h rfl t rfl)
          · rw [if_neg ht]
            constructor
            · rintro ⟨⟩
              refine ⟨rfl, fun p hp => (by cases hp), fun _ u hu => ?_⟩
              rw [List.head?_cons, Option.some.injEq] at hu
              exact hu ▸ ht
            · rintro ⟨rfl, -⟩
              rfl
  | some p =>
      cases tokens with
      | nil => simp [takePredicate]
      | cons t ts =>
          rw [takePredicate]
          by_cases ht : t.toList.head? = some '@'
          · rw [if_pos ht]
            constructor
            · rintro ⟨⟩
              exact ⟨rfl, fun q hq => by cases hq; exact ht, by simp⟩
            · rintro ⟨heq, -⟩
              cases heq
              rfl
          · rw [if_neg ht]
            refine ⟨fun h => (by cases h), ?_⟩
            rintro ⟨heq, hp, -⟩
            cases heq
            exact absurd (hp _ rfl) ht

/-- What is read before the mnemonic is what the tokens begin with. -/
lemma takePredicate_afterBrace_eq_iff {tokens rest : List String}
    {predicate : Option String} :
    takePredicate (afterBrace tokens) = (predicate, rest) ↔
      BeginsWith tokens predicate rest := by
  rw [takePredicate_eq_iff, afterBrace_eq, withoutFirst_eq_iff]
  constructor
  · rintro ⟨htokens | ⟨htokens, hne⟩, h⟩
    · exact ⟨["\x7b"], htokens, .inl rfl, h⟩
    · exact ⟨[], htokens, .inr ⟨rfl, htokens ▸ hne⟩, h⟩
  · rintro ⟨brace, htokens, rfl | ⟨rfl, hne⟩, h⟩
    · exact ⟨.inl htokens, h⟩
    · exact ⟨.inr ⟨htokens, htokens ▸ hne⟩, h⟩

/-- A brace or none, a predicate or none, and a token that is neither where
there is none. -/
lemma beginsWith_of (braced : Bool) {predicate : Option String}
    {head : String} {rest : List String}
    (hpredicate : ∀ p, predicate = some p → IsPredicate p)
    (hbrace : braced = false → predicate = none → head ≠ "\x7b")
    (hunmarked : predicate = none → ¬ IsPredicate head) :
    BeginsWith ((if braced then ["\x7b"] else []) ++ predicate.toList ++
      head :: rest) predicate (head :: rest) := by
  refine ⟨if braced then ["\x7b"] else [], rfl, ?_, hpredicate, ?_⟩
  · cases braced with
    | true => exact .inl rfl
    | false =>
        refine .inr ⟨rfl, ?_⟩
        cases predicate with
        | none => simpa using hbrace rfl rfl
        | some p =>
            have hmark := hpredicate p rfl
            rintro heq
            rw [show p = "\x7b" by simpa using heq] at hmark
            exact absurd hmark (by decide)
  · intro hp t ht
    rw [List.head?_cons, Option.some.injEq] at ht
    exact ht ▸ hunmarked hp

/-! ### The mnemonic -/

/-- A token names a mnemonic and qualifiers: they stand in it with a dot between
each two, and a semicolon may end it. -/
structure Names (token mnemonic : String) (qualifiers : List String) :
    Prop where
  mnemonic_ne : mnemonic ≠ ""
  dot_not_mem : ∀ f ∈ mnemonic :: qualifiers, '.' ∉ f.toList
  eq_or : token = String.intercalate "." (mnemonic :: qualifiers) ++ ";" ∨
    token = String.intercalate "." (mnemonic :: qualifiers) ∧
      token.toList.getLast? ≠ some ';'

/-- A token begins with the mnemonic that it names. -/
lemma Names.exists_append {token mnemonic : String} {qualifiers : List String}
    (h : Names token mnemonic qualifiers) : ∃ s, token = mnemonic ++ s := by
  have hfields : ∃ s, String.intercalate "." (mnemonic :: qualifiers) =
      mnemonic ++ s := by
    cases qualifiers with
    | nil => exact ⟨"", by simp⟩
    | cons q qs =>
        rw [String.intercalate_cons_cons, String.append_assoc]
        exact ⟨_, rfl⟩
  obtain ⟨s, hs⟩ := hfields
  rcases h.eq_or with rfl | ⟨rfl, -⟩
  · exact ⟨s ++ ";", by rw [hs, String.append_assoc]⟩
  · exact ⟨s, hs⟩

/-- A token starts like a predicate if the mnemonic does. -/
lemma Names.isPredicate_iff {token mnemonic : String}
    {qualifiers : List String} (h : Names token mnemonic qualifiers) :
    IsPredicate token ↔ IsPredicate mnemonic := by
  obtain ⟨s, rfl⟩ := h.exists_append
  have hne : mnemonic.toList ≠ [] := by simpa using h.mnemonic_ne
  rw [IsPredicate, String.toList_append, List.head?_append_of_ne_nil _ hne,
    IsPredicate]

/-- A token has the characters of its fields. -/
lemma Names.subset {token mnemonic : String} {qualifiers : List String}
    (h : Names token mnemonic qualifiers) {f : String}
    (hf : f ∈ mnemonic :: qualifiers) : f.toList ⊆ token.toList := by
  have hfields : f.toList ⊆
      (String.intercalate "." (mnemonic :: qualifiers)).toList := by
    rw [String.toList_intercalate]
    exact (Text.isInfix_intercalate (List.mem_map_of_mem hf)).subset
  rcases h.eq_or with rfl | ⟨rfl, -⟩
  · rw [String.toList_append]
    exact List.Subset.trans hfields (List.subset_append_left _ _)
  · exact hfields

lemma beforeTerminator_eq_iff {cs ds : List Char} :
    beforeTerminator cs = ds ↔
      cs = ds ++ [';'] ∨ cs = ds ∧ cs.getLast? ≠ some ';' := by
  rw [beforeTerminator]
  split
  · rename_i hlast
    obtain ⟨es, rfl⟩ := List.getLast?_eq_some_iff.1 hlast
    simp
  · rename_i hlast
    constructor
    · rintro rfl
      exact .inr ⟨rfl, hlast⟩
    · rintro (rfl | ⟨rfl, -⟩)
      · exact absurd (by simp) hlast
      · rfl

/-- The characters of texts with a dot between each two. -/
lemma toList_intercalate_dot (fields : List String) :
    (String.intercalate "." fields).toList =
      ['.'].intercalate (fields.map String.toList) :=
  String.toList_intercalate

/-- Cutting at the dots undoes putting them in. -/
lemma splitOn_dot_eq_iff {cs : List Char} {fields : List String}
    (hne : fields ≠ []) :
    cs.splitOn '.' = fields.map String.toList ↔
      cs = (String.intercalate "." fields).toList ∧
        ∀ f ∈ fields, '.' ∉ f.toList := by
  rw [toList_intercalate_dot]
  constructor
  · intro h
    refine ⟨by rw [← h, List.intercalate_splitOn], fun f hf => ?_⟩
    exact Text.not_mem_of_mem_splitOn (h ▸ List.mem_map_of_mem hf)
  · rintro ⟨rfl, hdot⟩
    refine List.splitOn_intercalate '.' ?_ (by simpa using hne)
    intro l hl
    obtain ⟨f, hf, rfl⟩ := List.mem_map.1 hl
    exact hdot f hf

/-- The fields of a token are what stands between its dots, once a final
semicolon is gone. -/
lemma splitOn_beforeTerminator_iff {token mnemonic : String}
    {qualifiers : List String} (hne : mnemonic ≠ "") :
    (beforeTerminator token.toList).splitOn '.' =
        (mnemonic :: qualifiers).map String.toList ↔
      Names token mnemonic qualifiers := by
  have heq : ∀ s : String, token.toList = s.toList ↔ token = s :=
    fun s => String.toList_inj
  have hsemicolon :
      (String.intercalate "." (mnemonic :: qualifiers)).toList ++ [';'] =
        (String.intercalate "." (mnemonic :: qualifiers) ++ ";").toList := by
    rw [String.toList_append]
    rfl
  rw [splitOn_dot_eq_iff (List.cons_ne_nil _ _), beforeTerminator_eq_iff,
    hsemicolon, heq, heq]
  exact ⟨fun h => ⟨hne, h.2, h.1⟩, fun h => ⟨h.eq_or, h.dot_not_mem⟩⟩

/-- The mnemonic and the modifiers that are read from a token are those that it
names; qualifiers without characters do not count. -/
lemma readHead_eq_ok_iff {token mnemonic : String}
    {modifiers : SortedSet String} :
    readHead token = .ok (mnemonic, modifiers) ↔
      ∃ qualifiers, Names token mnemonic qualifiers ∧
        modifiers = .ofList (qualifiers.filter (· ≠ "")) := by
  have hfilter : ∀ rest : List (List Char),
      (rest.filter (! ·.isEmpty)).map String.ofList =
        (rest.map String.ofList).filter (· ≠ "") := by
    intro rest
    rw [List.filter_map]
    congr 1
    exact List.filter_congr fun cs _ => by cases cs <;> simp
  rw [readHead]
  constructor
  · intro h
    cases hsplit : (beforeTerminator token.toList).splitOn '.' with
    | nil => simp [hsplit] at h
    | cons cs rest =>
        simp only [hsplit] at h
        split at h
        · cases h
        · rename_i hcs
          simp only [Except.ok.injEq, Prod.mk.injEq] at h
          obtain ⟨rfl, rfl⟩ := h
          refine ⟨rest.map String.ofList, ?_, by rw [hfilter]⟩
          rw [← splitOn_beforeTerminator_iff (by simpa using hcs), hsplit]
          simp [Function.comp_def]
  · rintro ⟨qualifiers, hnames, rfl⟩
    rw [(splitOn_beforeTerminator_iff hnames.mnemonic_ne).2 hnames,
      List.map_cons]
    have hne : mnemonic.toList.isEmpty = false := by
      simpa using hnames.mnemonic_ne
    simp only [hne, hfilter, List.map_map]
    simp [Function.comp_def]

end Reading

namespace Instruction

open Reading

/-- What it takes for tokens to be read as an instruction, step by step. -/
lemma ofTokens_eq_ok_iff_steps {tokens : List String} {i : Instruction} :
    ofTokens tokens = .ok i ↔
      ∃ before head rest,
        splitEncoding tokens = .ok (before, i.encoding) ∧
        takePredicate (afterBrace before) = (i.predicate, head :: rest) ∧
        readHead head = .ok (i.opcode, i.modifiers) ∧
        i.operands = readOperands rest ∧ i.tokenCount = tokens.length := by
  rw [ofTokens]
  by_cases hempty : tokens.isEmpty = true
  · rw [if_pos hempty, List.isEmpty_iff.1 hempty]
    simp [splitEncoding]
  rw [if_neg hempty]
  constructor
  · intro h
    cases hs : splitEncoding tokens with
    | error e => simp [hs] at h
    | ok split =>
        obtain ⟨before, encoding⟩ := split
        cases hp : takePredicate (afterBrace before) with
        | mk predicate rest =>
            cases rest with
            | nil => simp [hs, hp] at h
            | cons head rest =>
                cases hr : readHead head with
                | error e => simp [hs, hp, hr] at h
                | ok named =>
                    simp only [hs, hp, hr, Except.ok.injEq] at h
                    subst h
                    exact ⟨before, head, rest, rfl, hp, hr, rfl, rfl⟩
  · rintro ⟨before, head, rest, hs, hp, hr, hoperands, hcount⟩
    simp only [hs, hp, hr, Except.ok.injEq]
    rw [← hoperands, ← hcount]

/-- Tokens are read as an instruction exactly if they end with its word, and the
others begin with its predicate and go on with a token that names its mnemonic
and its modifiers. The operands are what is left. -/
theorem ofTokens_eq_ok_iff {tokens : List String} {i : Instruction} :
    ofTokens tokens = .ok i ↔
      ∃ before head rest qualifiers,
        EndsWith tokens before i.encoding ∧
        BeginsWith before i.predicate (head :: rest) ∧
        Names head i.opcode qualifiers ∧
        i.modifiers = .ofList (qualifiers.filter (· ≠ "")) ∧
        i.operands = readOperands rest ∧ i.tokenCount = tokens.length := by
  rw [ofTokens_eq_ok_iff_steps]
  simp only [splitEncoding_eq_ok_iff, takePredicate_afterBrace_eq_iff,
    readHead_eq_ok_iff]
  constructor
  · rintro ⟨before, head, rest, hends, hbegins, ⟨qs, hnames, hms⟩, h⟩
    exact ⟨before, head, rest, qs, hends, hbegins, hnames, hms, h⟩
  · rintro ⟨before, head, rest, qs, hends, hbegins, hnames, hms, h⟩
    exact ⟨before, head, rest, hends, hbegins, ⟨qs, hnames, hms⟩, h⟩

/-- What is read from tokens and a comment depends on the tokens. -/
lemma ofTokens_comment_eq_ok_iff {tokens : List String} {w : Word}
    {i : Instruction} :
    ofTokens (tokens ++ comment w) = .ok i ↔
      ∃ head rest qualifiers,
        BeginsWith tokens i.predicate (head :: rest) ∧
        Names head i.opcode qualifiers ∧
        i.modifiers = .ofList (qualifiers.filter (· ≠ "")) ∧
        i.operands = readOperands rest ∧ i.encoding = w ∧
        i.tokenCount = tokens.length + 3 := by
  rw [ofTokens_eq_ok_iff]
  simp only [endsWith_comment_iff, List.length_append]
  constructor
  · rintro ⟨_, head, rest, qs, ⟨rfl, hw⟩, hbegins, hnames, hms, hops, hcount⟩
    exact ⟨head, rest, qs, hbegins, hnames, hms, hops, hw, hcount⟩
  · rintro ⟨head, rest, qs, hbegins, hnames, hms, hops, hw, hcount⟩
    exact ⟨_, head, rest, qs, ⟨rfl, hw⟩, hbegins, hnames, hms, hops, hcount⟩

end Instruction

end BitProbe

import BitProbe.Proofs.Json.Tokens

/-!
Reading values back.

A value is read back from its tokens, and its tokens from each of its two
texts. So both the compact and the indented text of a value determine it. The
compact text has no control characters, and so stays on one line.

* `Json.ind`: the induction on values that all of this goes by;
* `Json.ofTokens?_tokens`: from the tokens to the value;
* `Json.writes_compact`, `Json.writes_indented`: from the texts to the tokens;
* `Json.read?_compact`, `Json.read?_indented`: from the texts to the value;
* `Json.not_control_compact`: a compact text is one line.
-/

namespace BitProbe.Json

/-- A property of all values: it holds of the simple ones, of an array if of
its items, and of an object if of the values of its members. -/
@[elab_as_elim]
theorem ind {P : Json → Prop} (null : P .null) (bool : ∀ b, P (.bool b))
    (number : ∀ n, P (.number n)) (text : ∀ s, P (.text s))
    (array : ∀ xs : List Json, (∀ x ∈ xs, P x) → P (.array xs))
    (object : ∀ ms : List (String × Json), (∀ m ∈ ms, P m.2) → P (.object ms))
    (j : Json) : P j :=
  @Json.rec P (fun xs => ∀ x ∈ xs, P x) (fun ms => ∀ m ∈ ms, P m.2)
    (fun m => P m.2)
    null bool number text array object
    (fun _ h => absurd h List.not_mem_nil)
    (fun _ _ hx hxs y hy => by
      rcases List.mem_cons.1 hy with rfl | hy
      · exact hx
      · exact hxs y hy)
    (fun _ h => absurd h List.not_mem_nil)
    (fun _ _ hm hms n hn => by
      rcases List.mem_cons.1 hn with rfl | hn
      · exact hm
      · exact hms n hn)
    (fun _ _ hv => hv) j

/-! ### From tokens to values -/

/-- The tokens of a value start with one that does not close an array. -/
lemma tokens_eq_cons (j : Json) :
    ∃ t ts, j.tokens = t :: ts ∧ t ≠ .mark ']' := by
  cases j with
  | null => exact ⟨_, _, rfl, nofun⟩
  | bool b => exact ⟨_, _, rfl, nofun⟩
  | number n => exact ⟨_, _, rfl, nofun⟩
  | text s => exact ⟨_, _, rfl, nofun⟩
  | array xs => exact ⟨_, _, rfl, by decide⟩
  | object ms => exact ⟨_, _, rfl, by decide⟩

/-- A value is read back from its tokens, whatever tokens follow, if there is
fuel for them. -/
def ReadsBack (j : Json) : Prop :=
  ∀ fuel rest, 2 * j.tokens.length ≤ fuel + 1 →
    readValue fuel (j.tokens ++ rest) = some (j, rest)

/-- There is always some fuel, as a value has a token at least. -/
lemma readsBack_of_succ {j : Json}
    (h : ∀ fuel rest, 2 * j.tokens.length ≤ fuel + 2 →
      readValue (fuel + 1) (j.tokens ++ rest) = some (j, rest)) :
    j.ReadsBack := by
  intro fuel rest hf
  cases fuel with
  | zero =>
      obtain ⟨t, ts, ht, -⟩ := tokens_eq_cons j
      rw [ht, List.length_cons] at hf
      omega
  | succ fuel => exact h fuel rest hf

/-- Items are read back up to the closing bracket. -/
lemma readItems_tokens {x : Json} {xs : List Json}
    (h : ∀ y ∈ x :: xs, y.ReadsBack) (fuel : Nat) (rest : List Token)
    (hf : 2 * (itemTokens (x :: xs)).length ≤ fuel) :
    readItems fuel (itemTokens (x :: xs) ++ .mark ']' :: rest) =
      some (x :: xs, rest) := by
  obtain ⟨t, ts, ht, -⟩ := tokens_eq_cons x
  induction xs generalizing x t ts fuel with
  | nil =>
      have hx := h x List.mem_cons_self
      rw [itemTokens, laterItemTokens, List.append_nil] at hf ⊢
      cases fuel with
      | zero => rw [ht] at hf; exact absurd hf (by simp)
      | succ fuel =>
          rw [readItems, hx fuel _ hf]
          rfl
  | cons y ys ih =>
      have hx := h x List.mem_cons_self
      have hys := fun z hz => h z (List.mem_cons_of_mem x hz)
      obtain ⟨u, us, hu, -⟩ := tokens_eq_cons y
      have hlater : laterItemTokens (y :: ys) =
          .mark ',' :: itemTokens (y :: ys) := rfl
      rw [itemTokens, hlater, List.length_append, List.length_cons] at hf
      cases fuel with
      | zero => rw [ht] at hf; exact absurd hf (by simp)
      | succ fuel =>
          rw [readItems, itemTokens, hlater, List.append_assoc,
            hx fuel _ (by omega), List.cons_append]
          exact congrArg (Option.map _) (ih hys fuel (by omega) u us hu)

/-- Members are read back up to the closing brace. -/
lemma readMembers_tokens {m : String × Json} {ms : List (String × Json)}
    (h : ∀ n ∈ m :: ms, n.2.ReadsBack) (fuel : Nat) (rest : List Token)
    (hf : 2 * (memberTokens (m :: ms)).length ≤ fuel) :
    readMembers fuel (memberTokens (m :: ms) ++ .mark '\x7d' :: rest) =
      some (m :: ms, rest) := by
  induction ms generalizing m fuel with
  | nil =>
      obtain ⟨k, v⟩ := m
      have hv : v.ReadsBack := h (k, v) List.mem_cons_self
      rw [memberTokens, laterMemberTokens, List.append_nil] at hf ⊢
      rw [List.length_cons, List.length_cons] at hf
      cases fuel with
      | zero => exact absurd hf (by omega)
      | succ fuel =>
          rw [List.cons_append, List.cons_append, readMembers,
            hv fuel _ (by omega)]
          rfl
  | cons n ns ih =>
      obtain ⟨k, v⟩ := m
      have hv : v.ReadsBack := h (k, v) List.mem_cons_self
      have hns := fun z hz => h z (List.mem_cons_of_mem (k, v) hz)
      have hlater : laterMemberTokens (n :: ns) =
          .mark ',' :: memberTokens (n :: ns) := rfl
      rw [memberTokens, hlater, List.length_append, List.length_cons,
        List.length_cons, List.length_cons] at hf
      cases fuel with
      | zero => exact absurd hf (by omega)
      | succ fuel =>
          rw [memberTokens, hlater, List.append_assoc, List.cons_append,
            List.cons_append, readMembers, hv fuel _ (by omega),
            List.cons_append]
          exact congrArg (Option.map _) (ih hns fuel (by omega))

/-- Every value is read back from its tokens. -/
theorem readsBack (j : Json) : j.ReadsBack := by
  induction j using ind with
  | null => exact readsBack_of_succ fun _ _ _ => rfl
  | bool b => exact readsBack_of_succ fun _ _ _ => rfl
  | number n => exact readsBack_of_succ fun _ _ _ => rfl
  | text s => exact readsBack_of_succ fun _ _ _ => rfl
  | array xs ih =>
      refine readsBack_of_succ fun fuel rest hf => ?_
      cases xs with
      | nil => rfl
      | cons x xs =>
          have hitems := readItems_tokens ih fuel rest (by
            simp only [tokens, List.length_append, List.length_cons] at hf
            omega)
          -- the array is not closed at once, as no value starts so
          obtain ⟨t, ts, ht, hne⟩ := tokens_eq_cons x
          rw [itemTokens, ht, List.cons_append, List.cons_append] at hitems
          rw [tokens, itemTokens, ht, List.append_assoc, List.cons_append,
            List.cons_append, List.cons_append, readValue]
          · exact congrArg (Option.map _) hitems
          · intro us hus
            cases hus
            exact hne rfl
  | object ms ih =>
      refine readsBack_of_succ fun fuel rest hf => ?_
      cases ms with
      | nil => rfl
      | cons m ms =>
          have hmembers := readMembers_tokens ih fuel rest (by
            simp only [tokens, List.length_append, List.length_cons] at hf
            omega)
          rw [tokens, List.append_assoc, List.cons_append, readValue]
          · exact congrArg (Option.map _) hmembers
          · intro us hus
            cases hus

/-- The value of the tokens of a value is this value. -/
theorem ofTokens?_tokens (j : Json) : ofTokens? j.tokens = some j := by
  have h := readsBack j (2 * j.tokens.length) [] (by omega)
  rw [List.append_nil] at h
  rw [ofTokens?, h]

/-! ### From texts to tokens -/

section Layout

variable {bs bs' cv cs : List Char} (hb : ∀ b ∈ bs, isSpace b = true)
  (hb' : ∀ b ∈ bs', isSpace b = true)

/-- A mark goes before anything. -/
lemma writes_mark {c : Char} (hc : isMark c = true) {ts : List Token}
    (h : Writes cs ts) : Writes (c :: cs) (.mark c :: ts) :=
  Writes.token_cons (t := .mark c) hc rfl h

/-- A mark after some blanks. -/
lemma writes_last {c : Char} (hc : isMark c = true)
    (hb : ∀ b ∈ bs, isSpace b = true) : Writes (bs ++ [c]) [.mark c] :=
  (writes_mark hc .nil).blanks_append hb

include hb

/-- An item after a comma, and the items after it. -/
lemma writes_laterItem {x : Json} {xs : List Json} (hx : Writes cv x.tokens)
    (hxs : Writes cs (laterItemTokens xs)) (hd : NoDigit cs) :
    Writes (',' :: (bs ++ (cv ++ cs))) (laterItemTokens (x :: xs)) :=
  writes_mark (by decide) ((hx.append hxs hd).blanks_append hb)

/-- The name of a member and what follows it. -/
lemma writes_name (k : String) {ts : List Token} (h : Writes cs ts) :
    Writes (quoted k.toList ++ ':' :: (bs ++ cs))
      (.text k :: .mark ':' :: ts) :=
  Writes.token_cons (t := .text k) trivial rfl
    (writes_mark (by decide) (h.blanks_append hb))

include hb'

/-- A member after a comma, and the members after it. -/
lemma writes_laterMember {m : String × Json} {ms : List (String × Json)}
    (hm : Writes cv m.2.tokens) (hms : Writes cs (laterMemberTokens ms))
    (hd : NoDigit cs) :
    Writes (',' :: (bs ++ (quoted m.1.toList ++ ':' :: (bs' ++ (cv ++ cs)))))
      (laterMemberTokens (m :: ms)) :=
  writes_mark (by decide)
    ((writes_name hb' m.1 (hm.append hms hd)).blanks_append hb)

/-- An array with an item at least. -/
lemma writes_array {x : Json} {xs : List Json} (hx : Writes cv x.tokens)
    (hxs : Writes cs (laterItemTokens xs)) (hd : NoDigit cs)
    (hd' : NoDigit (bs' ++ [']'])) :
    Writes ('[' :: (bs ++ (cv ++ (cs ++ (bs' ++ [']'])))))
      (array (x :: xs)).tokens := by
  have hclose := writes_last (c := ']') (by decide) hb'
  have hitems := (hx.append (hxs.append hclose hd') (hd.append hd'))
  rw [tokens, itemTokens, List.cons_append, List.append_assoc]
  exact writes_mark (by decide) (hitems.blanks_append hb)

/-- An object with a member at least. -/
lemma writes_object {bs'' : List Char} (hb'' : ∀ b ∈ bs'', isSpace b = true)
    {m : String × Json} {ms : List (String × Json)}
    (hm : Writes cv m.2.tokens) (hms : Writes cs (laterMemberTokens ms))
    (hd : NoDigit cs) (hd' : NoDigit (bs'' ++ ['\x7d'])) :
    Writes ('\x7b' :: (bs ++ (quoted m.1.toList ++
        ':' :: (bs' ++ (cv ++ (cs ++ (bs'' ++ ['\x7d'])))))))
      (object (m :: ms)).tokens := by
  have hclose := writes_last (c := '\x7d') (by decide) hb''
  have hvalue := hm.append (hms.append hclose hd') (hd.append hd')
  rw [tokens, memberTokens, List.cons_append, List.append_assoc,
    List.cons_append, List.cons_append]
  exact writes_mark (by decide)
    ((writes_name hb' m.1 hvalue).blanks_append hb)

end Layout

/-- A simple value is written by its one token. -/
lemma writes_simple (t : Token) (ht : t.IsProper)
    (hnum : t.isNumber = false) : Writes t.spell [t] := by
  have h := Writes.token_cons ht hnum .nil
  rwa [List.append_nil] at h

/-! ### Compact texts -/

/-- The text of tokens one right after another. -/
def spelled (ts : List Token) : List Char :=
  ts.flatMap Token.spell

lemma spelled_laterItemTokens (x : Json) (xs : List Json) :
    spelled (laterItemTokens (x :: xs)) =
      ',' :: (x.compactChars ++ spelled (laterItemTokens xs)) := by
  simp [spelled, laterItemTokens, compactChars, Token.spell]

lemma spelled_laterMemberTokens (m : String × Json)
    (ms : List (String × Json)) :
    spelled (laterMemberTokens (m :: ms)) =
      ',' :: (quoted m.1.toList ++
        ':' :: (m.2.compactChars ++ spelled (laterMemberTokens ms))) := by
  simp [spelled, laterMemberTokens, compactChars, Token.spell]

lemma compactChars_array (x : Json) (xs : List Json) :
    (array (x :: xs)).compactChars =
      '[' :: (x.compactChars ++ (spelled (laterItemTokens xs) ++ [']'])) := by
  simp [spelled, tokens, itemTokens, compactChars, Token.spell]

lemma compactChars_object (m : String × Json) (ms : List (String × Json)) :
    (object (m :: ms)).compactChars =
      '\x7b' :: (quoted m.1.toList ++ ':' :: (m.2.compactChars ++
        (spelled (laterMemberTokens ms) ++ ['\x7d']))) := by
  simp [spelled, tokens, memberTokens, compactChars, Token.spell]

/-- What comes after an item does not start with a digit. -/
lemma noDigit_laterItemTokens (xs : List Json) :
    NoDigit (spelled (laterItemTokens xs)) := by
  cases xs with
  | nil => exact noDigit_nil
  | cons x xs => exact noDigit_cons (by decide) _

@[inherit_doc noDigit_laterItemTokens]
lemma noDigit_laterMemberTokens (ms : List (String × Json)) :
    NoDigit (spelled (laterMemberTokens ms)) := by
  cases ms with
  | nil => exact noDigit_nil
  | cons m ms => exact noDigit_cons (by decide) _

/-- No blanks are blanks. -/
private lemma isSpace_of_mem_nil : ∀ b ∈ ([] : List Char), isSpace b = true :=
  fun _ h => absurd h List.not_mem_nil

lemma writes_laterItemTokens {xs : List Json}
    (h : ∀ x ∈ xs, Writes x.compactChars x.tokens) :
    Writes (spelled (laterItemTokens xs)) (laterItemTokens xs) := by
  induction xs with
  | nil => exact .nil
  | cons x xs ih =>
      have hxs := ih fun y hy => h y (List.mem_cons_of_mem x hy)
      rw [spelled_laterItemTokens]
      exact writes_laterItem isSpace_of_mem_nil
        (h x List.mem_cons_self) hxs (noDigit_laterItemTokens xs)

lemma writes_laterMemberTokens {ms : List (String × Json)}
    (h : ∀ m ∈ ms, Writes m.2.compactChars m.2.tokens) :
    Writes (spelled (laterMemberTokens ms)) (laterMemberTokens ms) := by
  induction ms with
  | nil => exact .nil
  | cons m ms ih =>
      have hms := ih fun n hn => h n (List.mem_cons_of_mem m hn)
      rw [spelled_laterMemberTokens]
      exact writes_laterMember isSpace_of_mem_nil isSpace_of_mem_nil
        (h m List.mem_cons_self) hms (noDigit_laterMemberTokens ms)

/-- The compact text of a value writes its tokens. -/
theorem writes_compact (j : Json) : Writes j.compactChars j.tokens := by
  induction j using ind with
  | null => exact writes_simple .null trivial rfl
  | bool b =>
      rw [compactChars, tokens, List.flatMap_singleton]
      exact writes_simple (.bool b) trivial rfl
  | number n =>
      rw [compactChars, tokens, List.flatMap_singleton]
      exact .number n
  | text s =>
      rw [compactChars, tokens, List.flatMap_singleton]
      exact writes_simple (.text s) trivial rfl
  | array xs ih =>
      cases xs with
      | nil => exact writes_mark (by decide) (writes_mark (by decide) .nil)
      | cons x xs =>
          have hxs := writes_laterItemTokens
            fun y hy => ih y (List.mem_cons_of_mem x hy)
          rw [compactChars_array]
          exact writes_array isSpace_of_mem_nil isSpace_of_mem_nil
            (ih x List.mem_cons_self) hxs (noDigit_laterItemTokens xs)
            (noDigit_cons (by decide) _)
  | object ms ih =>
      cases ms with
      | nil => exact writes_mark (by decide) (writes_mark (by decide) .nil)
      | cons m ms =>
          have hms := writes_laterMemberTokens
            fun n hn => ih n (List.mem_cons_of_mem m hn)
          rw [compactChars_object]
          exact writes_object isSpace_of_mem_nil isSpace_of_mem_nil
            isSpace_of_mem_nil (ih m List.mem_cons_self) hms
            (noDigit_laterMemberTokens ms) (noDigit_cons (by decide) _)

/-- A value is read back from its compact text. -/
theorem read?_compact (j : Json) : read? j.compactChars = some j := by
  rw [read?, tokenize_of_writes (writes_compact j), Option.bind_some,
    ofTokens?_tokens]

/-! ### Indented texts -/

lemma isSpace_of_mem_newLine (level : Nat) :
    ∀ b ∈ newLine level, isSpace b = true := by
  intro b hb
  rcases List.mem_cons.1 hb with rfl | hb
  · decide
  · rw [List.eq_of_mem_replicate hb]
    decide

lemma noDigit_newLine (level : Nat) (cs : List Char) :
    NoDigit (newLine level ++ cs) :=
  noDigit_cons (by decide) _

/-- What comes after an item does not start with a digit. -/
lemma noDigit_laterItemLines (level : Nat) (xs : List Json) :
    NoDigit (laterItemLines level xs) := by
  cases xs with
  | nil => exact noDigit_nil
  | cons x xs => exact noDigit_cons (by decide) _

@[inherit_doc noDigit_laterItemLines]
lemma noDigit_laterMemberLines (level : Nat) (ms : List (String × Json)) :
    NoDigit (laterMemberLines level ms) := by
  cases ms with
  | nil => exact noDigit_nil
  | cons m ms => exact noDigit_cons (by decide) _

lemma writes_laterItemLines (level : Nat) {xs : List Json}
    (h : ∀ x ∈ xs, Writes (x.indentedChars level) x.tokens) :
    Writes (laterItemLines level xs) (laterItemTokens xs) := by
  induction xs with
  | nil => exact .nil
  | cons x xs ih =>
      have hxs := ih fun y hy => h y (List.mem_cons_of_mem x hy)
      rw [laterItemLines, List.append_assoc]
      exact writes_laterItem (isSpace_of_mem_newLine level)
        (h x List.mem_cons_self) hxs (noDigit_laterItemLines level xs)

/-- One blank. -/
private lemma isSpace_of_mem_blank : ∀ b ∈ [' '], isSpace b = true := by
  intro b hb
  rw [List.mem_singleton.1 hb]
  decide

lemma writes_laterMemberLines (level : Nat) {ms : List (String × Json)}
    (h : ∀ m ∈ ms, Writes (m.2.indentedChars level) m.2.tokens) :
    Writes (laterMemberLines level ms) (laterMemberTokens ms) := by
  induction ms with
  | nil => exact .nil
  | cons m ms ih =>
      have hms := ih fun n hn => h n (List.mem_cons_of_mem m hn)
      have hlater := writes_laterMember (isSpace_of_mem_newLine level)
        isSpace_of_mem_blank (h m List.mem_cons_self) hms
        (noDigit_laterMemberLines level ms)
      simpa [laterMemberLines] using hlater

/-- The indented text of a value writes its tokens, whatever the level. -/
theorem writes_indented (j : Json) (level : Nat) :
    Writes (j.indentedChars level) j.tokens := by
  induction j using ind generalizing level with
  | null => exact writes_compact .null
  | bool b => exact writes_compact (.bool b)
  | number n => exact writes_compact (.number n)
  | text s => exact writes_compact (.text s)
  | array xs ih =>
      cases xs with
      | nil => exact writes_mark (by decide) (writes_mark (by decide) .nil)
      | cons x xs =>
          have hxs := writes_laterItemLines (level + 1)
            fun y hy => ih y (List.mem_cons_of_mem x hy) (level + 1)
          have harray := writes_array (isSpace_of_mem_newLine (level + 1))
            (isSpace_of_mem_newLine level)
            (ih x List.mem_cons_self (level + 1)) hxs
            (noDigit_laterItemLines _ xs) (noDigit_newLine level _)
          simpa [indentedChars] using harray
  | object ms ih =>
      cases ms with
      | nil => exact writes_mark (by decide) (writes_mark (by decide) .nil)
      | cons m ms =>
          have hms := writes_laterMemberLines (level + 1)
            fun n hn => ih n (List.mem_cons_of_mem m hn) (level + 1)
          have hobject := writes_object (isSpace_of_mem_newLine (level + 1))
            isSpace_of_mem_blank (isSpace_of_mem_newLine level)
            (ih m List.mem_cons_self (level + 1)) hms
            (noDigit_laterMemberLines _ ms) (noDigit_newLine level _)
          simpa [indentedChars] using hobject

/-- A value is read back from its indented text. -/
theorem read?_indented (j : Json) (level : Nat) :
    read? (j.indentedChars level) = some j := by
  rw [read?, tokenize_of_writes (writes_indented j level), Option.bind_some,
    ofTokens?_tokens]

/-! ### Compact texts are lines -/

lemma not_control_digitChar {d : Nat} (h : d < 16) :
    0x20 ≤ (Nat.digitChar d).toNat := by
  have hall : ∀ d < 16, 0x20 ≤ (Nat.digitChar d).toNat := by decide
  exact hall d h

lemma not_control_of_all {cs : List Char}
    (h : cs.all (fun c => 0x20 ≤ c.toNat) = true) {c : Char} (hc : c ∈ cs) :
    0x20 ≤ c.toNat :=
  of_decide_eq_true (List.all_eq_true.1 h c hc)

/-- Control characters do not stand in strings as they are. -/
lemma not_control_escape {c d : Char} (h : d ∈ escape c) :
    0x20 ≤ d.toNat := by
  rcases shortEscapes_find? c with ⟨hnone, -⟩ | ⟨e, he, -, hsome⟩
  · rw [escape, hnone] at h
    dsimp only at h
    split at h
    · rcases List.mem_cons.1 h with rfl | h
      · decide
      rcases List.mem_cons.1 h with rfl | h
      · decide
      rw [Text.hexadecimal, List.mem_map] at h
      obtain ⟨i, -, rfl⟩ := h
      exact not_control_digitChar (Nat.mod_lt _ (by decide))
    · rename_i hctl
      rw [List.mem_singleton.1 h]
      exact Nat.not_lt.1 hctl
  · rw [escape, hsome] at h
    have hletters : e.1 ∈ shortEscapes.map (·.1) := List.mem_map_of_mem he
    rcases List.mem_cons.1 h with rfl | h
    · decide
    · rw [List.mem_singleton.1 h]
      exact not_control_of_all (by decide) hletters

/-- Nor do they stand anywhere else in a token. -/
lemma not_control_spell {t : Token} (ht : t.IsProper) {c : Char}
    (h : c ∈ t.spell) : 0x20 ≤ c.toNat := by
  cases t with
  | mark m =>
      have hm : isMark m = true := ht
      rw [List.mem_singleton.1 h]
      rw [isMark, decide_eq_true_eq] at hm
      exact not_control_of_all (by decide) hm
  | text s =>
      rw [Token.spell, quoted, List.mem_cons, List.mem_append,
        List.mem_flatMap, List.mem_singleton] at h
      rcases h with rfl | ⟨d, -, h⟩ | rfl
      · decide
      · exact not_control_escape h
      · decide
  | number n =>
      have hdigit := Text.toNat_of_isDigit (Text.isDigit_of_mem_decimal h)
      exact Nat.le_trans (by decide) hdigit.1
  | bool b => cases b <;> exact not_control_of_all (by decide) h
  | null => exact not_control_of_all (by decide) h

/-- There are no control characters in the compact text of a value. -/
theorem not_control_compact {j : Json} {c : Char} (h : c ∈ j.compactChars) :
    0x20 ≤ c.toNat := by
  rw [compactChars, List.mem_flatMap] at h
  obtain ⟨t, ht, hc⟩ := h
  have hproper := (writes_compact j).spelling.isProper t ht
  exact not_control_spell hproper hc

end BitProbe.Json

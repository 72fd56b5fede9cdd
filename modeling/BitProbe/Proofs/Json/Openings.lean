import BitProbe.Proofs.Json.Values

/-!
Texts by how they begin.

What a text begins with is cut into tokens before the rest is looked at, and
the members and items that have been read are not changed by what follows. So
if a text begins with some members of an object and the name of another one,
and can be read at all, then the object has these members.

* `Json.Spelling.isPrefix_tokenizeWith`: the first tokens of a text;
* `Json.objectOpening`, `Json.arrayOpening`: how objects and arrays begin;
* `Json.opens_object`, `Json.opens_array`: what is read after such a beginning;
* `Json.read?_opening`: the same for texts.
-/

namespace BitProbe.Json

/-! ### Tokens -/

lemma NoDigit.append_of_ne_nil {cs : List Char} (h : NoDigit cs) (hne : cs ≠ [])
    (ds : List Char) : NoDigit (cs ++ ds) := by
  cases cs with
  | nil => exact absurd rfl hne
  | cons c cs => exact noDigit_cons (h c rfl) _

/-- A text that begins with tokens of which the last is no number is cut into
these tokens first. -/
lemma Spelling.isPrefix_tokenizeWith {head : List Char} {ts : List Token}
    (h : Spelling head ts)
    (hlast : ∀ t, ts.getLast? = some t → t.isNumber = false)
    (rest : List Char) {fuel : Nat} {us : List Token}
    (hus : Json.tokenizeWith fuel (head ++ rest) = some us) : ts <+: us := by
  induction h generalizing fuel us with
  | blanks => exact List.nil_prefix
  | @token bs t tail ts hb ht hnum h ih =>
      obtain ⟨c, ds, hspell, hc⟩ := spell_eq_cons ht
      have hdrop : (bs ++ (t.spell ++ tail) ++ rest).dropWhile isSpace =
          t.spell ++ (tail ++ rest) := by
        rw [List.append_assoc, List.append_assoc,
          List.dropWhile_append_of_pos hb, hspell, List.cons_append,
          List.dropWhile_cons_of_neg (by simp [hc])]
      have hnum' : t.isNumber = true → NoDigit (tail ++ rest) := by
        intro hn
        refine (hnum hn).append_of_ne_nil ?_ rest
        rintro rfl
        have hnil : ts = [] := by
          have hle := h.length_le
          simpa using hle
        rw [hlast t (by rw [hnil]; rfl)] at hn
        cases hn
      have hne : (t.spell ++ (tail ++ rest)).isEmpty = false := by
        rw [hspell]
        rfl
      cases fuel with
      | zero =>
          rw [Json.tokenizeWith, hdrop, hne] at hus
          cases hus
      | succ fuel =>
          rw [Json.tokenizeWith, hdrop, hne, readToken_spell ht hnum'] at hus
          obtain ⟨vs, hvs, rfl⟩ := Option.map_eq_some_iff.1 hus
          refine (List.prefix_cons_inj t).2 (ih (fun u hu => ?_) hvs)
          cases ts with
          | nil => cases hu
          | cons v ts => exact hlast u hu

/-! ### Members and items -/

/-- The tokens of members that another one comes after. -/
def membersBefore (ms : List (String × Json)) : List Token :=
  ms.flatMap fun m => .text m.1 :: .mark ':' :: (m.2.tokens ++ [.mark ','])

/-- The tokens of items that another one comes after. -/
def itemsBefore (xs : List Json) : List Token :=
  xs.flatMap fun x => x.tokens ++ [.mark ',']

/-- How an object begins, up to the value of a member. -/
def objectOpening (ms : List (String × Json)) (name : String) : List Token :=
  .mark '\x7b' :: (membersBefore ms ++ [.text name, .mark ':'])

/-- How an array begins, up to an item. -/
def arrayOpening (xs : List Json) : List Token :=
  .mark '[' :: itemsBefore xs

lemma membersBefore_cons (m : String × Json) (ms : List (String × Json)) :
    membersBefore (m :: ms) =
      .text m.1 :: .mark ':' :: (m.2.tokens ++ .mark ',' :: membersBefore ms) := by
  simp [membersBefore]

lemma itemsBefore_cons (x : Json) (xs : List Json) :
    itemsBefore (x :: xs) = x.tokens ++ .mark ',' :: itemsBefore xs := by
  simp [itemsBefore]

lemma length_le_membersBefore (ms : List (String × Json)) :
    ms.length ≤ (membersBefore ms).length := by
  induction ms with
  | nil => exact Nat.le_refl 0
  | cons m ms ih =>
      simp only [membersBefore_cons, List.length_cons, List.length_append]
      omega

lemma length_le_itemsBefore (xs : List Json) :
    xs.length ≤ (itemsBefore xs).length := by
  induction xs with
  | nil => exact Nat.le_refl 0
  | cons x xs ih =>
      simp only [itemsBefore_cons, List.length_cons, List.length_append]
      omega

/-- Members that another one comes after are read first. -/
lemma readMembers_membersBefore (ms : List (String × Json)) (fuel : Nat)
    (ts : List Token) (hf : 2 * (membersBefore ms).length ≤ fuel) :
    readMembers fuel (membersBefore ms ++ ts) =
      (readMembers (fuel - ms.length) ts).map fun r => (ms ++ r.1, r.2) := by
  induction ms generalizing fuel with
  | nil => cases h : readMembers fuel ts <;> simp [membersBefore, h]
  | cons m ms ih =>
      rw [membersBefore_cons] at hf ⊢
      simp only [List.length_cons, List.length_append] at hf
      cases fuel with
      | zero => omega
      | succ fuel =>
          rw [List.cons_append, List.cons_append, List.append_assoc,
            readMembers, readsBack m.2 fuel _ (by omega), List.cons_append]
          change Option.map _ (readMembers fuel _) = _
          rw [ih fuel (by omega), Option.map_map, List.length_cons,
            Nat.add_sub_add_right]
          rfl

/-- Items that another one comes after are read first. -/
lemma readItems_itemsBefore (xs : List Json) (fuel : Nat) (ts : List Token)
    (hf : 2 * (itemsBefore xs).length ≤ fuel) :
    readItems fuel (itemsBefore xs ++ ts) =
      (readItems (fuel - xs.length) ts).map fun r => (xs ++ r.1, r.2) := by
  induction xs generalizing fuel with
  | nil => cases h : readItems fuel ts <;> simp [itemsBefore, h]
  | cons x xs ih =>
      rw [itemsBefore_cons] at hf ⊢
      simp only [List.length_cons, List.length_append] at hf
      cases fuel with
      | zero => omega
      | succ fuel =>
          rw [List.append_assoc, readItems, readsBack x fuel _ (by omega),
            List.cons_append]
          change Option.map _ (readItems fuel _) = _
          rw [ih fuel (by omega), Option.map_map, List.length_cons,
            Nat.add_sub_add_right]
          rfl

/-- The first item that is read. -/
lemma exists_of_readItems {fuel : Nat} {ts : List Token}
    {r : List Json × List Token} (h : readItems fuel ts = some r) :
    ∃ k x rest later, fuel = k + 1 ∧ readValue k ts = some (x, rest) ∧
      r.1 = x :: later := by
  cases fuel with
  | zero => cases h
  | succ k =>
      rw [readItems] at h
      split at h
      · next x ts' hx =>
          obtain ⟨r', -, rfl⟩ := Option.map_eq_some_iff.1 h
          exact ⟨k, x, _, r'.1, rfl, hx, rfl⟩
      · next x ts' hx =>
          cases h
          exact ⟨k, x, _, [], rfl, hx, rfl⟩
      · cases h

/-- The first member that is read. -/
lemma exists_of_readMembers {fuel : Nat} {name : String} {ts : List Token}
    {r : List (String × Json) × List Token}
    (h : readMembers fuel (.text name :: .mark ':' :: ts) = some r) :
    ∃ k v rest later, fuel = k + 1 ∧ readValue k ts = some (v, rest) ∧
      r.1 = (name, v) :: later := by
  cases fuel with
  | zero => cases h
  | succ k =>
      rw [readMembers] at h
      split at h
      · next v ts' hv =>
          obtain ⟨r', -, rfl⟩ := Option.map_eq_some_iff.1 h
          exact ⟨k, v, _, r'.1, rfl, hv, rfl⟩
      · next v ts' hv =>
          cases h
          exact ⟨k, v, _, [], rfl, hv, rfl⟩
      · cases h

/-- After the beginning of an object comes the value of the member that it
ends with. -/
theorem opens_object {ms : List (String × Json)} {name : String} {fuel : Nat}
    {ts rest : List Token} {j : Json}
    (hf : 2 * (objectOpening ms name).length ≤ fuel + 1)
    (h : readValue fuel (objectOpening ms name ++ ts) = some (j, rest)) :
    ∃ k v rest' later, j = .object (ms ++ (name, v) :: later) ∧
      readValue k ts = some (v, rest') ∧
      fuel ≤ k + (objectOpening ms name).length := by
  have hlen : (objectOpening ms name).length = (membersBefore ms).length + 3 := by
    simp [objectOpening]
  have hle := length_le_membersBefore ms
  cases fuel with
  | zero => cases h
  | succ fuel =>
      have hmembers : readValue (fuel + 1) (objectOpening ms name ++ ts) =
          (readMembers fuel (membersBefore ms ++
            .text name :: .mark ':' :: ts)).map
              fun r => (.object r.1, r.2) := by
        have hopen : objectOpening ms name ++ ts = .mark '{' ::
            (membersBefore ms ++ .text name :: .mark ':' :: ts) := by
          simp [objectOpening]
        rw [hopen]
        cases ms <;> rfl
      rw [hmembers, readMembers_membersBefore ms _ _ (by omega),
        Option.map_map] at h
      obtain ⟨r, hr, heq⟩ := Option.map_eq_some_iff.1 h
      obtain ⟨k, v, rest', later, hk, hv, hlater⟩ := exists_of_readMembers hr
      cases heq
      exact ⟨k, v, rest', later,
        congrArg (fun l => object (ms ++ l)) hlater, hv, by omega⟩

/-- After the beginning of an array comes the next item. -/
theorem opens_array {xs : List Json} {fuel : Nat} {ts rest : List Token}
    {j : Json} (hts : ts.head? ≠ some (.mark ']'))
    (hf : 2 * (arrayOpening xs).length ≤ fuel + 1)
    (h : readValue fuel (arrayOpening xs ++ ts) = some (j, rest)) :
    ∃ k x rest' later, j = .array (xs ++ x :: later) ∧
      readValue k ts = some (x, rest') ∧
      fuel ≤ k + (arrayOpening xs).length + 1 := by
  have hlen : (arrayOpening xs).length = (itemsBefore xs).length + 1 := rfl
  have hle := length_le_itemsBefore xs
  cases fuel with
  | zero => cases h
  | succ fuel =>
      have hitems : readValue (fuel + 1) (arrayOpening xs ++ ts) =
          (readItems fuel (itemsBefore xs ++ ts)).map
            fun r => (.array r.1, r.2) := by
        rw [arrayOpening, List.cons_append, readValue]
        intro us hus
        cases xs with
        | nil => exact hts (by rw [show ts = _ from hus]; rfl)
        | cons x xs =>
            obtain ⟨t, ts', ht, hne⟩ := tokens_eq_cons x
            simp [itemsBefore, ht, hne] at hus
      rw [hitems, readItems_itemsBefore xs _ _ (by omega), Option.map_map] at h
      obtain ⟨r, hr, heq⟩ := Option.map_eq_some_iff.1 h
      obtain ⟨k, x, rest', later, hk, hx, hlater⟩ := exists_of_readItems hr
      cases heq
      exact ⟨k, x, rest', later,
        congrArg (fun l => array (xs ++ l)) hlater, hx, by omega⟩

/-! ### Texts -/

/-- A text that can be read is read from the tokens that it begins with. -/
lemma exists_readValue_of_read? {head rest : List Char} {ts : List Token}
    {j : Json} (h : Spelling head ts)
    (hlast : ∀ t, ts.getLast? = some t → t.isNumber = false)
    (hj : read? (head ++ rest) = some j) :
    ∃ us, readValue (2 * (ts ++ us).length) (ts ++ us) = some (j, []) := by
  obtain ⟨all, hall, hof⟩ := Option.bind_eq_some_iff.1 hj
  obtain ⟨us, rfl⟩ := h.isPrefix_tokenizeWith hlast rest hall
  rw [ofTokens?] at hof
  split at hof
  · next j' hread =>
      cases hof
      exact ⟨us, hread⟩
  · cases hof

/-- The beginning of an object ends with a colon. -/
lemma isNumber_of_getLast?_objectOpening {before : List Token}
    {ms : List (String × Json)} {name : String} {t : Token}
    (h : (before ++ objectOpening ms name).getLast? = some t) :
    t.isNumber = false := by
  have hsplit : before ++ objectOpening ms name =
      (before ++ .mark '\x7b' :: (membersBefore ms ++ [.text name])) ++
        [.mark ':'] := by
    simp [objectOpening]
  rw [hsplit, List.getLast?_concat] at h
  cases h
  rfl

/-- An object that begins with some members and a name has these members and
one of this name after them. -/
theorem read?_objectOpening {head rest : List Char}
    {ms : List (String × Json)} {name : String} {j : Json}
    (h : Spelling head (objectOpening ms name))
    (hj : read? (head ++ rest) = some j) :
    ∃ v later, j = .object (ms ++ (name, v) :: later) := by
  obtain ⟨us, hread⟩ := exists_readValue_of_read? h
    (fun _ ht => isNumber_of_getLast?_objectOpening
      (List.nil_append (objectOpening ms name) ▸ ht)) hj
  obtain ⟨k, v, rest', later, hj', -, -⟩ := opens_object (by
    rw [List.length_append]
    omega) hread
  exact ⟨v, later, hj'⟩

/-- The same for an object in an array that is the value of a member. -/
theorem read?_nestedOpening {head rest : List Char}
    {ms ns : List (String × Json)} {xs : List Json} {name inner : String}
    {j : Json}
    (h : Spelling head
      (objectOpening ms name ++ (arrayOpening xs ++ objectOpening ns inner)))
    (hj : read? (head ++ rest) = some j) :
    ∃ v others items later,
      j = .object (ms ++ (name,
        .array (xs ++ .object (ns ++ (inner, v) :: others) :: items)) ::
          later) := by
  obtain ⟨us, hread⟩ := exists_readValue_of_read? h
    (fun _ ht => isNumber_of_getLast?_objectOpening
      (List.append_assoc _ _ (objectOpening ns inner) ▸ ht)) hj
  simp only [List.append_assoc, List.length_append] at hread
  obtain ⟨k, v, rest', later, rfl, harray, hk⟩ := opens_object (by omega) hread
  obtain ⟨k', x, rest'', items, rfl, hobject, hk'⟩ :=
    opens_array (by simp [objectOpening]) (by omega) harray
  obtain ⟨-, v', -, others, rfl, -, -⟩ := opens_object (by omega) hobject
  exact ⟨v', others, items, later, rfl⟩

end BitProbe.Json

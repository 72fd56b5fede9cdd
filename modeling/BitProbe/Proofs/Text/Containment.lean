import BitProbe.Proofs.Text.Pieces
import BitProbe.Proofs.Text.Trimming
import BitProbe.Text.Case

/-!
Words inside texts.

A word without separators that is inside a text is inside one of its pieces,
and stays there when what ends the piece or surrounds it is cut off. In lower
case a text holds what it holds in some letter case: there are characters
outside ASCII with lower-case forms in ASCII, but these are no others than
`i` and `k`.

* `Text.isInfix_append_cons_cases`: a separator has a word on one side;
* `Text.exists_pieces_isInfix_iff`, `Text.exists_lines_isInfix_iff`: words
  inside pieces and inside lines;
* `Text.isInfix_trim_iff`: words inside trimmed texts;
* `Text.PlainLower`: the letters that only ASCII has letters for;
* `Text.HoldsInSomeCase`: words inside texts in some letter case;
* `Text.holdsInSomeCase_iff`: these are what the lower-case form holds.
-/

namespace BitProbe.Text

/-! ### Inside lists -/

section Lists

variable {α : Type} {w p xs : List α} {sep : α}

/-- A word at the beginning ends before a separator that it does not hold. -/
lemma prefix_of_prefix_append_cons (hw : sep ∉ w) (h : w <+: p ++ sep :: xs) :
    w <+: p := by
  rcases List.prefix_or_prefix_of_prefix h (List.prefix_append p (sep :: xs))
    with hwp | ⟨v, rfl⟩
  · exact hwp
  · have hv : v <+: sep :: xs := (List.prefix_append_right_inj p).1 h
    rcases List.prefix_cons_iff.1 hv with rfl | ⟨t, rfl, -⟩
    · exact (List.append_nil p).symm ▸ List.prefix_rfl
    · exact absurd (by simp) hw

/-- A word is on one side of a separator that it does not hold. -/
lemma isInfix_append_cons_cases (hw : sep ∉ w) (h : w <:+: p ++ sep :: xs) :
    w <:+: p ∨ w <:+: xs := by
  induction p with
  | nil =>
      rcases List.infix_cons_iff.1 h with h | h
      · exact .inl (prefix_of_prefix_append_cons (p := []) hw h).isInfix
      · exact .inr h
  | cons a p ih =>
      rcases List.infix_cons_iff.1 h with h | h
      · have hp : w <+: a :: p := prefix_of_prefix_append_cons hw h
        exact .inl hp.isInfix
      · exact (ih h).imp_left List.infix_cons

/-- A word reaches into nothing before a text that it shares nothing with. -/
lemma isInfix_of_append_left (hp : ∀ a ∈ p, a ∉ w) (h : w <:+: p ++ xs) :
    w <:+: xs := by
  induction p with
  | nil => exact h
  | cons a p ih =>
      rw [List.forall_mem_cons] at hp
      rcases isInfix_append_cons_cases (p := []) hp.1 h with h | h
      · rw [List.infix_nil.1 h]
        exact List.nil_infix
      · exact ih hp.2 h

/-- Nor after it. -/
lemma isInfix_of_append_right (hp : ∀ a ∈ p, a ∉ w) (h : w <:+: xs ++ p) :
    w <:+: xs := by
  rw [← List.reverse_infix] at h ⊢
  rw [List.reverse_append] at h
  exact isInfix_of_append_left (by simpa using hp) h

variable {β : Type} {f : α → List β} {g : α → β} {v : List β}

/-- Where a word comes from if each of its elements can only come from one
that becomes this element alone: from the beginning, if it is there. -/
lemma exists_prefix_of_prefix_flatMap (hf : ∀ a, f a ≠ [])
    (hv : ∀ x ∈ v, ∀ a, x ∈ f a → f a = [x] ∧ g a = x)
    (h : v <+: xs.flatMap f) : ∃ u, u <+: xs ∧ u.map g = v := by
  induction v generalizing xs with
  | nil => exact ⟨[], List.nil_prefix, rfl⟩
  | cons x v ih =>
      rw [List.forall_mem_cons] at hv
      cases xs with
      | nil => exact absurd (List.prefix_nil.1 h) (List.cons_ne_nil x v)
      | cons a xs =>
          rw [List.flatMap_cons] at h
          obtain ⟨y, ys, hy⟩ := List.exists_cons_of_ne_nil (hf a)
          rw [hy, List.cons_append, List.cons_prefix_cons] at h
          obtain ⟨rfl, h⟩ := h
          obtain ⟨hfa, hga⟩ := hv.1 a (hy ▸ List.mem_cons_self)
          obtain rfl : ys = [] := by simpa [hy] using hfa
          obtain ⟨u, hu, hmap⟩ := ih hv.2 h
          exact ⟨a :: u, List.cons_prefix_cons.2 ⟨rfl, hu⟩, by simp [hga, hmap]⟩

/-- From the inside, if it is inside. -/
lemma exists_isInfix_of_isInfix_flatMap (hf : ∀ a, f a ≠ [])
    (hv : ∀ x ∈ v, ∀ a, x ∈ f a → f a = [x] ∧ g a = x)
    (h : v <:+: xs.flatMap f) : ∃ u, u <:+: xs ∧ u.map g = v := by
  induction xs with
  | nil =>
      obtain rfl := List.infix_nil.1 h
      exact ⟨[], List.nil_infix, rfl⟩
  | cons a xs ih =>
      by_cases hshared : ∃ x ∈ f a, x ∈ v
      · -- what the first element becomes is one element of the word
        obtain ⟨x, hxa, hxv⟩ := hshared
        have h' := h
        rw [List.flatMap_cons, (hv x hxv a hxa).1, List.singleton_append] at h'
        rcases List.infix_cons_iff.1 h' with hpre | hrest
        · have hpre' : v <+: (a :: xs).flatMap f := by
            rw [List.flatMap_cons, (hv x hxv a hxa).1]
            exact hpre
          obtain ⟨u, hu, hmap⟩ := exists_prefix_of_prefix_flatMap hf hv hpre'
          exact ⟨u, hu.isInfix, hmap⟩
        · obtain ⟨u, hu, hmap⟩ := ih hrest
          exact ⟨u, List.infix_cons hu, hmap⟩
      · have hnot : ∀ x ∈ f a, x ∉ v := fun x hxa hxv => hshared ⟨x, hxa, hxv⟩
        obtain ⟨u, hu, hmap⟩ := ih (isInfix_of_append_left hnot h)
        exact ⟨u, List.infix_cons hu, hmap⟩

end Lists

/-! ### Inside pieces and lines -/

/-- A word is inside a list exactly if it is inside one of its pieces. -/
lemma exists_pieces_isInfix_iff {α : Type} [DecidableEq α] {sep : α}
    {w : List α} (hne : w ≠ []) (hw : sep ∉ w) (xs : List α) :
    (∃ p ∈ pieces sep xs, w <:+: p) ↔ w <:+: xs := by
  constructor
  · rintro ⟨p, hp, hwp⟩
    exact hwp.trans (isInfix_of_mem_pieces hp)
  · have hended := endedBy_pieces sep xs
    generalize pieces sep xs = ps at hended
    induction hended with
    | nil => exact fun h => absurd (List.infix_nil.1 h) hne
    | last _ _ => exact fun h => ⟨_, List.mem_singleton_self _, h⟩
    | cons _ _ ih =>
        intro h
        rcases isInfix_append_cons_cases hw h with h | h
        · exact ⟨_, List.mem_cons_self, h⟩
        · obtain ⟨p, hp, hwp⟩ := ih h
          exact ⟨p, List.mem_cons_of_mem _ hp, hwp⟩

/-- Nothing is lost with what ends a line. -/
lemma isInfix_chomp_iff {α : Type} [DecidableEq α] {cr : α} {w : List α}
    (hw : cr ∉ w) (l : List α) : w <:+: chomp cr l ↔ w <:+: l := by
  refine ⟨fun h => h.trans (isInfix_chomp cr l), fun h => ?_⟩
  unfold chomp
  split
  · rename_i hlast
    have hcut : l = l.dropLast ++ [cr] :=
      (List.dropLast_append_getLast? cr hlast).symm
    rw [hcut] at h
    exact isInfix_of_append_right (by simpa using hw) h
  · exact h

/-- A word without line ends is inside a text exactly if it is inside one of
its lines. -/
theorem exists_lines_isInfix_iff {w : List Char} (hne : w ≠ [])
    (hlf : '\n' ∉ w) (hcr : '\r' ∉ w) (cs : List Char) :
    (∃ line ∈ lines cs, w <:+: line) ↔ w <:+: cs := by
  rw [← exists_pieces_isInfix_iff hne hlf cs]
  simp only [lines, List.mem_map, exists_exists_and_eq_and,
    isInfix_chomp_iff hcr]

/-- A word without blanks is inside a text exactly if it is there without the
blanks at the ends of the text. -/
theorem isInfix_trim_iff {w : List Char} (hw : ∀ c ∈ w, isBlank c = false)
    (cs : List Char) : w <:+: trim cs ↔ w <:+: cs := by
  obtain ⟨before, after, hcut, hbefore, hafter⟩ :=
    (trim_eq_iff.1 (rfl : trim cs = trim cs)).cut
  have hnot : ∀ bs : List Char, (∀ c ∈ bs, isBlank c = true) →
      ∀ c ∈ bs, c ∉ w := by
    intro bs hbs c hc hcw
    exact Bool.false_ne_true ((hw c hcw).symm.trans (hbs c hc))
  constructor
  · have hin : trim cs <:+: cs :=
      ⟨before, after, by rw [List.append_assoc, ← hcut]⟩
    exact fun h => h.trans hin
  · intro h
    rw [hcut] at h
    exact isInfix_of_append_right (hnot after hafter)
      (isInfix_of_append_left (hnot before hbefore) h)

/-! ### In lower case -/

/-- What is inside a text is inside it in lower case, too. -/
lemma lower_isInfix {cs ds : List Char} (h : cs <:+: ds) :
    lower cs <:+: lower ds := by
  obtain ⟨before, after, rfl⟩ := h
  rw [lower_append, lower_append]
  exact List.infix_append _ _ _

/-- Only ASCII has lower-case forms in ASCII, of those that ASCII knows
of. -/
lemma toNat_lt_of_toLower {c : Char} (h : c.toLower.toNat < 0x80) :
    c.toNat < 0x80 := by
  unfold Char.toLower at h
  split at h
  · rename_i hc
    have hle : c.toNat ≤ 90 := UInt32.le_iff_toNat_le.1 hc.2
    omega
  · exact h

/-- In ASCII the two ways to lower case agree. -/
lemma lower_eq_map_toLower {cs : List Char}
    (h : ∀ c ∈ cs.map Char.toLower, c.toNat < 0x80) :
    lower cs = cs.map Char.toLower := by
  induction cs with
  | nil => rfl
  | cons c cs ih =>
      rw [List.map_cons, List.forall_mem_cons] at h
      rw [lower, List.flatMap_cons, lowerChar_ascii (toNat_lt_of_toLower h.1),
        List.map_cons, List.singleton_append, ← ih h.2]
      rfl

/-- The lower-case letters of ASCII without `i` and `k`: these two are also
in the lower-case forms of the dotted capital I and of the kelvin sign. -/
def PlainLower (c : Char) : Prop :=
  0x61 ≤ c.toNat ∧ c.toNat ≤ 0x7A ∧ c ≠ 'i' ∧ c ≠ 'k'

/-- Beyond ASCII, the lower-case forms within ASCII are `k`. -/
lemma lowerRanges_beyond_ascii : ∀ r ∈ lowerRanges, r.last < 0x80 ∨
    0x80 ≤ r.first + r.offset ∨ r.first = r.last ∧ r.first + r.offset = 0x6B := by
  decide +kernel

/-- Beyond ASCII, a code point has a lower-case form beyond ASCII, or `k`. -/
lemma lowerCode_beyond_ascii {n : Nat} (hn : 0x80 ≤ n) :
    0x80 ≤ lowerCode n ∨ lowerCode n = 0x6B := by
  unfold lowerCode
  split
  · rename_i r hr
    have hcovers := List.find?_some hr
    simp only [LowerRange.covers, Bool.and_eq_true, decide_eq_true_eq] at hcovers
    rcases lowerRanges_beyond_ascii r (List.mem_of_find?_eq_some hr) with
      h | h | h <;> omega
  · exact .inl hn

/-- A character has the code point it was made of, unless there is none. -/
lemma toNat_ofNat_of_pos {n : Nat} (h : 0 < (Char.ofNat n).toNat) :
    (Char.ofNat n).toNat = n := by
  by_cases hn : n.isValidChar
  · rw [Char.ofNat, dif_pos hn]
    rfl
  · rw [Char.ofNat, dif_neg hn] at h
    exact absurd h (by decide)

/-- A plain letter is in the lower-case form of its own letters only. -/
lemma lowerChar_of_mem {c x : Char} (hx : PlainLower x) (h : x ∈ lowerChar c) :
    lowerChar c = [x] ∧ c.toLower = x := by
  obtain ⟨hlo, hhi, hi, hk⟩ := hx
  unfold lowerChar at h ⊢
  by_cases hascii : c.toNat < 0x80
  · rw [if_pos hascii, List.mem_singleton] at h
    rw [if_pos hascii]
    exact ⟨by rw [h], h.symm⟩
  · exfalso
    rw [if_neg hascii] at h
    split at h
    · rcases List.mem_cons.1 h with rfl | h
      · exact hi rfl
      · obtain rfl := List.mem_singleton.1 h
        exact absurd hhi (by decide)
    · obtain rfl := List.mem_singleton.1 h
      have hcode_eq := toNat_ofNat_of_pos (Nat.lt_of_lt_of_le (by decide) hlo)
      rcases lowerCode_beyond_ascii (not_lt.1 hascii) with hcode | hcode
      · omega
      · exact hk (by rw [hcode])

/-- Whether a text holds a word of lower-case letters in some letter case. -/
def HoldsInSomeCase (word cs : List Char) : Prop :=
  ∃ letters, letters <:+: cs ∧ letters.map Char.toLower = word

/-- A word of plain letters is inside the lower-case form of a text exactly if
the text holds it in some letter case. -/
theorem holdsInSomeCase_iff {word : List Char}
    (hword : ∀ c ∈ word, PlainLower c) (cs : List Char) :
    HoldsInSomeCase word cs ↔ word <:+: lower cs := by
  constructor
  · rintro ⟨letters, hin, rfl⟩
    have hascii : ∀ c ∈ letters.map Char.toLower, c.toNat < 0x80 :=
      fun c hc => (hword c hc).2.1.trans_lt (by decide)
    rw [← lower_eq_map_toLower hascii]
    exact lower_isInfix hin
  · exact exists_isInfix_of_isInfix_flatMap lowerChar_ne_nil
      fun x hx _ => lowerChar_of_mem (hword x hx)

/-- No blank is the letter of a plain one. -/
lemma isBlank_of_plainLower {c : Char} (h : PlainLower c.toLower) :
    isBlank c = false := by
  have hlt : c.toNat < 0x80 := toNat_lt_of_toLower (h.2.1.trans_lt (by decide))
  have hle : 0x41 ≤ c.toNat := by
    have hlo := h.1
    unfold Char.toLower at hlo
    split at hlo
    · rename_i hc
      exact UInt32.le_iff_toNat_le.1 hc.1
    · omega
  simp only [isBlank, blankRanges, List.any_cons, List.any_nil,
    Bool.or_eq_false_iff, Bool.and_eq_false_iff, decide_eq_false_iff_not,
    not_le, and_true]
  omega

section SomeCase

variable {word : List Char} (hword : ∀ c ∈ word, PlainLower c)

include hword

/-- The letters of a word of plain ones are not blank. -/
lemma isBlank_of_mem_letters {letters : List Char}
    (h : letters.map Char.toLower = word) :
    ∀ c ∈ letters, isBlank c = false := by
  intro c hc
  exact isBlank_of_plainLower (hword _ (h ▸ List.mem_map_of_mem hc))

/-- A text holds a word in some letter case exactly if one of its lines
does. -/
theorem exists_lines_holdsInSomeCase_iff (hne : word ≠ []) (cs : List Char) :
    (∃ line ∈ lines cs, HoldsInSomeCase word line) ↔
      HoldsInSomeCase word cs := by
  have hiff : ∀ letters : List Char, letters.map Char.toLower = word →
      ((∃ line ∈ lines cs, letters <:+: line) ↔ letters <:+: cs) := by
    intro letters hmap
    have hblank := isBlank_of_mem_letters hword hmap
    refine exists_lines_isInfix_iff ?_ ?_ ?_ cs
    · rintro rfl
      exact hne hmap.symm
    · exact fun h => absurd (hblank _ h) (by decide)
    · exact fun h => absurd (hblank _ h) (by decide)
  constructor
  · rintro ⟨line, hl, letters, hin, hmap⟩
    exact ⟨letters, (hiff letters hmap).1 ⟨line, hl, hin⟩, hmap⟩
  · rintro ⟨letters, hin, hmap⟩
    obtain ⟨line, hl, hin⟩ := (hiff letters hmap).2 hin
    exact ⟨line, hl, letters, hin, hmap⟩

/-- And exactly if it does without the blanks at its ends. -/
theorem holdsInSomeCase_trim_iff (cs : List Char) :
    HoldsInSomeCase word (trim cs) ↔ HoldsInSomeCase word cs :=
  exists_congr fun _ => and_congr_left fun hmap =>
    isInfix_trim_iff (isBlank_of_mem_letters hword hmap) cs

end SomeCase

end BitProbe.Text

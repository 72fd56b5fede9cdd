import BitProbe.Proofs.Text.Utf8.WellFormed

/-!
Bytes that are not all text.

Where no character begins, some bytes are given up together: as many as a
character begins with, and one at least. So much of the bytes as can be is
kept, and a replacement character stands for each such part. There is one way
only to divide bytes like that, and decoding finds it.

* `Text.Utf8.Starts`: the bytes that a character begins with;
* `Text.Utf8.Broken`: the bytes that are given up together;
* `Text.Utf8.Lossy`: bytes and the text that they are decoded as;
* `Text.Utf8.scan_cases`: the machine finds a character or gives such a part
  up;
* `Text.Utf8.decodeLossy_eq_iff`: decoding finds the text.
-/

namespace BitProbe.Text.Utf8

/-- Bytes that a character begins with. -/
def Starts (p : List UInt8) : Prop :=
  ∃ c : Char, p <+: String.utf8EncodeChar c

/-- Bytes that are given up together, and what follows them: no character is at
their beginning, and no character begins with more bytes of the whole. -/
structure Broken (p rest : List UInt8) : Prop where
  ne_nil : p ≠ []
  not_char : ∀ c : Char, ¬ String.utf8EncodeChar c <+: p
  starts : p.length = 1 ∨ Starts p
  maximal : ∀ b, rest.head? = some b → ¬ Starts (p ++ [b])

/-- Bytes and the text that they are decoded as, with a replacement character
for all that is given up together. -/
inductive Lossy : List UInt8 → List Char → Prop
  | nil : Lossy [] []
  | char {c : Char} {rest : List UInt8} {cs : List Char} : Lossy rest cs →
    Lossy (String.utf8EncodeChar c ++ rest) (c :: cs)
  | broken {p rest : List UInt8} {cs : List Char} : Broken p rest →
    Lossy rest cs → Lossy (p ++ rest) (Char.ofNat 0xFFFD :: cs)

lemma Starts.of_isPrefix {p q : List UInt8} (h : Starts q) (hp : p <+: q) :
    Starts p := by
  obtain ⟨c, hc⟩ := h
  exact ⟨c, hp.trans hc⟩

/-! ### There is one way only -/

/-- The longer one of two beginnings of the same bytes begins with the shorter
one and the byte after it. -/
lemma append_head?_isPrefix {α : Type} {p rest p' rest' : List α}
    (h : p ++ rest = p' ++ rest') (hlt : p.length < p'.length) :
    ∃ b, rest.head? = some b ∧ p ++ [b] <+: p' := by
  obtain ⟨q, rfl⟩ : p <+: p' :=
    List.prefix_of_prefix_length_le ⟨rest, h⟩ (List.prefix_append p' rest')
      (Nat.le_of_lt hlt)
  rw [List.append_assoc, List.append_cancel_left_eq] at h
  cases q with
  | nil => simp at hlt
  | cons b q =>
      rw [h]
      exact ⟨b, rfl, q, by simp⟩

lemma Broken.not_lt {p rest p' rest' : List UInt8} (h : Broken p rest)
    (h' : Broken p' rest') (heq : p ++ rest = p' ++ rest') :
    ¬ p.length < p'.length := by
  intro hlt
  obtain ⟨b, hb, hprefix⟩ := append_head?_isPrefix heq hlt
  have hpos := List.length_pos_iff.2 h.ne_nil
  rcases h'.starts with hone | hstarts
  · omega
  · exact h.maximal b hb (hstarts.of_isPrefix hprefix)

/-- No other bytes at the beginning are given up. -/
lemma Broken.unique {p rest p' rest' : List UInt8} (h : Broken p rest)
    (h' : Broken p' rest') (heq : p ++ rest = p' ++ rest') :
    p = p' ∧ rest = rest' := by
  have hlt := h.not_lt h' heq
  have hgt := h'.not_lt h heq.symm
  exact List.append_inj heq (by omega)

/-- No character is at the beginning. -/
lemma Broken.ne_char {p rest rest' : List UInt8} (h : Broken p rest)
    (c : Char) : p ++ rest ≠ String.utf8EncodeChar c ++ rest' := by
  intro heq
  by_cases hle : (String.utf8EncodeChar c).length ≤ p.length
  · exact h.not_char c (List.prefix_of_prefix_length_le
      (heq ▸ List.prefix_append _ rest') (List.prefix_append p rest) hle)
  · obtain ⟨b, hb, hprefix⟩ := append_head?_isPrefix heq (Nat.not_le.1 hle)
    exact h.maximal b hb ⟨c, hprefix⟩

/-! ### What the machine does -/

lemma scan_encodeChar (c : Char) :
    scan (String.utf8EncodeChar c) = [some c] := by
  have h := scanFrom_encodeChar c []
  rwa [List.append_nil] at h

/-- Bytes that are found to be one character are its bytes. -/
lemma eq_encodeChar_of_scan {bytes : List UInt8} {c : Char}
    (h : scan bytes = [some c]) : bytes = String.utf8EncodeChar c := by
  have hdecode : decode bytes = some [c] := decode_eq_some_iff_scan.2 h
  rw [← decode_eq_some_iff.1 hdecode, encode, List.flatMap_singleton]

/-- If something is given up whatever follows, then no character begins like
that. -/
lemma not_starts {p : List UInt8} (h : ∀ q, none ∈ scan (p ++ q)) :
    ¬ Starts p := by
  rintro ⟨c, q, hq⟩
  have hnone := h q
  rw [hq, scan_encodeChar] at hnone
  simp at hnone

/-- From inside a character there is a way to its end. -/
lemma exists_completion (owed bits : Nat) {low high : UInt8}
    (h : low ≤ high) :
    ∃ q c, scanFrom (.inside owed low high bits) q = [some c] := by
  have hin : (low ≤ low && low ≤ high) = true := by
    simp [h]
  induction owed generalizing low high bits with
  | zero =>
      refine ⟨[low], Char.ofNat (bits * 64 + (low.toNat - 0x80)), ?_⟩
      rw [scanFrom_cons, step, if_pos hin]
      rfl
  | succ n ih =>
      have hnext : (0x80 : UInt8) ≤ 0xBF := by decide
      obtain ⟨q, c, hq⟩ := ih (bits * 64 + (low.toNat - 0x80)) hnext
        (by decide)
      refine ⟨low :: q, c, ?_⟩
      rw [scanFrom_cons, step, if_pos hin]
      exact hq

/-- The machine stands inside a character after some bytes, and has found
nothing in them. -/
structure Opened (p : List UInt8) (owed : Nat) (low high : UInt8)
    (bits : Nat) : Prop where
  scan_append : ∀ rest,
    scan (p ++ rest) = scanFrom (.inside owed low high bits) rest
  range : low ≤ high

section Opened

variable {p : List UInt8} {owed bits : Nat} {low high : UInt8}

/-- A character begins with the bytes so far, and they are none as a whole. -/
lemma Opened.broken (h : Opened p owed low high bits) {rest : List UInt8}
    (hrest : ∀ b, rest.head? = some b → ¬ Starts (p ++ [b])) :
    Broken p rest := by
  have hscan : scan p = [none] := by
    have hp := h.scan_append []
    rwa [List.append_nil] at hp
  refine ⟨?_, ?_, ?_, hrest⟩
  · rintro rfl
    cases hscan
  · rintro c ⟨q, rfl⟩
    rw [scan, scanFrom_encodeChar] at hscan
    cases hscan
  · obtain ⟨q, c, hq⟩ := exists_completion owed bits h.range
    rw [← h.scan_append] at hq
    exact .inr ⟨c, q, eq_encodeChar_of_scan hq⟩

/-- The last byte that is owed makes a character. -/
lemma Opened.scan_last {b : UInt8} (h : Opened p 0 low high bits)
    (hin : (low ≤ b && b ≤ high) = true) (rest : List UInt8) :
    scan (p ++ b :: rest) =
      some (Char.ofNat (bits * 64 + (b.toNat - 0x80))) :: scan rest := by
  rw [h.scan_append, scanFrom_cons, step, if_pos hin]
  rfl

/-- After another the machine stands inside the character still. -/
lemma Opened.next {b : UInt8} (h : Opened p (owed + 1) low high bits)
    (hin : (low ≤ b && b ≤ high) = true) :
    Opened (p ++ [b]) owed 0x80 0xBF (bits * 64 + (b.toNat - 0x80)) := by
  refine ⟨fun rest => ?_, by decide⟩
  rw [List.append_assoc, h.scan_append, List.singleton_append, scanFrom_cons,
    step, if_pos hin]
  rfl

/-- What is not owed is a first byte, and the bytes before it are given up. -/
lemma Opened.scan_other {b : UInt8} (h : Opened p owed low high bits)
    (hout : ¬ (low ≤ b && b ≤ high) = true) (rest : List UInt8) :
    scan (p ++ b :: rest) = none :: scan (b :: rest) := by
  rw [h.scan_append, scanFrom_cons, step, if_neg hout, scan, scanFrom_cons]
  rfl

/-- What the machine goes on to: the rest of a character, or as many bytes as
one begins with. -/
lemma Opened.scan_cases (h : Opened p owed low high bits)
    (rest : List UInt8) :
    (∃ c rest', p ++ rest = String.utf8EncodeChar c ++ rest' ∧
      scan (p ++ rest) = some c :: scan rest') ∨
    ∃ p' rest', p ++ rest = p' ++ rest' ∧ Broken p' rest' ∧
      scan (p ++ rest) = none :: scan rest' := by
  induction rest generalizing p owed bits low high with
  | nil =>
      refine .inr ⟨p, [], rfl, h.broken fun _ => nofun, ?_⟩
      rw [h.scan_append]
      rfl
  | cons b rest ih =>
      by_cases hin : (low ≤ b && b ≤ high) = true
      · cases owed with
        | zero =>
            refine .inl ⟨_, rest, ?_, h.scan_last hin rest⟩
            rw [← eq_encodeChar_of_scan (h.scan_last hin []), List.append_assoc]
            rfl
        | succ n =>
            have hcases := ih (h.next hin)
            rwa [List.append_assoc] at hcases
      · refine .inr ⟨p, b :: rest, rfl, h.broken fun x hx => ?_,
          h.scan_other hin rest⟩
        -- no character begins with this byte too, as these are given up
        obtain rfl : b = x := Option.some.inj hx
        refine not_starts fun q => ?_
        rw [List.append_assoc, List.singleton_append, h.scan_other hin]
        exact List.mem_cons_self

end Opened

/-- A first byte that is given up at once begins no character. -/
lemma broken_singleton {b : UInt8} (h : none ∈ (first b).1)
    (rest : List UInt8) : Broken [b] rest := by
  have hb : ¬ Starts [b] := not_starts fun q => by
    rw [scan, List.singleton_append, scanFrom_cons]
    exact List.mem_append_left _ h
  refine ⟨List.cons_ne_nil b [], fun c hc => hb ⟨c, ?_⟩, .inl rfl,
    fun x _ hx => hb (hx.of_isPrefix (List.prefix_append [b] [x]))⟩
  have hwhole :=
    hc.eq_of_length (Nat.le_antisymm hc.length_le (length_encodeChar_pos c))
  exact hwhole ▸ List.prefix_rfl

/-- What a first byte does: it is a character, it is given up, or it leads into
a character. -/
lemma first_or (b : UInt8) :
    (∃ c, first b = ([some c], .between)) ∨ first b = ([none], .between) ∨
      ∃ owed low high bits, first b = ([], .inside owed low high bits) ∧
        low ≤ high := by
  generalize hfirst : first b = r
  rw [first] at hfirst
  split_ifs at hfirst <;> subst hfirst
  · exact .inl ⟨_, rfl⟩
  · exact .inr (.inl rfl)
  on_goal 8 => exact .inr (.inl rfl)
  -- the first bytes of a longer character, each with its range
  all_goals exact .inr (.inr ⟨_, _, _, _, rfl, by decide⟩)

/-- Bytes begin with a character, which is found, or with a part that is given
up. -/
lemma scan_cases (b : UInt8) (bytes : List UInt8) :
    (∃ c rest, b :: bytes = String.utf8EncodeChar c ++ rest ∧
      scan (b :: bytes) = some c :: scan rest) ∨
    ∃ p rest, b :: bytes = p ++ rest ∧ Broken p rest ∧
      scan (b :: bytes) = none :: scan rest := by
  have hscan : ∀ rest, scan (b :: rest) =
      (first b).1 ++ scanFrom (first b).2 rest := fun rest =>
    scanFrom_cons .between b rest
  rcases first_or b with ⟨c, hc⟩ | hnone |
    ⟨owed, low, high, bits, hopen, hrange⟩
  · have hchar : scan [b] = [some c] := by
      rw [hscan, hc]
      rfl
    refine .inl ⟨c, bytes, ?_, ?_⟩
    · rw [← eq_encodeChar_of_scan hchar]
      rfl
    · rw [hscan, hc]
      rfl
  · refine .inr ⟨[b], bytes, rfl, broken_singleton ?_ bytes, ?_⟩
    · rw [hnone]
      exact List.mem_cons_self
    · rw [hscan, hnone]
      rfl
  · have hopened : Opened [b] owed low high bits := by
      refine ⟨fun rest => ?_, hrange⟩
      rw [List.singleton_append, hscan, hopen]
      rfl
    exact hopened.scan_cases bytes

/-! ### Decoding -/

/-- Decoding leaves a text that the bytes are decoded as. -/
lemma lossy_decodeLossy (bytes : List UInt8) :
    Lossy bytes (decodeLossy bytes) := by
  induction hn : bytes.length using Nat.strongRecOn generalizing bytes with
  | _ n ih =>
      cases bytes with
      | nil => exact .nil
      | cons b bytes =>
          rw [decodeLossy]
          rcases scan_cases b bytes with ⟨c, rest, hrest, hscan⟩ |
            ⟨p, rest, hrest, hbroken, hscan⟩
          · have hlt : rest.length < n := by
              have hpos : 0 < (String.utf8EncodeChar c).length := by
                rw [String.length_utf8EncodeChar]
                exact Char.utf8Size_pos c
              rw [← hn, hrest, List.length_append]
              omega
            rw [hscan, hrest]
            exact .char (ih _ hlt rest rfl)
          · have hlt : rest.length < n := by
              have hpos := List.length_pos_iff.2 hbroken.ne_nil
              rw [← hn, hrest, List.length_append]
              omega
            rw [hscan, hrest]
            exact .broken hbroken (ih _ hlt rest rfl)

/-- What is given up together is replaced with one character. -/
lemma decodeLossy_append_of_broken {p rest : List UInt8} (h : Broken p rest) :
    decodeLossy (p ++ rest) = Char.ofNat 0xFFFD :: decodeLossy rest := by
  cases p with
  | nil => exact absurd rfl h.ne_nil
  | cons b p =>
      rw [decodeLossy, List.cons_append]
      rcases scan_cases b (p ++ rest) with ⟨c, rest', hrest, -⟩ |
        ⟨p', rest', hrest, hbroken, hscan⟩
      · exact absurd hrest (h.ne_char c)
      · obtain ⟨-, rfl⟩ := h.unique hbroken hrest
        rw [hscan]
        rfl

/-- Bytes, text or not, are decoded as one text, in which a replacement
character stands for all that is given up together. -/
theorem decodeLossy_eq_iff {bytes : List UInt8} {cs : List Char} :
    decodeLossy bytes = cs ↔ Lossy bytes cs := by
  refine ⟨fun h => h ▸ lossy_decodeLossy bytes, fun h => ?_⟩
  induction h with
  | nil => rfl
  | @char c rest cs _ ih =>
      rw [decodeLossy, scan, scanFrom_encodeChar, List.map_cons, ← scan,
        ← decodeLossy, ih]
      rfl
  | broken hbroken _ ih => rw [decodeLossy_append_of_broken hbroken, ih]

end BitProbe.Text.Utf8

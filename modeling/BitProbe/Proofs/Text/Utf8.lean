import BitProbe.Text.Utf8
import Mathlib.Tactic.Common

/-!
What the bytes of a text say about its characters.

A character of one byte is that byte; the bytes of a longer one never make up
a character below 128. So a line feed in a text stands for a line feed among
the bytes. The bytes of each character are read as this character, so a text is
read back from its bytes.

* `Text.Utf8.IsWide`: the states inside a character from 128 on;
* `Text.Utf8.isWide_step`: no other state inside a character is ever reached;
* `Text.Utf8.mem_of_mem_decode`, `Text.Utf8.mem_of_mem_decodeLossy`: a line
  feed that is found was a byte;
* `Text.Utf8.decode_encode`: the text of the bytes of a text.
-/

namespace BitProbe.Text.Utf8

/-- Whatever bytes are still to come, the character will be 128 at least. -/
def IsWide : State → Prop
  | .between => True
  | .inside owed low _ bits =>
    128 ≤ low.toNat ∧ 128 ≤ (bits * 64 + (low.toNat - 128)) * 64 ^ owed

/-- A character from 128 on, or from a number that is no character, is no line
feed. -/
lemma ofNat_ne_lineFeed {n : Nat} (h : 128 ≤ n) : Char.ofNat n ≠ '\n' := by
  intro hn
  have hval : (Char.ofNat n).toNat = 10 := congrArg Char.toNat hn
  by_cases hvalid : n.isValidChar
  · rw [Char.ofNat, dif_pos hvalid] at hval
    have : n = 10 := hval
    omega
  · rw [Char.ofNat, dif_neg hvalid] at hval
    cases hval

/-- A first byte leads to a state between characters or inside a wide one. -/
lemma isWide_first (b : UInt8) : IsWide (first b).2 := by
  rw [first]
  simp only [UInt8.lt_iff_toNat_lt, ← UInt8.toNat_inj]
  split_ifs <;> simp [IsWide] at * <;> omega

/-- The only character that a first byte completes is the byte itself. -/
lemma lt_of_mem_first {b : UInt8} {c : Char} (h : some c ∈ (first b).1) :
    b < 0x80 ∧ c = Char.ofNat b.toNat := by
  rw [first] at h
  split_ifs at h <;> simp_all

/-- Only a line feed completes a line feed as a first byte. -/
lemma eq_of_mem_first {b : UInt8} (h : some '\n' ∈ (first b).1) :
    b = 0x0A := by
  obtain ⟨hlt, hc⟩ := lt_of_mem_first h
  rw [UInt8.lt_iff_toNat_lt] at hlt
  have hall : ∀ n < 128, '\n' = Char.ofNat n → n = 10 := by decide
  exact UInt8.toNat_inj.1 (hall _ hlt hc)

/-- A byte leads from such a state to another. -/
lemma isWide_step {s : State} (hs : IsWide s) (b : UInt8) :
    IsWide (step s b).2 := by
  cases s with
  | between => exact isWide_first b
  | inside owed low high bits =>
      rw [step]
      split_ifs with hb
      · cases owed with
        | zero => trivial
        | succ n =>
            obtain ⟨hlow, hbits⟩ := hs
            simp only [Bool.and_eq_true, decide_eq_true_eq] at hb
            have hle : low.toNat ≤ b.toNat := UInt8.le_iff_toNat_le.1 hb.1
            refine ⟨Nat.le_refl 128, Nat.le_trans hbits ?_⟩
            rw [Nat.pow_succ, Nat.mul_comm (64 ^ n), ← Nat.mul_assoc]
            exact Nat.mul_le_mul_right _ (by simp; omega)
      · exact isWide_first b

/-- Only a line feed completes a line feed. -/
lemma eq_of_mem_step {s : State} (hs : IsWide s) {b : UInt8}
    (h : some '\n' ∈ (step s b).1) : b = 0x0A := by
  cases s with
  | between => exact eq_of_mem_first h
  | inside owed low high bits =>
      rw [step] at h
      split_ifs at h with hb
      · cases owed with
        | zero =>
            obtain ⟨hlow, hbits⟩ := hs
            simp only [Bool.and_eq_true, decide_eq_true_eq] at hb
            have hle : low.toNat ≤ b.toNat := UInt8.le_iff_toNat_le.1 hb.1
            rw [List.mem_singleton, Option.some_inj] at h
            exact absurd h.symm (ofNat_ne_lineFeed (by omega))
        | succ n => cases h
      · rcases List.mem_cons.1 h with h | h
        · cases h
        · exact eq_of_mem_first h

/-- A line feed that the machine finds was among the bytes. -/
lemma mem_of_mem_scanFrom {s : State} (hs : IsWide s) {bytes : List UInt8}
    (h : some '\n' ∈ scanFrom s bytes) : 0x0A ∈ bytes := by
  induction bytes generalizing s with
  | nil =>
      rw [scanFrom_nil] at h
      cases s <;> simp [finish] at h
  | cons b bytes ih =>
      rw [scanFrom_cons] at h
      rcases List.mem_append.1 h with h | h
      · rw [eq_of_mem_step hs h]
        exact List.mem_cons_self
      · exact List.mem_cons_of_mem b (ih (isWide_step hs b) h)

/-- A line feed in a decoded text was among the bytes. -/
lemma mem_of_mem_decode {bytes : List UInt8} {cs : List Char}
    (hd : decode bytes = some cs) (h : '\n' ∈ cs) : 0x0A ∈ bytes := by
  rw [decode] at hd
  split at hd
  · rw [← Option.some.inj hd, List.mem_filterMap] at h
    obtain ⟨c, hc, rfl⟩ := h
    exact mem_of_mem_scanFrom (s := .between) trivial hc
  · cases hd

/-- Also where the bytes are not all text. -/
lemma mem_of_mem_decodeLossy {bytes : List UInt8}
    (h : '\n' ∈ decodeLossy bytes) : 0x0A ∈ bytes := by
  obtain ⟨c, hc, hget⟩ := List.mem_map.1 h
  cases c with
  | none => exact absurd hget (by decide)
  | some c =>
      obtain rfl : c = '\n' := hget
      exact mem_of_mem_scanFrom (s := .between) trivial hc

/-! ### Reading texts back -/

/-- The first of two bytes. -/
lemma first_of_two {n : Nat} (h : 2 ≤ n) (hn : n < 0x20) :
    first (UInt8.ofNat (n + 0xC0)) = ([], .inside 0 0x80 0xBF n) := by
  have hall : ∀ n < 0x20, 2 ≤ n →
      first (UInt8.ofNat (n + 0xC0)) = ([], .inside 0 0x80 0xBF n) := by
    decide
  exact hall n hn h

/-- The first of three bytes. -/
lemma first_of_three {n : Nat} (hn : n < 0x10) :
    first (UInt8.ofNat (n + 0xE0)) =
      ([], .inside 1 (if n = 0 then 0xA0 else 0x80)
        (if n = 0xD then 0x9F else 0xBF) n) := by
  have hall : ∀ n < 0x10, first (UInt8.ofNat (n + 0xE0)) =
      ([], .inside 1 (if n = 0 then 0xA0 else 0x80)
        (if n = 0xD then 0x9F else 0xBF) n) := by
    decide
  exact hall n hn

/-- The first of four bytes. -/
lemma first_of_four {n : Nat} (hn : n < 5) :
    first (UInt8.ofNat (n + 0xF0)) =
      ([], .inside 2 (if n = 0 then 0x90 else 0x80)
        (if n = 4 then 0x8F else 0xBF) n) := by
  have hall : ∀ n < 5, first (UInt8.ofNat (n + 0xF0)) =
      ([], .inside 2 (if n = 0 then 0x90 else 0x80)
        (if n = 4 then 0x8F else 0xBF) n) := by
    decide
  exact hall n hn

/-- A byte that starts a longer character finds nothing yet. -/
lemma scanFrom_first {b : UInt8} {s : State} (h : first b = ([], s))
    (rest : List UInt8) : scanFrom .between (b :: rest) = scanFrom s rest := by
  rw [scanFrom_cons, step, h, List.nil_append]

/-- A later byte of a character adds six bits, if it is in the range. -/
lemma scanFrom_later {owed bits d : Nat} {low high : UInt8} (hd : d < 0x40)
    (hlow : low.toNat ≤ d + 0x80) (hhigh : d + 0x80 ≤ high.toNat)
    (rest : List UInt8) :
    scanFrom (.inside owed low high bits) (UInt8.ofNat (d + 0x80) :: rest) =
      match owed with
      | 0 => some (Char.ofNat (bits * 64 + d)) :: scanFrom .between rest
      | n + 1 => scanFrom (.inside n 0x80 0xBF (bits * 64 + d)) rest := by
  have hb : (UInt8.ofNat (d + 0x80)).toNat = d + 0x80 := by
    rw [UInt8.toNat_ofNat']
    omega
  have hin : (low ≤ UInt8.ofNat (d + 0x80) &&
      UInt8.ofNat (d + 0x80) ≤ high) = true := by
    simp only [Bool.and_eq_true, decide_eq_true_eq, UInt8.le_iff_toNat_le, hb]
    exact ⟨hlow, hhigh⟩
  rw [scanFrom_cons, step, if_pos hin, hb, Nat.add_sub_cancel]
  cases owed <;> rfl

/-- A byte after which the range is the full one. -/
lemma scanFrom_full {owed bits d : Nat} (hd : d < 0x40) (rest : List UInt8) :
    scanFrom (.inside owed 0x80 0xBF bits) (UInt8.ofNat (d + 0x80) :: rest) =
      match owed with
      | 0 => some (Char.ofNat (bits * 64 + d)) :: scanFrom .between rest
      | n + 1 => scanFrom (.inside n 0x80 0xBF (bits * 64 + d)) rest :=
  have hhigh : d + 0x80 ≤ (0xBF : UInt8).toNat := by
    change d + 0x80 ≤ 0xBF
    omega
  scanFrom_later hd (Nat.le_add_left _ _) hhigh rest

section Sequences

variable {a b c d : Nat} (hb : b < 0x40) (hc : c < 0x40) (rest : List UInt8)

/-- A byte below 128 is a character. -/
lemma scanFrom_one (ha : a < 0x80) :
    scanFrom .between (UInt8.ofNat a :: rest) =
      some (Char.ofNat a) :: scanFrom .between rest := by
  have htoNat : (UInt8.ofNat a).toNat = a := by
    rw [UInt8.toNat_ofNat']
    omega
  have hlt : UInt8.ofNat a < 0x80 := by
    rw [UInt8.lt_iff_toNat_lt, htoNat]
    exact ha
  rw [scanFrom_cons, step_ascii hlt _ (.inl rfl), htoNat]
  rfl

include hb

/-- Two bytes are a character from 128 on. -/
lemma scanFrom_two (ha : 2 ≤ a) (ha' : a < 0x20) :
    scanFrom .between
        (UInt8.ofNat (a + 0xC0) :: UInt8.ofNat (b + 0x80) :: rest) =
      some (Char.ofNat (a * 64 + b)) :: scanFrom .between rest := by
  rw [scanFrom_first (first_of_two ha ha'), scanFrom_full hb]

include hc

/-- Three bytes are a character, unless two were enough or it is a
surrogate. -/
lemma scanFrom_three (ha : a < 0x10) (hlow : a = 0 → 0x20 ≤ b)
    (hhigh : a = 0xD → b < 0x20) :
    scanFrom .between (UInt8.ofNat (a + 0xE0) :: UInt8.ofNat (b + 0x80) ::
        UInt8.ofNat (c + 0x80) :: rest) =
      some (Char.ofNat ((a * 64 + b) * 64 + c)) ::
        scanFrom .between rest := by
  rw [scanFrom_first (first_of_three ha), scanFrom_later hb]
  · exact scanFrom_full hc rest
  · split
    · next h => exact Nat.add_le_add_right (hlow h) 0x80
    · exact Nat.le_add_left 0x80 _
  · split
    · next h => exact Nat.add_le_add_right (Nat.le_of_lt_succ (hhigh h)) 0x80
    · exact Nat.add_le_add_right (Nat.le_of_lt_succ hb) 0x80

/-- Four bytes are a character, unless three were enough or there is none. -/
lemma scanFrom_four (hd : d < 0x40) (ha : a < 5) (hlow : a = 0 → 0x10 ≤ b)
    (hhigh : a = 4 → b < 0x10) :
    scanFrom .between (UInt8.ofNat (a + 0xF0) :: UInt8.ofNat (b + 0x80) ::
        UInt8.ofNat (c + 0x80) :: UInt8.ofNat (d + 0x80) :: rest) =
      some (Char.ofNat (((a * 64 + b) * 64 + c) * 64 + d)) ::
        scanFrom .between rest := by
  rw [scanFrom_first (first_of_four ha), scanFrom_later hb]
  · exact (scanFrom_full hc _).trans (scanFrom_full hd rest)
  · split
    · next h => exact Nat.add_le_add_right (hlow h) 0x80
    · exact Nat.le_add_left 0x80 _
  · split
    · next h => exact Nat.add_le_add_right (Nat.le_of_lt_succ (hhigh h)) 0x80
    · exact Nat.add_le_add_right (Nat.le_of_lt_succ hb) 0x80

end Sequences

/-- The bytes of a character, by its number. -/
lemma encodeChar_eq (c : Char) :
    String.utf8EncodeChar c =
      let v := c.toNat
      if v ≤ 0x7F then [UInt8.ofNat v]
      else if v ≤ 0x7FF then
        [UInt8.ofNat (v / 64 % 0x20 + 0xC0), UInt8.ofNat (v % 0x40 + 0x80)]
      else if v ≤ 0xFFFF then
        [UInt8.ofNat (v / 4096 % 0x10 + 0xE0),
         UInt8.ofNat (v / 64 % 0x40 + 0x80), UInt8.ofNat (v % 0x40 + 0x80)]
      else
        [UInt8.ofNat (v / 262144 % 0x08 + 0xF0),
         UInt8.ofNat (v / 4096 % 0x40 + 0x80),
         UInt8.ofNat (v / 64 % 0x40 + 0x80), UInt8.ofNat (v % 0x40 + 0x80)] :=
  rfl

/-- The bytes of a character are read as this character. -/
lemma scanFrom_encodeChar (c : Char) (rest : List UInt8) :
    scanFrom .between (String.utf8EncodeChar c ++ rest) =
      some c :: scanFrom .between rest := by
  have hc : Char.ofNat c.toNat = c := Char.ofNat_toNat c
  have hvalid : c.toNat < 0xD800 ∨ 0xDFFF < c.toNat ∧ c.toNat < 0x110000 :=
    c.valid
  rw [encodeChar_eq]
  generalize c.toNat = v at hc hvalid
  have hlast : v % 0x40 < 0x40 := Nat.mod_lt _ (by omega)
  have hthird : v / 64 % 0x40 < 0x40 := Nat.mod_lt _ (by omega)
  have hsecond : v / 4096 % 0x40 < 0x40 := Nat.mod_lt _ (by omega)
  dsimp only
  split_ifs with h1 h2 h3 <;> simp only [List.cons_append, List.nil_append]
  · rw [scanFrom_one rest (Nat.lt_succ_of_le h1), hc]
  · have hbits : v / 64 % 0x20 * 64 + v % 0x40 = v := by omega
    rw [scanFrom_two hlast rest (by omega) (by omega), hbits, hc]
  · have hbits : (v / 4096 % 0x10 * 64 + v / 64 % 0x40) * 64 + v % 0x40 = v := by
      omega
    rw [scanFrom_three hthird hlast rest (by omega) (by omega) (by omega),
      hbits, hc]
  · have hbits : ((v / 262144 % 0x08 * 64 + v / 4096 % 0x40) * 64 +
        v / 64 % 0x40) * 64 + v % 0x40 = v := by omega
    rw [scanFrom_four hsecond hthird rest hlast (by omega) (by omega)
      (by omega), hbits, hc]

/-- A text is read back from its bytes. -/
theorem decode_encode (cs : List Char) : decode (encode cs) = some cs := by
  have hscan : scan (encode cs) = cs.map some := by
    rw [scan, encode]
    induction cs with
    | nil => rfl
    | cons c cs ih => rw [List.flatMap_cons, scanFrom_encodeChar, ih]; rfl
  simp [decode, hscan]

end BitProbe.Text.Utf8

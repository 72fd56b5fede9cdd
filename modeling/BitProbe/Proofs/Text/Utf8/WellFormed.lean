import BitProbe.Proofs.Text.Utf8

/-!
Which bytes are text.

Where the machine gives nothing up, the bytes that it completes a character with
are the bytes of this character. So the bytes that are decoded are those of a
text, and they are decoded as this text. An ASCII byte after any bytes, text or
not, is decoded as a character of its own and leaves what was found before it.

* `Text.Utf8.exists_encodeChar`: bytes of which none is given up begin with a
  character;
* `Text.Utf8.decode_eq_some_iff`: the bytes that are text;
* `Text.Utf8.decode_append_ascii`, `Text.Utf8.decodeLossy_append_ascii`: an
  ASCII byte at the end.
-/

namespace BitProbe.Text.Utf8

/-! ### The bytes of a character by its digits in base sixty-four -/

/-- The number of a character that is made from its number. -/
lemma toNat_ofNat {n : Nat} (h : n < 0xD800 ∨ 0xDFFF < n ∧ n < 0x110000) :
    (Char.ofNat n).toNat = n := by
  rw [Char.ofNat, dif_pos h]
  rfl

section Digits

variable {a b c d : Nat} (hb : b < 0x40) (hc : c < 0x40)

lemma encodeChar_one (ha : a < 0x80) :
    String.utf8EncodeChar (Char.ofNat a) = [UInt8.ofNat a] := by
  rw [encodeChar_eq, toNat_ofNat (by omega)]
  exact if_pos (by omega)

include hb

lemma encodeChar_two (ha : 2 ≤ a) (ha' : a < 0x20) :
    String.utf8EncodeChar (Char.ofNat (a * 64 + b)) =
      [UInt8.ofNat (a + 0xC0), UInt8.ofNat (b + 0x80)] := by
  have hfirst : (a * 64 + b) / 64 % 0x20 = a := by omega
  have hlast : (a * 64 + b) % 0x40 = b := by omega
  rw [encodeChar_eq, toNat_ofNat (by omega)]
  dsimp only
  rw [if_neg (by omega), if_pos (by omega), hfirst, hlast]

include hc

lemma encodeChar_three (ha : a < 0x10) (hlow : a = 0 → 0x20 ≤ b)
    (hhigh : a = 0xD → b < 0x20) :
    String.utf8EncodeChar (Char.ofNat ((a * 64 + b) * 64 + c)) =
      [UInt8.ofNat (a + 0xE0), UInt8.ofNat (b + 0x80),
       UInt8.ofNat (c + 0x80)] := by
  have hfirst : ((a * 64 + b) * 64 + c) / 4096 % 0x10 = a := by omega
  have hsecond : ((a * 64 + b) * 64 + c) / 64 % 0x40 = b := by omega
  have hlast : ((a * 64 + b) * 64 + c) % 0x40 = c := by omega
  rw [encodeChar_eq, toNat_ofNat (by omega)]
  dsimp only
  rw [if_neg (by omega), if_neg (by omega), if_pos (by omega), hfirst, hsecond,
    hlast]

lemma encodeChar_four (hd : d < 0x40) (ha : a < 5) (hlow : a = 0 → 0x10 ≤ b)
    (hhigh : a = 4 → b < 0x10) :
    String.utf8EncodeChar (Char.ofNat (((a * 64 + b) * 64 + c) * 64 + d)) =
      [UInt8.ofNat (a + 0xF0), UInt8.ofNat (b + 0x80), UInt8.ofNat (c + 0x80),
       UInt8.ofNat (d + 0x80)] := by
  have hfirst : (((a * 64 + b) * 64 + c) * 64 + d) / 262144 % 0x08 = a := by
    omega
  have hsecond : (((a * 64 + b) * 64 + c) * 64 + d) / 4096 % 0x40 = b := by
    omega
  have hthird : (((a * 64 + b) * 64 + c) * 64 + d) / 64 % 0x40 = c := by omega
  have hlast : (((a * 64 + b) * 64 + c) * 64 + d) % 0x40 = d := by omega
  rw [encodeChar_eq, toNat_ofNat (by omega)]
  dsimp only
  rw [if_neg (by omega), if_neg (by omega), if_neg (by omega), hfirst, hsecond,
    hthird, hlast]

end Digits

/-! ### Where nothing is given up -/

/-- Inside a character of which nothing is given up, the next byte is in the
range, and nothing is given up after it. -/
lemma exists_later {owed bits : Nat} {low high : UInt8} {bytes : List UInt8}
    (hlow : 0x80 ≤ low.toNat) (hhigh : high.toNat ≤ 0xBF)
    (h : none ∉ scanFrom (.inside owed low high bits) bytes) :
    ∃ d rest, bytes = UInt8.ofNat (d + 0x80) :: rest ∧ d < 0x40 ∧
      low.toNat ≤ d + 0x80 ∧ d + 0x80 ≤ high.toNat ∧
      none ∉ match owed with
        | 0 => scanFrom .between rest
        | n + 1 => scanFrom (.inside n 0x80 0xBF (bits * 64 + d)) rest := by
  cases bytes with
  | nil => exact absurd (List.mem_singleton_self _) h
  | cons b rest =>
      by_cases hin : (low ≤ b && b ≤ high) = true
      · have hrange : low.toNat ≤ b.toNat ∧ b.toNat ≤ high.toNat := by
          simpa only [Bool.and_eq_true, decide_eq_true_eq,
            UInt8.le_iff_toNat_le] using hin
        have hd : b.toNat - 0x80 < 0x40 := by omega
        have hb : b.toNat - 0x80 + 0x80 = b.toNat := by omega
        have hbyte : b = UInt8.ofNat (b.toNat - 0x80 + 0x80) := by
          rw [hb, UInt8.ofNat_toNat]
        rw [hbyte, scanFrom_later hd (by omega) (by omega)] at h
        refine ⟨_, rest, congrArg (· :: rest) hbyte, hd, by omega, by omega, ?_⟩
        cases owed with
        | zero => exact fun hnone => h (List.mem_cons_of_mem _ hnone)
        | succ n => exact h
      · rw [scanFrom_cons, step, if_neg hin] at h
        exact absurd List.mem_cons_self h

/-- The same where the range is the full one. -/
lemma exists_full {owed bits : Nat} {bytes : List UInt8}
    (h : none ∉ scanFrom (.inside owed 0x80 0xBF bits) bytes) :
    ∃ d rest, bytes = UInt8.ofNat (d + 0x80) :: rest ∧ d < 0x40 ∧
      none ∉ match owed with
        | 0 => scanFrom .between rest
        | n + 1 => scanFrom (.inside n 0x80 0xBF (bits * 64 + d)) rest := by
  obtain ⟨d, rest, hbytes, hd, -, -, hrest⟩ :=
    exists_later (by decide) (by decide) h
  exact ⟨d, rest, hbytes, hd, hrest⟩

/-- A first byte that gives nothing up, by how many bytes are to follow it. -/
lemma first_cases {b : UInt8} (h : none ∉ (first b).1) :
    (∃ a < 0x80, b = UInt8.ofNat a) ∨
    (∃ a < 0x20, 2 ≤ a ∧ b = UInt8.ofNat (a + 0xC0)) ∨
    (∃ a < 0x10, b = UInt8.ofNat (a + 0xE0)) ∨
    ∃ a < 5, b = UInt8.ofNat (a + 0xF0) := by
  have hall : ∀ n < 256, none ∉ (first (UInt8.ofNat n)).1 →
      n < 0x80 ∨ 0xC2 ≤ n ∧ n < 0xF5 := by
    decide +kernel
  have hbyte : UInt8.ofNat b.toNat = b := UInt8.ofNat_toNat
  have hrange := hall b.toNat b.toNat_lt (hbyte.symm ▸ h)
  have hfrom : ∀ k ≤ b.toNat, b = UInt8.ofNat (b.toNat - k + k) := by
    intro k hk
    rw [Nat.sub_add_cancel hk, hbyte]
  by_cases h1 : b.toNat < 0x80
  · exact .inl ⟨b.toNat, h1, hbyte.symm⟩
  by_cases h2 : b.toNat < 0xE0
  · exact .inr (.inl ⟨_, by omega, by omega, hfrom 0xC0 (by omega)⟩)
  by_cases h3 : b.toNat < 0xF0
  · exact .inr (.inr (.inl ⟨_, by omega, hfrom 0xE0 (by omega)⟩))
  · exact .inr (.inr (.inr ⟨_, by omega, hfrom 0xF0 (by omega)⟩))

/-- Bytes of which none is given up begin with the bytes of a character. -/
lemma exists_encodeChar {b : UInt8} {bytes : List UInt8}
    (h : none ∉ scan (b :: bytes)) :
    ∃ c rest, b :: bytes = String.utf8EncodeChar c ++ rest := by
  have hfirst : none ∉ (first b).1 := fun hnone => h (by
    rw [scan, scanFrom_cons]
    exact List.mem_append_left _ hnone)
  rw [scan] at h
  rcases first_cases hfirst with ⟨a, ha, rfl⟩ | ⟨a, ha', ha, rfl⟩ |
    ⟨a, ha, rfl⟩ | ⟨a, ha, rfl⟩
  · exact ⟨_, bytes, by rw [encodeChar_one ha]; rfl⟩
  · rw [scanFrom_first (first_of_two ha ha')] at h
    obtain ⟨d, rest, rfl, hd, -⟩ := exists_full h
    exact ⟨_, rest, by rw [encodeChar_two hd ha ha']; rfl⟩
  · rw [scanFrom_first (first_of_three ha)] at h
    obtain ⟨d, rest, rfl, hd, hlow, hhigh, hrest⟩ :=
      exists_later (by split <;> decide) (by split <;> decide) h
    obtain ⟨e, rest, rfl, he, -⟩ := exists_full hrest
    have hzero : a = 0 → 0x20 ≤ d := by
      rintro rfl
      have hlow : 0x20 + 0x80 ≤ d + 0x80 := hlow
      omega
    have htop : a = 0xD → d < 0x20 := by
      rintro rfl
      have hhigh : d + 0x80 ≤ 0x1F + 0x80 := hhigh
      omega
    exact ⟨_, rest, by rw [encodeChar_three hd he ha hzero htop]; rfl⟩
  · rw [scanFrom_first (first_of_four ha)] at h
    obtain ⟨d, rest, rfl, hd, hlow, hhigh, hrest⟩ :=
      exists_later (by split <;> decide) (by split <;> decide) h
    obtain ⟨e, rest, rfl, he, hrest⟩ := exists_full hrest
    obtain ⟨f, rest, rfl, hf, -⟩ := exists_full hrest
    have hzero : a = 0 → 0x10 ≤ d := by
      rintro rfl
      have hlow : 0x10 + 0x80 ≤ d + 0x80 := hlow
      omega
    have htop : a = 4 → d < 0x10 := by
      rintro rfl
      have hhigh : d + 0x80 ≤ 0xF + 0x80 := hhigh
      omega
    exact ⟨_, rest, by rw [encodeChar_four hd he hf ha hzero htop]; rfl⟩

/-- Bytes are decoded as what the machine finds, if it gives nothing up. -/
lemma decode_eq_some_iff_scan {bytes : List UInt8} {cs : List Char} :
    decode bytes = some cs ↔ scan bytes = cs.map some := by
  rw [decode]
  constructor
  · intro h
    split at h
    · rename_i hall
      rw [← Option.some.inj h]
      generalize scan bytes = found at hall
      induction found with
      | nil => rfl
      | cons c found ih =>
          rw [List.all_cons, Bool.and_eq_true] at hall
          obtain ⟨c, rfl⟩ := Option.isSome_iff_exists.1 hall.1
          exact congrArg (some c :: ·) (ih hall.2)
    · cases h
  · intro h
    rw [h]
    simp

lemma length_encodeChar_pos (c : Char) :
    0 < (String.utf8EncodeChar c).length := by
  rw [String.length_utf8EncodeChar]
  exact Char.utf8Size_pos c

/-- The bytes that are decoded as a text are the bytes of the text. -/
theorem decode_eq_some_iff {bytes : List UInt8} {cs : List Char} :
    decode bytes = some cs ↔ encode cs = bytes := by
  refine ⟨fun h => ?_, fun h => h ▸ decode_encode cs⟩
  rw [decode_eq_some_iff_scan] at h
  -- the bytes of the first character are taken off
  induction hn : bytes.length using Nat.strongRecOn generalizing bytes cs with
  | _ n ih =>
      cases bytes with
      | nil =>
          rw [List.map_eq_nil_iff.1 h.symm]
          rfl
      | cons b bytes =>
          have hnone : none ∉ scan (b :: bytes) := by
            rw [h]
            simp
          obtain ⟨c, rest, hrest⟩ := exists_encodeChar hnone
          rw [hrest] at h hn ⊢
          rw [scan, scanFrom_encodeChar] at h
          cases cs with
          | nil => cases h
          | cons c' cs =>
              rw [List.map_cons, List.cons.injEq] at h
              obtain ⟨hc, htail⟩ := h
              obtain rfl : c = c' := Option.some.inj hc
              have hlt : rest.length < n := by
                have hpos := length_encodeChar_pos c
                rw [List.length_append] at hn
                omega
              rw [← ih _ hlt htail rfl, encode, encode, List.flatMap_cons]

/-! ### An ASCII byte at the end -/

/-- After an ASCII byte nothing is open, and what was found before stays. -/
lemma scanFrom_append_ascii {b : UInt8} (hb : b < 0x80) {s : State}
    (hs : IsWide s) (bytes : List UInt8) :
    scanFrom s (bytes ++ [b]) =
      scanFrom s bytes ++ [some (Char.ofNat b.toNat)] := by
  induction bytes generalizing s with
  | nil =>
      have hclosed : s = .between ∨
          ∃ n lo hi bits, s = .inside n lo hi bits ∧ 0x80 ≤ lo := by
        cases s with
        | between => exact .inl rfl
        | inside owed low high bits =>
            exact .inr ⟨_, _, _, _, rfl, UInt8.le_iff_toNat_le.2 hs.1⟩
      rw [List.nil_append, scanFrom_cons, step_ascii hb s hclosed, scanFrom_nil,
        scanFrom_nil]
      exact List.append_nil _
  | cons x bytes ih =>
      rw [List.cons_append, scanFrom_cons, scanFrom_cons,
        ih (isWide_step hs x), List.append_assoc]

lemma scan_append_ascii {b : UInt8} (hb : b < 0x80) (bytes : List UInt8) :
    scan (bytes ++ [b]) = scan bytes ++ [some (Char.ofNat b.toNat)] :=
  scanFrom_append_ascii (s := .between) hb trivial bytes

lemma decodeLossy_append_ascii {b : UInt8} (hb : b < 0x80)
    (bytes : List UInt8) :
    decodeLossy (bytes ++ [b]) =
      decodeLossy bytes ++ [Char.ofNat b.toNat] := by
  rw [decodeLossy, scan_append_ascii hb, List.map_append]
  rfl

/-- Bytes with an ASCII byte after them are text if they are it alone. -/
lemma decode_append_ascii {b : UInt8} (hb : b < 0x80) (bytes : List UInt8) :
    decode (bytes ++ [b]) =
      (decode bytes).map (· ++ [Char.ofNat b.toNat]) := by
  rw [decode, decode, scan_append_ascii hb]
  simp only [List.all_append, List.filterMap_append]
  cases (scan bytes).all Option.isSome <;> rfl

end BitProbe.Text.Utf8

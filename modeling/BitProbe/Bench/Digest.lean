import BitProbe.Instances

/-!
Digests and sums of octets.

A message is followed by one bit that is set, by zeros and by its length in
bits, so that it fills whole blocks; a digest is changed by one block after
another. The numbers that the longer digests start with and add are parts of
the roots of the first primes. Short sums show accidents.

* `zeros`: how many zeros there are, the fewest that fill a block
  (`zeros_minimal`);
* `padded`: a message with what follows it, which fills whole blocks
  (`size_padded_mod`);
* `wordAt`: the number that some bytes make;
* `Md5.digest`: the digest of 128 bits (`Md5.size_digest`);
* `Sha1.digest`: the digest of 160 bits;
* `rootPart`: bits after the point of a root;
* `Sha2`, `Sha2.digest`: digests by the lengths of words and of results, which
  are `sha224`, `sha256`, `sha384` and `sha512`;
* `Sm3.digest`: another digest of 256 bits;
* `Blake2.digest`: digests of any number of bytes up to sixty-four;
* `cyclic`, `turning`, `folding`: sums of 32 and 16 bits.
-/

namespace BitProbe.Bench.Digest

/-! ### Messages in blocks -/

/-- How many zeros follow a message of some bytes, if its length takes so many
bytes. -/
def zeros (block lengthBytes size : Nat) : Nat :=
  (block - (size + 1 + lengthBytes) % block) % block

/-- The fewest zeros fill a block. -/
theorem zeros_minimal {block lengthBytes size n : Nat} (hb : 0 < block)
    (h : (size + 1 + n + lengthBytes) % block = 0) :
    zeros block lengthBytes size ≤ n := by
  unfold zeros
  have hr := Nat.mod_lt (size + 1 + lengthBytes) hb
  have hm := Nat.mod_add_div (size + 1 + lengthBytes) block
  by_cases h0 : (size + 1 + lengthBytes) % block = 0
  · simp [h0]
  · rw [Nat.mod_eq_of_lt (by omega)]
    have hn : ((size + 1 + lengthBytes) % block + n) % block = 0 := by
      rw [Nat.add_mod, Nat.mod_mod, ← Nat.add_mod]
      rw [show size + 1 + lengthBytes + n = size + 1 + n + lengthBytes by omega]
      exact h
    by_cases hlt : (size + 1 + lengthBytes) % block + n < block
    · rw [Nat.mod_eq_of_lt hlt] at hn
      omega
    · omega

/-- The bytes of a number, the lowest first. -/
def lowFirst (count n : Nat) : Array UInt8 :=
  Array.ofFn fun i : Fin count => UInt8.ofNat (n / 256 ^ i.val)

/-- The bytes of a number, the highest first. -/
def highFirst (count n : Nat) : Array UInt8 :=
  Array.ofFn fun i : Fin count => UInt8.ofNat (n / 256 ^ (count - 1 - i.val))

/-- A message with what follows it; whether the highest byte of its length
comes first. -/
def padded (block lengthBytes : Nat) (isHighFirst : Bool)
    (message : Array UInt8) : Array UInt8 :=
  let bits := 8 * message.size
  message.push 0x80 ++
    Array.replicate (zeros block lengthBytes message.size) (0 : UInt8) ++
    (if isHighFirst then highFirst lengthBytes bits
      else lowFirst lengthBytes bits)

/-- A message with what follows it fills whole blocks. -/
theorem size_padded_mod {block : Nat} (hb : 0 < block) (lengthBytes : Nat)
    (isHighFirst : Bool) (message : Array UInt8) :
    (padded block lengthBytes isHighFirst message).size % block = 0 := by
  have hs : (padded block lengthBytes isHighFirst message).size =
      message.size + 1 + zeros block lengthBytes message.size + lengthBytes := by
    cases isHighFirst <;> simp [padded, highFirst, lowFirst, Nat.add_assoc]
  rw [hs]
  unfold zeros
  have hr := Nat.mod_lt (message.size + 1 + lengthBytes) hb
  have hm := Nat.mod_add_div (message.size + 1 + lengthBytes) block
  by_cases h0 : (message.size + 1 + lengthBytes) % block = 0
  · rw [h0]
    simp only [Nat.sub_zero, Nat.mod_self]
    rw [show message.size + 1 + 0 + lengthBytes =
      message.size + 1 + lengthBytes by omega]
    exact h0
  · rw [Nat.mod_eq_of_lt (by omega : block -
      (message.size + 1 + lengthBytes) % block < block)]
    rw [show message.size + 1 + (block - (message.size + 1 + lengthBytes) %
      block) + lengthBytes = block + block *
        ((message.size + 1 + lengthBytes) / block) by omega]
    simp

/-- The number that so many bytes from a place on make; whether the highest
byte comes first. -/
def wordAt (isHighFirst : Bool) (count : Nat) (bytes : Array UInt8)
    (start : Nat) : UInt64 :=
  (List.range count).foldl (fun n i =>
    let i := if isHighFirst then i else count - 1 - i
    (n <<< 8) ||| (bytes.getD (start + i) 0).toUInt64) 0

/-- The words of a block. -/
def wordsAt (isHighFirst : Bool) (count words : Nat) (bytes : Array UInt8)
    (start : Nat) : Array UInt64 :=
  (Array.range words).map fun i =>
    wordAt isHighFirst count bytes (start + i * count)

/-- A state that each block of some bytes changes. -/
def overBlocks {σ : Type} (block : Nat) (step : σ → Array UInt8 → Nat → σ)
    (start : σ) (bytes : Array UInt8) : σ :=
  (List.range (bytes.size / block)).foldl (fun s i => step s bytes (i * block))
    start

/-! ### 128 bits -/

namespace Md5

/-- Four words that a message changes. -/
structure State where
  a : UInt32
  b : UInt32
  c : UInt32
  d : UInt32

/-- The words before a message. -/
def start : State := ⟨0x67452301, 0xEFCDAB89, 0x98BADCFE, 0x10325476⟩

/-- The words that the steps add: parts of the sines of whole numbers. -/
def sines : Array UInt32 :=
  #[0xD76AA478, 0xE8C7B756, 0x242070DB, 0xC1BDCEEE, 0xF57C0FAF, 0x4787C62A,
    0xA8304613, 0xFD469501, 0x698098D8, 0x8B44F7AF, 0xFFFF5BB1, 0x895CD7BE,
    0x6B901122, 0xFD987193, 0xA679438E, 0x49B40821, 0xF61E2562, 0xC040B340,
    0x265E5A51, 0xE9B6C7AA, 0xD62F105D, 0x02441453, 0xD8A1E681, 0xE7D3FBC8,
    0x21E1CDE6, 0xC33707D6, 0xF4D50D87, 0x455A14ED, 0xA9E3E905, 0xFCEFA3F8,
    0x676F02D9, 0x8D2A4C8A, 0xFFFA3942, 0x8771F681, 0x6D9D6122, 0xFDE5380C,
    0xA4BEEA44, 0x4BDECFA9, 0xF6BB4B60, 0xBEBFBC70, 0x289B7EC6, 0xEAA127FA,
    0xD4EF3085, 0x04881D05, 0xD9D4D039, 0xE6DB99E5, 0x1FA27CF8, 0xC4AC5665,
    0xF4292244, 0x432AFF97, 0xAB9423A7, 0xFC93A039, 0x655B59C3, 0x8F0CCC92,
    0xFFEFF47D, 0x85845DD1, 0x6FA87E4F, 0xFE2CE6E0, 0xA3014314, 0x4E0811A1,
    0xF7537E82, 0xBD3AF235, 0x2AD7D2BB, 0xEB86D391]

/-- How far the steps of each quarter turn words. -/
def turns : Array (Array UInt32) :=
  #[#[7, 12, 17, 22], #[5, 9, 14, 20], #[4, 11, 16, 23], #[6, 10, 15, 21]]

/-- A word turned to the left. -/
def turn (x n : UInt32) : UInt32 := (x <<< n) ||| (x >>> (32 - n))

/-- A step with the words of a block. -/
def round (words : Array UInt64) (s : State) (i : Nat) : State :=
  let quarter := i / 16
  let (f, k) : UInt32 × Nat :=
    match quarter with
    | 0 => ((s.b &&& s.c) ||| (~~~s.b &&& s.d), i)
    | 1 => ((s.d &&& s.b) ||| (~~~s.d &&& s.c), (5 * i + 1) % 16)
    | 2 => (s.b ^^^ s.c ^^^ s.d, (3 * i + 5) % 16)
    | _ => (s.c ^^^ (s.b ||| ~~~s.d), 7 * i % 16)
  let sum := s.a + f + sines.getD i 0 + (words.getD k 0).toUInt32
  ⟨s.d, s.b + turn sum ((turns.getD quarter #[]).getD (i % 4) 0), s.b, s.c⟩

/-- The words after a block. -/
def block (s : State) (bytes : Array UInt8) (place : Nat) : State :=
  let words := wordsAt false 4 16 bytes place
  let t := (List.range 64).foldl (round words) s
  ⟨s.a + t.a, s.b + t.b, s.c + t.c, s.d + t.d⟩

/-- The digest of a message. -/
def digest (message : Array UInt8) : Array UInt8 :=
  let s := overBlocks 64 block start (padded 64 8 false message)
  lowFirst 4 s.a.toNat ++ lowFirst 4 s.b.toNat ++ lowFirst 4 s.c.toNat ++
    lowFirst 4 s.d.toNat

/-- Every digest has sixteen bytes. -/
theorem size_digest (message : Array UInt8) : (digest message).size = 16 := by
  simp [digest, lowFirst]

end Md5

/-! ### 160 bits -/

namespace Sha1

/-- Five words that a message changes. -/
structure State where
  a : UInt32
  b : UInt32
  c : UInt32
  d : UInt32
  e : UInt32

/-- The words before a message. -/
def start : State :=
  ⟨0x67452301, 0xEFCDAB89, 0x98BADCFE, 0x10325476, 0xC3D2E1F0⟩

/-- A word turned to the left. -/
def turn (x n : UInt32) : UInt32 := (x <<< n) ||| (x >>> (32 - n))

/-- The words of a block and those that follow from them. -/
def schedule (bytes : Array UInt8) (place : Nat) : Array UInt32 :=
  (List.range 64).foldl (fun w i =>
    let at_ (k : Nat) : UInt32 := w.getD (i + 16 - k) 0
    w.push (turn (at_ 3 ^^^ at_ 8 ^^^ at_ 14 ^^^ at_ 16) 1))
    ((wordsAt true 4 16 bytes place).map (·.toUInt32))

/-- A step with the words of a block. -/
def round (words : Array UInt32) (s : State) (i : Nat) : State :=
  let (f, k) : UInt32 × UInt32 :=
    match i / 20 with
    | 0 => ((s.b &&& s.c) ||| (~~~s.b &&& s.d), 0x5A827999)
    | 1 => (s.b ^^^ s.c ^^^ s.d, 0x6ED9EBA1)
    | 2 => ((s.b &&& s.c) ||| (s.b &&& s.d) ||| (s.c &&& s.d), 0x8F1BBCDC)
    | _ => (s.b ^^^ s.c ^^^ s.d, 0xCA62C1D6)
  ⟨turn s.a 5 + f + s.e + k + words.getD i 0, s.a, turn s.b 30, s.c, s.d⟩

/-- The words after a block. -/
def block (s : State) (bytes : Array UInt8) (place : Nat) : State :=
  let t := (List.range 80).foldl (round (schedule bytes place)) s
  ⟨s.a + t.a, s.b + t.b, s.c + t.c, s.d + t.d, s.e + t.e⟩

/-- The digest of a message. -/
def digest (message : Array UInt8) : Array UInt8 :=
  let s := overBlocks 64 block start (padded 64 8 true message)
  [s.a, s.b, s.c, s.d, s.e].toArray.flatMap fun w => highFirst 4 w.toNat

end Sha1

/-! ### Roots of primes -/

/-- The largest number below a bound whose power does not exceed another
number, found bit by bit. -/
def root (power n : Nat) : Nat → Nat → Nat
  | 0, found => found
  | bit + 1, found =>
    let next := found + 2 ^ bit
    root power n bit (if next ^ power ≤ n then next else found)

/-- So many bits after the point of a root. -/
def rootPart (power bits n : Nat) : UInt64 :=
  UInt64.ofNat (root power (n * 2 ^ (power * bits)) (bits + 10) 0 % 2 ^ bits)

/-- The first eighty primes. -/
def primes : List Nat :=
  ((List.range 410).filter fun n =>
    2 ≤ n && (List.range n).all fun d => d < 2 || n % d ≠ 0).take 80

/-! ### 224 to 512 bits -/

/-- A digest by the lengths of its words and what is done with them. -/
structure Sha2 where
  bits : UInt64
  rounds : Nat
  /-- How far words are turned in the two sums of a step, and in the two of
  the words that follow from others; the last of the latter are shifted. -/
  upper : UInt64 × UInt64 × UInt64
  lower : UInt64 × UInt64 × UInt64
  older : UInt64 × UInt64 × UInt64
  newer : UInt64 × UInt64 × UInt64
  constants : Array UInt64
  start : Array UInt64
  /-- How many bytes the result has. -/
  size : Nat

namespace Sha2

/-- A word without the bits that it has no place for. -/
def cut (k : Sha2) (x : UInt64) : UInt64 :=
  if k.bits = 32 then x &&& 0xFFFFFFFF else x

/-- A word turned to the right. -/
def turn (k : Sha2) (x n : UInt64) : UInt64 :=
  k.cut ((x >>> n) ||| (x <<< (k.bits - n)))

/-- A word turned in three ways. -/
def sum (k : Sha2) (n : UInt64 × UInt64 × UInt64) (x : UInt64) : UInt64 :=
  k.turn x n.1 ^^^ k.turn x n.2.1 ^^^ k.turn x n.2.2

/-- A word turned in two ways and shifted. -/
def mix (k : Sha2) (n : UInt64 × UInt64 × UInt64) (x : UInt64) : UInt64 :=
  k.turn x n.1 ^^^ k.turn x n.2.1 ^^^ (x >>> n.2.2)

/-- How many bytes a word has. -/
def wordSize (k : Sha2) : Nat := k.bits.toNat / 8

/-- The words of a block and those that follow from them. -/
def schedule (k : Sha2) (bytes : Array UInt8) (place : Nat) : Array UInt64 :=
  (List.range (k.rounds - 16)).foldl (fun w i =>
    let at_ (n : Nat) : UInt64 := w.getD (i + 16 - n) 0
    w.push (k.cut (k.mix k.newer (at_ 2) + at_ 7 + k.mix k.older (at_ 15) +
      at_ 16)))
    (wordsAt true k.wordSize 16 bytes place)

/-- A step with the words of a block. -/
def round (k : Sha2) (words : Array UInt64) (s : Array UInt64) (i : Nat) :
    Array UInt64 :=
  let at_ (n : Nat) : UInt64 := s.getD n 0
  let choice := (at_ 4 &&& at_ 5) ^^^ (k.cut (~~~(at_ 4)) &&& at_ 6)
  let first := at_ 7 + k.sum k.lower (at_ 4) + choice + k.constants.getD i 0 +
    words.getD i 0
  let most := (at_ 0 &&& at_ 1) ^^^ (at_ 0 &&& at_ 2) ^^^ (at_ 1 &&& at_ 2)
  let second := k.sum k.upper (at_ 0) + most
  #[k.cut (first + second), at_ 0, at_ 1, at_ 2, k.cut (at_ 3 + first), at_ 4,
    at_ 5, at_ 6]

/-- The words after a block. -/
def block (k : Sha2) (s : Array UInt64) (bytes : Array UInt8) (place : Nat) :
    Array UInt64 :=
  let t := (List.range k.rounds).foldl (k.round (k.schedule bytes place)) s
  (Array.range 8).map fun i => k.cut (s.getD i 0 + t.getD i 0)

/-- The digest of a message. -/
def digest (k : Sha2) (message : Array UInt8) : Array UInt8 :=
  let w := k.wordSize
  let s := overBlocks (16 * w) k.block k.start
    (padded (16 * w) (2 * w) true message)
  (s.flatMap fun x => highFirst w x.toNat).extract 0 k.size

/-- The digest of 256 bits. -/
def sha256 : Sha2 where
  bits := 32
  rounds := 64
  upper := (2, 13, 22)
  lower := (6, 11, 25)
  older := (7, 18, 3)
  newer := (17, 19, 10)
  constants := ((primes.take 64).map (rootPart 3 32)).toArray
  start := ((primes.take 8).map (rootPart 2 32)).toArray
  size := 32

/-- The digest of 224 bits, which starts with the second halves of longer
words. -/
def sha224 : Sha2 :=
  { sha256 with
    start := (((primes.drop 8).take 8).map fun p =>
      rootPart 2 64 p &&& 0xFFFFFFFF).toArray
    size := 28 }

/-- The digest of 512 bits. -/
def sha512 : Sha2 where
  bits := 64
  rounds := 80
  upper := (28, 34, 39)
  lower := (14, 18, 41)
  older := (1, 8, 7)
  newer := (19, 61, 6)
  constants := (primes.map (rootPart 3 64)).toArray
  start := ((primes.take 8).map (rootPart 2 64)).toArray
  size := 64

/-- The digest of 384 bits. -/
def sha384 : Sha2 :=
  { sha512 with
    start := (((primes.drop 8).take 8).map (rootPart 2 64)).toArray
    size := 48 }

end Sha2

/-! ### Another digest of 256 bits -/

namespace Sm3

/-- The words before a message. -/
def start : Array UInt32 :=
  #[0x7380166F, 0x4914B2B9, 0x172442D7, 0xDA8A0600, 0xA96F30BC, 0x163138AA,
    0xE38DEE4D, 0xB0FB0E4E]

/-- A word turned to the left. -/
def turn (x : UInt32) (n : Nat) : UInt32 :=
  let k := UInt32.ofNat (n % 32)
  if k = 0 then x else (x <<< k) ||| (x >>> (32 - k))

/-- The words of a block and those that follow from them. -/
def schedule (bytes : Array UInt8) (place : Nat) : Array UInt32 :=
  (List.range 52).foldl (fun w i =>
    let at_ (k : Nat) : UInt32 := w.getD (i + 16 - k) 0
    let x := at_ 16 ^^^ at_ 9 ^^^ turn (at_ 3) 15
    w.push ((x ^^^ turn x 15 ^^^ turn x 23) ^^^ turn (at_ 13) 7 ^^^ at_ 6))
    ((wordsAt true 4 16 bytes place).map (·.toUInt32))

/-- A step with the words of a block. -/
def round (w : Array UInt32) (s : Array UInt32) (i : Nat) : Array UInt32 :=
  let v (k : Nat) : UInt32 := s.getD k 0
  let constant : UInt32 := if i < 16 then 0x79CC4519 else 0x7A879D8A
  let first := turn (turn (v 0) 12 + v 4 + turn constant i) 7
  let second := first ^^^ turn (v 0) 12
  let most := if i < 16 then v 0 ^^^ v 1 ^^^ v 2
    else (v 0 &&& v 1) ||| (v 0 &&& v 2) ||| (v 1 &&& v 2)
  let choice := if i < 16 then v 4 ^^^ v 5 ^^^ v 6
    else (v 4 &&& v 5) ||| (~~~(v 4) &&& v 6)
  let a := most + v 3 + second + (w.getD i 0 ^^^ w.getD (i + 4) 0)
  let e := choice + v 7 + first + w.getD i 0
  #[a, v 0, turn (v 1) 9, v 2, e ^^^ turn e 9 ^^^ turn e 17, v 4,
    turn (v 5) 19, v 6]

/-- The words after a block. -/
def block (s : Array UInt32) (bytes : Array UInt8) (place : Nat) :
    Array UInt32 :=
  let t := (List.range 64).foldl (round (schedule bytes place)) s
  (Array.range 8).map fun i => s.getD i 0 ^^^ t.getD i 0

/-- The digest of a message. -/
def digest (message : Array UInt8) : Array UInt8 :=
  (overBlocks 64 block start (padded 64 8 true message)).flatMap fun x =>
    highFirst 4 x.toNat

end Sm3

/-! ### Any number of bytes -/

namespace Blake2

/-- The words before a message of no parameters. -/
def start : Array UInt64 := Sha2.sha512.start

/-- The order of the words of a block in each of ten rounds. -/
def orders : Array (Array Nat) :=
  #[#[0, 1, 2, 3, 4, 5, 6, 7, 8, 9, 10, 11, 12, 13, 14, 15],
    #[14, 10, 4, 8, 9, 15, 13, 6, 1, 12, 0, 2, 11, 7, 5, 3],
    #[11, 8, 12, 0, 5, 2, 15, 13, 10, 14, 3, 6, 7, 1, 9, 4],
    #[7, 9, 3, 1, 13, 12, 11, 14, 2, 6, 5, 10, 4, 0, 15, 8],
    #[9, 0, 5, 7, 2, 4, 10, 15, 14, 1, 11, 12, 6, 8, 3, 13],
    #[2, 12, 6, 10, 0, 11, 8, 3, 4, 13, 7, 5, 15, 14, 1, 9],
    #[12, 5, 1, 15, 14, 13, 4, 10, 0, 7, 6, 3, 9, 2, 8, 11],
    #[13, 11, 7, 14, 12, 1, 3, 9, 5, 0, 15, 4, 8, 6, 2, 10],
    #[6, 15, 14, 9, 11, 3, 0, 8, 12, 2, 13, 7, 1, 4, 10, 5],
    #[10, 2, 8, 4, 7, 6, 1, 5, 15, 11, 9, 14, 3, 12, 13, 0]]

/-- A word turned to the right. -/
def turn (x n : UInt64) : UInt64 := (x >>> n) ||| (x <<< (64 - n))

/-- Four of the words mixed with two others. -/
def mix (v : Array UInt64) (a b c d : Nat) (x y : UInt64) : Array UInt64 :=
  let at_ (i : Nat) : UInt64 := v.getD i 0
  let a₁ := at_ a + at_ b + x
  let d₁ := turn (at_ d ^^^ a₁) 32
  let c₁ := at_ c + d₁
  let b₁ := turn (at_ b ^^^ c₁) 24
  let a₂ := a₁ + b₁ + y
  let d₂ := turn (d₁ ^^^ a₂) 16
  let c₂ := c₁ + d₂
  let b₂ := turn (b₁ ^^^ c₂) 63
  (((v.setIfInBounds a a₂).setIfInBounds b b₂).setIfInBounds c c₂).setIfInBounds
    d d₂

/-- The words that are mixed with one another in a round: columns, and then
diagonals. -/
def groups : List (Nat × Nat × Nat × Nat) :=
  [(0, 4, 8, 12), (1, 5, 9, 13), (2, 6, 10, 14), (3, 7, 11, 15),
   (0, 5, 10, 15), (1, 6, 11, 12), (2, 7, 8, 13), (3, 4, 9, 14)]

/-- The words after a block; how many bytes have been read with it, and
whether it is the last one. -/
def compress (h : Array UInt64) (words : Array UInt64) (read : Nat)
    (isLast : Bool) : Array UInt64 :=
  let v := h ++ start
  let v := v.modify 12 (· ^^^ UInt64.ofNat read)
  let v := v.modify 13 (· ^^^ UInt64.ofNat (read / 2 ^ 64))
  let v := if isLast then v.modify 14 (~~~·) else v
  let v := (List.range 12).foldl (fun v r =>
    let order := orders.getD (r % 10) #[]
    groups.zipIdx.foldl (fun v ((a, b, c, d), i) =>
      mix v a b c d (words.getD (order.getD (2 * i) 0) 0)
        (words.getD (order.getD (2 * i + 1) 0) 0)) v) v
  (Array.range 8).map fun i =>
    h.getD i 0 ^^^ v.getD i 0 ^^^ v.getD (i + 8) 0

/-- The digest of a message, of so many bytes. -/
def digest (size : Nat) (message : Array UInt8) : Array UInt8 :=
  let h := start.modify 0 (· ^^^ UInt64.ofNat (0x01010000 + size))
  let whole := (message.size - 1) / 128
  let h := (List.range whole).foldl (fun h i =>
    compress h (wordsAt false 8 16 message (128 * i)) (128 * (i + 1)) false) h
  let h := compress h (wordsAt false 8 16 message (128 * whole)) message.size
    true
  (h.flatMap fun x => lowFirst 8 x.toNat).extract 0 size

end Blake2

/-! ### Short sums -/

/-- What a byte shifted out of a cyclic sum adds to it. -/
def cyclicEntry (i : Nat) : UInt32 :=
  (List.range 8).foldl (fun (x : UInt32) _ =>
    if x &&& 0x80000000 = 0 then x <<< 1 else (x <<< 1) ^^^ 0x04C11DB7)
    (UInt32.ofNat i <<< 24)

/-- What each byte adds. -/
def cyclicTable : Array UInt32 := ((List.range 256).map cyclicEntry).toArray

/-- A cyclic sum with one more byte. -/
def cyclicStep (x : UInt32) (b : UInt8) : UInt32 :=
  (x <<< 8) ^^^ cyclicTable.getD ((x >>> 24).toUInt8 ^^^ b).toNat 0

/-- The bytes of a length, the lowest first, without zeros at the end. -/
def lengthBytes : Nat → Nat → List UInt8
  | 0, _ => []
  | fuel + 1, n => if n = 0 then [] else UInt8.ofNat n :: lengthBytes fuel (n / 256)

/-- The cyclic sum of bytes and of how many there are. -/
def cyclic (bytes : Array UInt8) : UInt32 :=
  ~~~((lengthBytes 16 bytes.size).foldl cyclicStep
    (bytes.foldl cyclicStep 0))

/-- The sum that is turned before each byte. -/
def turning (bytes : Array UInt8) : UInt16 :=
  bytes.foldl (fun (x : UInt16) b => ((x >>> 1) ||| (x <<< 15)) + b.toUInt16) 0

/-- The sum of all bytes, what is beyond 16 bits being added again. -/
def folding (bytes : Array UInt8) : Nat :=
  let n := bytes.foldl (fun n b => n + b.toNat) 0 % 2 ^ 32
  let r := n % 65536 + n / 65536
  r % 65536 + r / 65536

/-- Nothing has the sum zero. -/
theorem turning_empty : turning #[] = 0 := rfl

end BitProbe.Bench.Digest

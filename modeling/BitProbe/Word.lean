import BitProbe.Text.Numeral

/-!
Instruction words.

A word has 64 bits, numbered from 0 at the low end. A *position* is the
number of a bit; a list of positions reads a second word, the *assignment*,
as one bit for each position in turn.

* `Word.flip`: one bit turned over;
* `Word.clear`, `Word.assign`: the bits at some positions cleared, and then
  set as an assignment says;
* `Word.leBytes`: the eight bytes of a word, lowest first;
* `Word.display`, `Word.read?`: a word as text, and back.
-/

namespace BitProbe

/-- A 64-bit instruction word. -/
abbrev Word := BitVec 64

namespace Word

/-- How many bits a word has. -/
def width : Nat := 64

/-- The word with bit `i` turned over. -/
def flip (w : Word) (i : Nat) : Word :=
  w ^^^ BitVec.twoPow 64 i

/-- The word whose bits are set exactly at the positions listed. -/
def mask (positions : List Nat) : Word :=
  positions.foldl (fun m p => m ||| BitVec.twoPow 64 p) 0#64

/-- The word with every bit listed cleared. -/
def clear (w : Word) (positions : List Nat) : Word :=
  w &&& ~~~ mask positions

/-- The positions whose place in the list is the number of a set bit of the
assignment. -/
def selected (positions : List Nat) (assignment : Word) : List Nat :=
  (positions.zipIdx.filter fun p => assignment.getLsbD p.2).map (·.1)

/-- The word whose bit at the `j`-th position listed is bit `j` of the
assignment, and which is otherwise unchanged. -/
def assign (w : Word) (positions : List Nat) (assignment : Word) : Word :=
  w.clear positions ||| mask (selected positions assignment)

/-- The bytes of a word, lowest first. -/
def leBytes (w : Word) : List UInt8 :=
  (List.range 8).map fun i => UInt8.ofNat (w.toNat / 256 ^ i)

/-- A word as text: `0x` and sixteen digits in base sixteen. -/
def displayChars (w : Word) : List Char :=
  '0' :: 'x' :: Text.hexadecimal 16 w.toNat

/-- A word as text. -/
def display (w : Word) : String :=
  String.ofList w.displayChars

/-- A text without a leading `0x` or `0X`. -/
def afterBaseMark : List Char → List Char
  | '0' :: 'x' :: cs => cs
  | '0' :: 'X' :: cs => cs
  | cs => cs

/-- A text without a leading plus sign. -/
def afterPlus : List Char → List Char
  | '+' :: cs => cs
  | cs => cs

/-- Reads a word: `0x` or `0X` or neither, then at most sixteen characters,
which are digits in base sixteen after a plus sign or none. -/
def read? (cs : List Char) : Option Word :=
  let body := afterBaseMark cs
  if body.length ≤ 16 then
    (Text.hexadecimal? (afterPlus body)).map (BitVec.ofNat 64)
  else none

/-- Every word is written with eighteen characters. -/
@[simp] theorem length_displayChars (w : Word) : w.displayChars.length = 18 := by
  simp [displayChars]

/-- Every word has eight bytes. -/
@[simp] theorem length_leBytes (w : Word) : w.leBytes.length = 8 := by
  simp [leBytes]

/-- A bit of a mask is set exactly when its position is listed. -/
theorem getLsbD_mask (positions : List Nat) (i : Nat) :
    (mask positions).getLsbD i =
      (decide (i < 64) && decide (i ∈ positions)) := by
  have h : ∀ m : Word,
      (positions.foldl (fun m p => m ||| BitVec.twoPow 64 p) m).getLsbD i =
        (m.getLsbD i || (decide (i < 64) && decide (i ∈ positions))) := by
    induction positions with
    | nil => simp
    | cons p ps ih =>
      intro m
      rw [List.foldl_cons, ih, BitVec.getLsbD_or, BitVec.getLsbD_twoPow]
      grind
  rw [mask, h, BitVec.getLsbD_zero, Bool.false_or]

/-- Flipping turns over the one bit. -/
theorem getLsbD_flip (w : Word) (p i : Nat) :
    (w.flip p).getLsbD i =
      (w.getLsbD i ^^ (decide (i < 64) && decide (i = p))) := by
  rw [flip, BitVec.getLsbD_xor, BitVec.getLsbD_twoPow]
  grind

/-- Clearing leaves exactly the bits that are not listed. -/
theorem getLsbD_clear (w : Word) (positions : List Nat) (i : Nat) :
    (w.clear positions).getLsbD i =
      (w.getLsbD i && !decide (i ∈ positions)) := by
  rw [clear, BitVec.getLsbD_and, BitVec.getLsbD_not, getLsbD_mask]
  by_cases h : i < 64
  · simp [h]
  · simp [BitVec.getLsbD_of_ge w i (by omega)]

end Word

end BitProbe

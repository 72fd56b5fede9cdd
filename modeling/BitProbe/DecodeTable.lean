import BitProbe.Sorted.Map
import BitProbe.Sweep

/-!
Decode tables.

The modifier bits of an instruction, k of them, take 2^k assignments. A
decode table lists the text that the oracle decodes for each assignment it
accepts. Bit j of an assignment stands at the j-th position, and positions
ascend.

* `DecodeTable`: the table, with `space`, `assignmentBits` and `label`;
* `DecodeTable.ofAnswers`: the table that given answers make;
* `DecodeTable.run`: the table that an oracle makes, by ascending
  assignment.

A field of more than `positionsCeiling` bits is never enumerated.
-/

namespace BitProbe

/-- The decoded texts of the assignments of an instruction's modifier
bits. -/
structure DecodeTable where
  /-- The line of the listing that the instruction stands on. -/
  line : Nat
  opcode : String
  encoding : Word
  /-- The positions of the bits. -/
  positions : List Nat
  /-- How many assignments the oracle was asked about. -/
  queries : Nat
  /-- The texts of the assignments that are decoded. -/
  entries : SortedMap Nat String
  /-- Whether there were too many bits to ask at all. -/
  skipped : Bool
  /-- Whether the oracle failed on the way, so that assignments were left
  out. -/
  aborted : Bool
  deriving DecidableEq

namespace DecodeTable

/-- The largest number of bits whose assignments are ever enumerated. -/
def positionsCeiling : Nat := 32

/-- How many assignments there are, if a word can hold that number. -/
def space (t : DecodeTable) : Option Nat :=
  if t.positions.length < 64 then some (2 ^ t.positions.length) else none

/-- An assignment as one bit for each position. -/
def assignmentBits (t : DecodeTable) (value : Nat) : List Bool :=
  (List.range t.positions.length).map value.testBit

/-- An assignment in base two, the highest position first. -/
def label (t : DecodeTable) (value : Nat) : String :=
  String.ofList (Text.binary t.positions.length value)

/-- The table of an instruction before any question. -/
def blank (line : Nat) (opcode : String) (encoding : Word)
    (positions : List Nat) : DecodeTable where
  line
  opcode
  encoding
  positions
  queries := 0
  entries := ∅
  skipped := false
  aborted := false

/-- The text that an answer enters into a table: the tokens of the line that
counts, if there are enough of them. -/
def rendering (c : Criteria) : Option Answer → Option String
  | some (.ok output) => (c.tokens output).map (String.intercalate " ")
  | _ => none

/-- The texts that answers enter, under the numbers from `first` on. -/
def entriesFrom (c : Criteria) (first : Nat)
    (answers : List (Option Answer)) : SortedMap Nat String :=
  (answers.zipIdx first).foldr (fun a m =>
    match rendering c a.1 with
    | some text => m.insert a.2 text
    | none => m) ∅

/-- The table that the oracle's answers make, one for each assignment that
was asked about, from zero. -/
def ofAnswers (c : Criteria) (t : DecodeTable)
    (answers : List (Option Answer)) : DecodeTable :=
  { t with
    queries := answers.countP Option.isSome
    entries := entriesFrom c 0 answers
    aborted := answers.any fun a => a.any Answer.isFailure }

/-- The words that agree with `w` outside the positions, by ascending
assignment. -/
def variants (w : Word) (positions : List Nat) : List Word :=
  (List.range (2 ^ positions.length)).map fun v =>
    w.assign positions (BitVec.ofNat 64 v)

/-- The table that an oracle makes of an instruction: the assignments are
asked about from zero on, up to the first process failure. With more than
`maxBits` positions the table is skipped. -/
def run {σ : Type} (c : Criteria) (maxBits : Nat) (o : Oracle σ)
    (line : Nat) (opcode : String) (encoding : Word) (positions : List Nat)
    (s : σ) : DecodeTable × σ :=
  let t := blank line opcode encoding (SortedSet.ofList positions).toList
  if min maxBits positionsCeiling < t.positions.length then
    ({ t with skipped := true }, s)
  else
    let words := variants encoding t.positions
    let (answers, s) := o.ask words s
    (t.ofAnswers c (Sweep.padded words.length answers), s)

end DecodeTable

end BitProbe

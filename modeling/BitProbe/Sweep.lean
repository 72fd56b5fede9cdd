import BitProbe.Alias
import BitProbe.Instruction.Reading
import BitProbe.Oracle
import BitProbe.Profile

/-!
Sweeping the bits of one instruction.

Each bit of a known instruction, the baseline, is flipped in turn, and the
decoded text of the mutant is compared with the baseline. The bit belongs to
the opcode field if the mnemonic changes, to a modifier field if only the
modifiers do.

* `Criteria`: what a comparison goes by;
* `Verdict.ofOutput`, `Verdict.ofAnswer`: the verdict on one mutant;
* `Sweep`: the verdicts on all bits, and what follows from them;
* `Sweep.ofAnswers`: the sweep that given answers make;
* `Sweep.run`: the sweep that an oracle makes, bit by bit from the lowest.
-/

namespace BitProbe

/-- What flipping a bit shows it to be. -/
inductive BitClass where
  /-- The mnemonic changes, also up to aliases. -/
  | opcode
  /-- The mnemonic stays, the modifiers change. -/
  | modifier
  /-- The mutant is decoded, and nothing that is compared changes. -/
  | unclassified
  /-- The mutant is not decoded. -/
  | invalid
  deriving DecidableEq, Repr

namespace BitClass

/-- Every class. -/
def all : List BitClass :=
  [opcode, modifier, unclassified, invalid]

/-- A class as a word. -/
def display : BitClass → String
  | opcode => "opcode"
  | modifier => "modifier"
  | unclassified => "unclassified"
  | invalid => "invalid"

/-- A class as the name it has in a report. -/
def name : BitClass → String
  | opcode => "OpcodeField"
  | modifier => "ModifierField"
  | unclassified => "Unclassified"
  | invalid => "Invalid"

/-- A class as one letter. -/
def letter : BitClass → Char
  | opcode => 'O'
  | modifier => 'M'
  | unclassified => '.'
  | invalid => 'x'

/-- Different classes have different letters. -/
theorem letter_inj {a b : BitClass} : a.letter = b.letter ↔ a = b := by
  cases a <;> cases b <;> decide

end BitClass

/-- A change of mnemonic: flipping bit `bit` makes `new` of `old`. -/
structure OpcodeChange where
  old : String
  new : String
  bit : Nat
  deriving DecidableEq, Repr

/-- What a comparison goes by. -/
structure Criteria where
  /-- The number of the output line that counts, from zero. -/
  lineIndex : Nat
  /-- A line with fewer tokens says nothing. -/
  minTokens : Nat
  /-- The mnemonics that count as equal. -/
  aliases : AliasTable

/-- The tokens of the line that counts, if there are enough. -/
def Criteria.tokens (c : Criteria) (output : String) :
    Option (List String) :=
  match selectedTokens c.lineIndex output with
  | none => none
  | some tokens => if c.minTokens ≤ tokens.length then some tokens else none

/-- The verdict on one mutant. -/
inductive Verdict where
  /-- The mnemonic has changed to `new`. -/
  | opcode (new : String)
  | modifier
  | unclassified
  | invalid
  deriving DecidableEq, Repr

namespace Verdict

/-- The class of a verdict. -/
def bitClass : Verdict → BitClass
  | opcode _ => .opcode
  | modifier => .modifier
  | unclassified => .unclassified
  | invalid => .invalid

/-- The change that a verdict on a bit records. -/
def change (baseline : Instruction) (bit : Nat) :
    Verdict → Option OpcodeChange
  | opcode new => some ⟨baseline.opcode, new, bit⟩
  | _ => none

/-- The verdict on a mutant that was decoded. -/
def ofOutput (c : Criteria) (baseline : Instruction) (output : String) :
    Verdict :=
  match c.tokens output with
  | none => .unclassified
  | some tokens =>
    match Instruction.ofTokens tokens with
    | .error _ => .unclassified
    | .ok mutant =>
      if !c.aliases.equivalent mutant.opcode baseline.opcode then
        .opcode mutant.opcode
      else if mutant.modifiers ≠ baseline.modifiers then .modifier
      else .unclassified

/-- The verdict on a mutant, from the oracle's answer if it was asked. -/
def ofAnswer (c : Criteria) (baseline : Instruction) :
    Option Answer → Verdict
  | some (.ok output) => ofOutput c baseline output
  | some (.error _) => .invalid
  | none => .invalid

end Verdict

/-- The verdicts on the bits of one instruction. -/
structure Sweep where
  baseline : Instruction
  /-- The class of each bit, from the lowest. -/
  classes : List BitClass
  /-- The changes of mnemonic, by ascending bit. -/
  opcodeChanges : List OpcodeChange
  opcodeBits : SortedSet Nat
  modifierBits : SortedSet Nat
  /-- Whether the oracle failed on the way, so that bits were left out. -/
  aborted : Bool

/-- The letters of classes, the highest bit first. -/
def bitmapOf (classes : List BitClass) : String :=
  String.ofList (classes.reverse.map BitClass.letter)

/-- The numbers of the verdicts with a given class. -/
def bitsOf (cls : BitClass) (verdicts : List Verdict) : List Nat :=
  (verdicts.zipIdx.filter fun v => v.1.bitClass = cls).map (·.2)

namespace Sweep

/-- How many bits have a class. -/
def count (s : Sweep) (cls : BitClass) : Nat :=
  s.classes.count cls

/-- The letters of all bits, the highest first. -/
def bitmap (s : Sweep) : String :=
  bitmapOf s.classes

/-- The class of one bit. -/
def classOf? (s : Sweep) (bit : Nat) : Option BitClass :=
  s.classes[bit]?

/-- The sweep that verdicts on the bits make, from the lowest bit. -/
def ofVerdicts (baseline : Instruction) (verdicts : List Verdict)
    (aborted : Bool) : Sweep where
  baseline
  classes := verdicts.map Verdict.bitClass
  opcodeChanges := verdicts.zipIdx.filterMap fun v => v.1.change baseline v.2
  opcodeBits := .ofList (bitsOf .opcode verdicts)
  modifierBits := .ofList (bitsOf .modifier verdicts)
  aborted

/-- The sweep that the oracle's answers make, one for each bit that was
asked about, from the lowest bit. -/
def ofAnswers (c : Criteria) (baseline : Instruction)
    (answers : List (Option Answer)) : Sweep :=
  ofVerdicts baseline (answers.map (Verdict.ofAnswer c baseline))
    (answers.any fun a => a.any Answer.isFailure)

/-- The mutants of a word, one for each bit. -/
def mutants (w : Word) : List Word :=
  (List.range Word.width).map w.flip

/-- Answers as one for each of `n` questions, the last of which may not have
been asked. -/
def padded (n : Nat) (answers : List Answer) : List (Option Answer) :=
  answers.map some ++ List.replicate (n - answers.length) none

/-- The sweep that an oracle makes: the bits are asked about from the lowest
to the highest, up to the first process failure. -/
def run {σ : Type} (c : Criteria) (o : Oracle σ) (baseline : Instruction)
    (s : σ) : Sweep × σ :=
  let (answers, s) := o.ask (mutants baseline.encoding) s
  (ofAnswers c baseline (padded Word.width answers), s)

end Sweep

end BitProbe

import BitProbe.Sorted.Set
import BitProbe.Word

/-!
Decoded instructions.

An instruction is what one line of disassembly says: an optional guard
predicate, a mnemonic with a set of modifiers, the operands in their order,
and the word that the line was decoded from.

* `Instruction.head`: the mnemonic and its modifiers as one token;
* `Instruction.display`: the instruction as one line.
-/

namespace BitProbe

/-- What one line of disassembly says. -/
structure Instruction where
  /-- The guard predicate, such as `@P0` or `@!P1`. -/
  predicate : Option String
  /-- The mnemonic without its modifiers. -/
  opcode : String
  /-- The qualifiers that follow the mnemonic; their order says nothing. -/
  modifiers : SortedSet String
  /-- The operands, without the punctuation between them. -/
  operands : List String
  /-- The word that the line was decoded from. -/
  encoding : Word
  /-- How many tokens the line had. -/
  tokenCount : Nat
  deriving DecidableEq

namespace Instruction

/-- The mnemonic and its modifiers, each after a dot, in ascending order. -/
def head (i : Instruction) : String :=
  i.opcode ++ String.join (i.modifiers.toList.map ("." ++ ·))

/-- The instruction as one line of disassembly. -/
def display (i : Instruction) : String :=
  (match i.predicate with
    | some p => p ++ " "
    | none => "") ++
  i.head ++
  (if i.operands.isEmpty then ""
    else " " ++ String.intercalate ", " i.operands) ++
  "; /* " ++ i.encoding.display ++ " */"

end Instruction

end BitProbe

import BitProbe.Sorted.Map
import BitProbe.Sweep

/-!
The fields that sweeps have shown.

Opcode bits are collected from all sweeps, since one instruction confirms a
bit for all. Modifier bits stay with the line whose instruction showed them.

* `FieldMap`, `FieldMap.record`: what is known, and learning from a sweep;
* `FieldMap.modifierBitsOf`: the modifier bits of one line.
-/

namespace BitProbe

/-- The modifier bits of one instruction. -/
structure ModifierBits where
  opcode : String
  encoding : Word
  /-- The positions of the bits, ascending. -/
  positions : List Nat
  deriving DecidableEq

/-- What sweeps have shown. -/
structure FieldMap where
  opcodeBits : SortedSet Nat
  /-- Every change of mnemonic, in the order in which it was seen. -/
  opcodeChanges : List OpcodeChange
  /-- The modifier bits by line; a line without any is absent. -/
  modifierBits : SortedMap Nat ModifierBits
  deriving DecidableEq

namespace FieldMap

instance : EmptyCollection FieldMap where
  emptyCollection := ⟨∅, [], ∅⟩

/-- What is known once the sweep of a line is added. A sweep without modifier
bits says nothing about its line. -/
def record (m : FieldMap) (line : Nat) (s : Sweep) : FieldMap where
  opcodeBits := m.opcodeBits.union s.opcodeBits
  opcodeChanges := m.opcodeChanges ++ s.opcodeChanges
  modifierBits :=
    if s.modifierBits.isEmpty then m.modifierBits
    else m.modifierBits.insert line
      ⟨s.baseline.opcode, s.baseline.encoding, s.modifierBits.toList⟩

/-- The modifier bits of a line, if it has shown any. -/
def modifierBitsOf (m : FieldMap) (line : Nat) : Option ModifierBits :=
  m.modifierBits.find? line

end FieldMap

end BitProbe

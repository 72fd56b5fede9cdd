import BitProbe.Failure
import BitProbe.Text.Numeral
import BitProbe.Text.Utf8

/-!
Octets.

Programs pass bytes to one another. On the bench a byte is held as the
character with its number, so that the literals of program texts stand for
their bytes, and a text that is no UTF-8 is nothing special.

* `Octets`, with `ofBytes`, `toBytes`, `ofString`, `toText`;
* `Octets.toBytes_ofBytes`: bytes are kept as they are;
* `Stream`: octets to be read, some of which may go on for ever.
-/

namespace BitProbe.Bench

/-- Bytes, each held as the character with its number. -/
abbrev Octets := List Char

namespace Octets

/-- Bytes as octets. -/
def ofBytes (bytes : List UInt8) : Octets :=
  bytes.map fun b => Char.ofNat b.toNat

/-- Octets as bytes. -/
def toBytes (o : Octets) : List UInt8 :=
  o.map fun c => UInt8.ofNat c.toNat

/-- The octets of a text. -/
def ofString (s : String) : Octets :=
  ofBytes (Text.Utf8.encode s.toList)

/-- Octets read as a text. -/
def toText (o : Octets) : String :=
  String.ofList (Text.Utf8.decodeLossy o.toBytes)

/-- A byte is the number of its character. -/
theorem ofNat_toNat_ofNat (b : UInt8) :
    UInt8.ofNat (Char.ofNat b.toNat).toNat = b := by
  have hb : b.toNat < 256 := b.toNat_lt
  have hv : b.toNat.isValidChar := Or.inl (by omega)
  have h : (Char.ofNat b.toNat).toNat = b.toNat := by
    unfold Char.ofNat
    rw [dif_pos hv]
    rfl
  rw [h]
  simp

/-- Bytes are kept as they are. -/
@[simp] theorem toBytes_ofBytes (bytes : List UInt8) :
    toBytes (ofBytes bytes) = bytes := by
  simp [toBytes, ofBytes, Function.comp_def, ofNat_toNat_ofNat]

/-- Text that is cut after each octet that ends a line. -/
def linesBy (ending : Char) (o : Octets) : List Octets :=
  let parts := o.splitOn ending
  parts.dropLast.map (· ++ [ending]) ++
    (parts.getLast?.toList.filter fun l => !l.isEmpty)

/-- Text that is cut after each line feed. -/
def lines (o : Octets) : List Octets := linesBy '\n' o

/-- A line without its end. -/
def withoutEnd (ending : Char) (l : Octets) : Octets :=
  if l.getLast? = some ending then l.dropLast else l

end Octets

/-- Octets to be read: first those held, and then others over and over again
if there are any. -/
structure Stream where
  held : Octets
  forever : Octets := []
  /-- The size of the file that the octets come from, if it is one. -/
  fileSize : Option Nat := none
  /-- Why nothing can be read, if that is so. -/
  fault : Option FileError := none
  /-- Whether one can go to any place in it, whatever it holds. -/
  isDevice : Bool := false

namespace Stream

/-- A stream without octets. -/
def empty : Stream := { held := [] }

/-- What can be read from a device that has nothing to be read. -/
def device : Stream := { held := [], isDevice := true }

/-- Octets that are all of a stream. -/
def ofOctets (o : Octets) : Stream := { held := o }

/-- The octets of a file. -/
def ofFile (o : Octets) : Stream :=
  { held := o, fileSize := some o.length }

/-- Octets over and over again. -/
def endless (o : Octets) : Stream := { held := [], forever := o }

/-- A stream that nothing can be read from. -/
def faulty (e : FileError) : Stream := { held := [], fault := some e }

/-- Whether a stream never ends. -/
def isEndless (s : Stream) : Bool := !s.forever.isEmpty

/-- The first octets of a stream, and the rest. -/
def split (s : Stream) (n : Nat) : Octets × Stream :=
  let more := n - s.held.length
  let turns := more / s.forever.length
  let part := more % s.forever.length
  (s.held.take n ++ ((List.replicate turns s.forever).flatten ++
      s.forever.take part),
    { s with
      held := s.held.drop n
      forever := s.forever.drop part ++ s.forever.take part })

/-- A stream from which everything has been read. -/
def spent (s : Stream) : Stream := { s with held := [] }

/-- One stream after another. -/
def append (s t : Stream) : Stream :=
  if s.isEndless then s
  else { t with held := s.held ++ t.held, fileSize := none }

/-- A stream with every octet replaced. -/
def map (f : Char → Char) (s : Stream) : Stream :=
  { s with held := s.held.map f, forever := s.forever.map f }

/-- A stream of the octets alone that satisfy a test. -/
def filter (p : Char → Bool) (s : Stream) : Stream :=
  { s with held := s.held.filter p, forever := s.forever.filter p }

end Stream

end BitProbe.Bench

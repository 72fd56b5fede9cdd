import BitProbe.Bench.Octets

/-!
Octets written with the digits of an alphabet.

The bits of octets are cut into groups, and each group is a number of digits.
A group that is not full is filled up with a sign that is no digit.

* `Radix`, with `Radix.base64` and others: alphabets;
* `Radix.encode`: octets as digits;
* `Radix.decode`: digits as octets, as far as they are some;
* `Base85`: four octets as five digits.
-/

namespace BitProbe.Bench

/-- A way of writing octets. -/
structure Radix where
  alphabet : Array Char
  /-- How many bits a digit has, and how many digits make a group. -/
  bits : Nat
  digits : Nat
  /-- Whether a group that is not full is filled up. -/
  isFilled : Bool := false
  /-- Whether a group that is not full stands for as many octets as it can,
  although it is wrong. -/
  readsShort : Bool := true
  /-- Whether the first digit of an octet has its lowest bits. -/
  isLowFirst : Bool := false
  /-- Signs that are read as digits although they are never written. -/
  others : List (Char × Nat) := []
  /-- Signs that no text may have. -/
  banned : Octets := []

namespace Radix

/-- Characters one after another. -/
def span (a b : Char) : List Char :=
  (List.range (b.toNat + 1 - a.toNat)).map fun k => Char.ofNat (a.toNat + k)

/-- Capital and small letters and digits. -/
def common : List Char := span 'A' 'Z' ++ span 'a' 'z' ++ span '0' '9'

/-- Six bits a digit. -/
def base64 : Radix :=
  { alphabet := (common ++ ['+', '/']).toArray, bits := 6, digits := 4
    isFilled := true }

/-- Six bits a digit, with other signs. -/
def base64url : Radix :=
  { base64 with
    alphabet := (common ++ ['-', '_']).toArray
    banned := ['+', '/'] }

/-- Five bits a digit. -/
def base32 : Radix :=
  { alphabet := (span 'A' 'Z' ++ span '2' '7').toArray, bits := 5, digits := 8
    isFilled := true, readsShort := false }

/-- Five bits a digit, in the order of numbers. The letters that are digits of
the other order alone are read as those. -/
def base32hex : Radix :=
  { base32 with
    alphabet := (span '0' '9' ++ span 'A' 'V').toArray
    others := [('W', 22), ('X', 23), ('Y', 24), ('Z', 25)] }

/-- Four bits a digit. -/
def base16 : Radix :=
  { alphabet := (span '0' '9' ++ span 'A' 'F').toArray, bits := 4, digits := 2 }

/-- One bit a digit, the highest first. -/
def base2msbf : Radix := { alphabet := #['0', '1'], bits := 1, digits := 8 }

/-- One bit a digit, the lowest first. -/
def base2lsbf : Radix := { base2msbf with isLowFirst := true }

/-- Octets as one number. -/
def number (o : Octets) : Nat := o.foldl (fun n c => n * 256 + c.toNat) 0

/-- The value of a digit. -/
def digit? (r : Radix) (c : Char) : Option Nat := r.alphabet.findIdx? (· = c)

/-- The value of a sign that is read as a digit. -/
def value? (r : Radix) (c : Char) : Option Nat :=
  (r.digit? c).or (r.others.lookup c)

/-- So many octets make a group. -/
def octets (r : Radix) : Nat := r.bits * r.digits / 8

/-- How many digits are needed for so many octets. -/
def needed (r : Radix) (n : Nat) : Nat := (8 * n + r.bits - 1) / r.bits

/-- The digits of a group of octets. -/
def group (r : Radix) (o : Octets) : Octets :=
  let n := number o * 256 ^ (r.octets - o.length)
  let digit (k : Nat) : Char :=
    let shift := if r.isLowFirst then k * r.bits
      else (r.digits - 1 - k) * r.bits
    r.alphabet.getD (n / 2 ^ shift % 2 ^ r.bits) '0'
  let ds := (List.range (r.needed o.length)).map digit
  if r.isFilled then ds.rightpad r.digits '=' else ds

/-- Parts of a list of so many items each, the last one being what is left. -/
def parts {α : Type} (n : Nat) : Nat → List α → List (List α)
  | 0, _ => []
  | _, [] => []
  | fuel + 1, a :: as => (a :: as).take n :: parts n fuel ((a :: as).drop n)

/-- Octets as digits. -/
def encode (r : Radix) (o : Octets) : Octets :=
  (parts r.octets o.length o).flatMap r.group

/-- The first octets of a number that has so many of them. -/
def octetsOf (size count n : Nat) : Octets :=
  (List.range count).map fun k =>
    Char.ofNat (n / 256 ^ (size - 1 - k) % 256)

/-- The octets of a group of digits, and whether there is nothing wrong with
it. -/
def ungroup (r : Radix) (g : Octets) : Octets × Bool :=
  let values := (g.map r.value?).takeWhile Option.isSome
  let vs := (values.filterMap id).rightpad r.digits 0
  let n := (if r.isLowFirst then vs.reverse else vs).foldl
    (fun n v => n * 2 ^ r.bits + v) 0
  let count := values.length * r.bits / 8
  let rest := g.drop values.length
  let isFull := g.length = r.digits
  let isRight := isFull && (rest.isEmpty ||
    r.isFilled && rest.all (· = '=') && 0 < count &&
      r.needed count = values.length)
  (if isFull || r.readsShort then octetsOf r.octets count n else [], isRight)

/-- The octets of groups, up to the first one that is wrong. -/
def ungroupAll (f : Octets → Octets × Bool) :
    List Octets → List Octets → Octets × Bool
  | [], done => (done.reverse.flatten, true)
  | g :: gs, done =>
    match f g with
    | (o, true) => ungroupAll f gs (o :: done)
    | (o, false) => ((o :: done).reverse.flatten, false)

/-- The octets of digits between which lines may end, and whether there is
nothing wrong with them. Signs that are no digits may be passed over. -/
def decode (r : Radix) (lenient : Bool) (o : Octets) : Octets × Bool :=
  let ds := o.filter fun c => c ≠ '\n' && (!lenient ||
    (r.digit? c).isSome || r.isFilled && c = '=')
  if ds.any r.banned.contains then ([], false)
  else ungroupAll r.ungroup (parts r.digits ds.length ds) []

/-- Nothing is written for nothing. -/
theorem encode_nil (r : Radix) : r.encode [] = [] := rfl

/-- A group that is filled up has all of its digits. -/
theorem length_group {r : Radix} (h : r.isFilled = true) (o : Octets) :
    (r.group o).length = max r.digits (r.needed o.length) := by
  simp [group, h, List.rightpad]
  omega

end Radix

namespace Base85

/-- The digits. -/
def alphabet : Array Char :=
  (Radix.span '0' '9' ++ Radix.span 'a' 'z' ++ Radix.span 'A' 'Z' ++
    ['.', '-', ':', '+', '=', '^', '!', '/', '*', '?', '&', '<', '>', '(',
     ')', '[', ']', '\x7b', '\x7d', '@', '%', '$', '#']).toArray

/-- Four octets as five digits. -/
def group (o : Octets) : Octets :=
  (List.range 5).map fun k =>
    alphabet.getD (Radix.number o / 85 ^ (4 - k) % 85) '0'

/-- Octets as digits, if there are four times as many as there are groups. -/
def encode? (o : Octets) : Option Octets :=
  if o.length % 4 = 0 then
    some ((Radix.parts 4 o.length o).flatMap group)
  else none

/-- The octets of a group of digits, and whether there is nothing wrong with
it. -/
def ungroup (g : Octets) : Octets × Bool :=
  match g.mapM fun c => alphabet.findIdx? (· = c) with
  | none => ([], false)
  | some vs =>
    let n := vs.foldl (fun n v => n * 85 + v) 0
    if vs.length = 5 && n < 2 ^ 32 then (Radix.octetsOf 4 4 n, true)
    else ([], false)

/-- The octets of digits, and whether there is nothing wrong with them. -/
def decode (lenient : Bool) (o : Octets) : Octets × Bool :=
  let ds := o.filter fun c => c ≠ '\n' && (!lenient || alphabet.contains c)
  Radix.ungroupAll ungroup (Radix.parts 5 ds.length ds) []

end Base85

end BitProbe.Bench

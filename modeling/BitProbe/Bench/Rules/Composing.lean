import BitProbe.Bench.Compose
import BitProbe.Bench.Rules.Cell

/-!
Texts that rules compose.

Cells are put into the places of a format. A place is for whole numbers, for
fractions, for one octet or for a text, and each takes its cell as that.

* `Composing.Fault`: what can be wrong with a format;
* `Composing.withSign`, `Composing.withoutSign`: numbers as whole ones;
* `Composing.Place`, `Composing.placeAt`: the places of a format;
* `Composing.compose`: the text that a format and cells lead to;
* `Composing.numberText`: a number in a format by itself.
-/

namespace BitProbe.Bench.Rules.Composing

/-- What can be wrong with a format. -/
inductive Fault where
  /-- There are too few arguments. -/
  | tooFew
  /-- The place with a number cannot be filled. -/
  | improper (n : Nat)
  deriving DecidableEq

/-- What is said about a fault in a format. -/
def Fault.message (f : Fault) (who : String) (format : Octets) : Octets :=
  let place := who.toList ++ "(\x22".toList ++ format ++ "\x22)".toList
  match f with
  | tooFew => "not enough arguments passed to ".toList ++ place
  | improper n => "improper conversion(number ".toList ++ Text.decimal n ++
      ") in ".toList ++ place

/-! ### Whole numbers -/

/-- A number as a whole one with a sign. What is too large has none. -/
def withSign (x : Float) : Int :=
  if x.isNaN then -(2 ^ 63)
  else if 9223372036854775808.0 ≤ x then clamped 0 (2 ^ 64 - 1) x
  else clamped leastWhole greatestWhole x

/-- A number as a whole one without a sign: what is less than zero counts from
the greatest one down. -/
def withoutSign (x : Float) : Nat :=
  if x.isNaN then 2 ^ 63
  else if 0 ≤ x then (clamped 0 (2 ^ 64 - 1) x).toNat
  else (2 ^ 64 - (clamped 0 (2 ^ 64 - 1) (-x)).toNat) % 2 ^ 64

/-! ### Places -/

/-- What letters say about the size of a number. -/
inductive Size where
  | usual | long | short | tiny
  deriving DecidableEq

/-- How many numbers of a size there are, if it is a small one. -/
def Size.count? : Size → Option Nat
  | short => some (2 ^ 16)
  | tiny => some (2 ^ 8)
  | _ => none

/-- A place in a format: what has been said of its width and precision, its
size, its letter, and what follows it. -/
structure Place where
  plain : Compose.Place
  size : Size
  letter : Option Char
  rest : Octets

/-- The flags that places may have. -/
def flags : List Char := ['-', '+', ' ', '#', '0', '\x27']

/-- The place after a percent sign. -/
def placeAt (o : Octets) : Place :=
  let plain := Compose.placeWith flags [] o
  let cs := o.drop (plain.size - 1)
  let (size, cs) := match cs with
    | 'l' :: 'l' :: cs => (Size.long, cs)
    | 'l' :: cs => (.long, cs)
    | 'h' :: 'h' :: cs => (.tiny, cs)
    | 'h' :: cs => (.short, cs)
    | cs => (.usual, cs)
  { plain, size, letter := cs.head?, rest := cs.drop 1 }

/-- A size that a place takes from the cells, and the cells left. -/
def starred (size : Option (Option Nat)) (cells : List Cell) :
    Option Int × List Cell :=
  match size, cells with
  | none, _ => (none, cells)
  | some (some n), _ => (some n, cells)
  | some none, [] => (some 0, [])
  | some none, c :: cs =>
    (some (clamped (-(2 ^ 31)) (2 ^ 31 - 1) c.toFloat), cs)

/-- How a place fits what is put into it, and the cells left. -/
def fit (p : Compose.Place) (cells : List Cell) : Compose.Fit × List Cell :=
  let (width, cells) := starred p.width cells
  let (precision, cells) := starred p.precision cells
  let width := width.getD 0
  let flags := p.flags.filter (· ≠ '\x27')
  (⟨if width < 0 then '-' :: flags else flags,
    min Compose.widest width.natAbs,
    precision.bind fun n =>
      if n < 0 then none else some (min Compose.widest n.toNat)⟩, cells)

/-- The octet that a cell stands for. -/
def octetOf (c : Cell) : Char :=
  let ofNumber (x : Float) : Char :=
    Char.ofNat (Int.emod (clamped (-(2 ^ 63)) greatestWhole x) 256).toNat
  match c, c.asNumber? with
  | .text o, _ => o.headD (Char.ofNat 0)
  | _, some x => ofNumber x
  | .input o, none => o.headD (Char.ofNat 0)
  | _, none => Char.ofNat 0

/-- A cell in a place, unless the place has no such letter. -/
def filled (shown : Cell → Octets) (p : Place) (f : Compose.Fit) (c : Cell) :
    Option Octets :=
  match p.letter with
  | none => none
  | some l =>
    let isUsual := p.size = .usual
    if l = 'd' || l = 'i' then
      let n := withSign c.toFloat
      some (f.signed ((p.size.count?.map (Int.bmod n)).getD n))
    else if l = 'o' || l = 'x' || l = 'X' || l = 'u' then
      let n := withoutSign c.toFloat
      some (f.based l ((p.size.count?.map (n % ·)).getD n))
    else if isUsual && l ∈ ['e', 'f', 'g', 'E', 'G'] then
      some (f.fraction 0 l (fractionOf c.toFloat))
    else if isUsual && l = 'c' then some (f.fill [octetOf c])
    else if isUsual && l = 's' then some (f.text (shown c))
    else none

/-- The text that a format and cells lead to, in parts of which the last one
comes first, and what is wrong with the format: `n` counts its places. -/
def parts (shown : Cell → Octets) : Nat → Nat → List Octets → Octets →
    List Cell → List Octets × Option Fault
  | 0, _, done, _, _ => (done, none)
  | fuel + 1, n, done, o, cells =>
    let plain := o.takeWhile (· ≠ '%')
    let done := if plain.isEmpty then done else plain :: done
    match o.drop plain.length with
    | [] => (done, none)
    | _ :: '%' :: rest => parts shown fuel n (['%'] :: done) rest cells
    | _ :: cs =>
      let p := placeAt cs
      let (f, cells) := fit p.plain cells
      match cells with
      | [] => (done, some .tooFew)
      | c :: cells =>
        match filled shown p f c with
        | some text => parts shown fuel (n + 1) (text :: done) p.rest cells
        | none => (done, some (.improper n))

/-- The text that a format and cells lead to, as far as nothing is wrong with
the format, and what is. A format ends at a zero. -/
def compose (shown : Cell → Octets) (format : Octets) (cells : List Cell) :
    Octets × Option Fault :=
  let format := format.takeWhile (· ≠ Char.ofNat 0)
  let r := parts shown (format.length + 1) 1 [] format cells
  (r.1.reverse.flatten, r.2)

/-- A number in a format by itself. -/
def numberText (format : Octets) (x : Float) : Octets :=
  let written (f : Compose.Fit) : Octets := f.fraction 0 'g' (fractionOf x)
  match format with
  | ['%', '.', d, 'g'] =>
    if d.isDigit then written ⟨[], 0, some (ofDigits 10 [d])⟩
    else (compose (fun _ => []) format [.number x]).1
  | _ => (compose (fun _ => []) format [.number x]).1

/-- An empty format leads to an empty text. -/
theorem compose_nil (shown : Cell → Octets) (cells : List Cell) :
    compose shown [] cells = ([], none) := rfl

end BitProbe.Bench.Rules.Composing

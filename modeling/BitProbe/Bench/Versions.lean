import BitProbe.Bench.Octets

/-!
The order of names with numbers in them.

Numbers in names count as numbers, so that the ninth part of something comes
before the tenth one. What looks like the ending of a file's name counts only
if everything else is the same.

* `Versions.compareParts`: two texts, part by part;
* `Versions.compare`: two names;
* `Versions.compare_nil`: nothing is the same as itself.
-/

namespace BitProbe.Bench

namespace Versions

/-- The rank of the first octet of a text: a tilde comes before the end, and
letters come before other signs. -/
def rank : Octets → Int
  | [] => -1
  | c :: _ =>
    if c.isDigit then 0
    else if c.isAlpha then c.toNat
    else if c = '~' then -2
    else c.toNat + 256

/-- Whether a text starts with something else than a digit. -/
def startsBare (o : Octets) : Bool :=
  match o with
  | [] => false
  | c :: _ => !c.isDigit

/-- The order of two texts, part by part. -/
def compareParts : Nat → Octets → Octets → Ordering
  | 0, _, _ => .eq
  | _, [], [] => .eq
  | fuel + 1, a, b =>
    if startsBare a || startsBare b then
      if rank a ≠ rank b then compareOfLessAndEq (rank a) (rank b)
      else compareParts fuel (a.drop 1) (b.drop 1)
    else
      let x := (a.takeWhile Char.isDigit).dropWhile (· = '0')
      let y := (b.takeWhile Char.isDigit).dropWhile (· = '0')
      if x.length ≠ y.length then compareOfLessAndEq x.length y.length
      else if x = y then
        compareParts fuel (a.dropWhile Char.isDigit)
          (b.dropWhile Char.isDigit)
      else if x < y then .lt else .gt

/-- How many octets of a name stand before its endings, each of which is a dot
and a word that starts with a letter. -/
def stemLength (o : Octets) : Nat → Nat → Nat → Nat
  | 0, _, stem => stem
  | fuel + 1, i, stem =>
    if o.length ≤ i then stem
    else
      let i := i + 1
      stemLength o fuel (endings o fuel i) i
where
  /-- The end of the endings at a place. -/
  endings (o : Octets) : Nat → Nat → Nat
    | 0, i => i
    | fuel + 1, i =>
      match o.drop i with
      | '.' :: c :: rest =>
        if c.isAlpha || c = '~' then
          endings o fuel (i + 2 +
            (rest.takeWhile fun c => c.isAlphanum || c = '~').length)
        else i
      | _ => i

/-- A name without its endings. -/
def stem (o : Octets) : Octets :=
  o.take (stemLength o (o.length + 1) 0 0)

/-- The rank of a name among hidden ones and others. -/
def hiddenRank (o : Octets) : Nat :=
  if o.isEmpty then 0
  else if o = ['.'] then 1
  else if o = ['.', '.'] then 2
  else if o.head? = some '.' then 3 else 4

/-- The order of two names. -/
def compare (a b : Octets) : Ordering :=
  let fuel := a.length + b.length + 1
  if hiddenRank a ≠ hiddenRank b then
    compareOfLessAndEq (hiddenRank a) (hiddenRank b)
  else if hiddenRank a < 3 then .eq
  else
    (compareParts fuel (stem a) (stem b)).then (compareParts fuel a b)

/-- Nothing is the same as itself. -/
theorem compare_nil : compare [] [] = .eq := by
  simp [compare, hiddenRank]

end Versions

end BitProbe.Bench

import BitProbe.Bench.Octets
import BitProbe.FileTree

/-!
Patterns of names.

A star stands for any octets, a question mark for one, and brackets for one
of a set. A quoted octet stands for itself, and so does one behind a
backslash.

Several words are held one behind the other, with a zero after each. Within
quotes a mark is held in front of each octet that means something in a
pattern. What is dropped from the start of the words, or from their end, is
looked for from the end on with two places: one goes back by an octet and its
mark, and is where the words will be cut; the other goes back by one octet,
and is where the text for the pattern starts or ends. While there are no
marks in the first word both are places in the words. If there are some, the
second is a place in a copy of the first word without them, which is held
behind the pattern.

* `Cell`: an octet that may be quoted;
* `Pattern`, `Pattern.ofCells`, `Pattern.covers`;
* `Pattern.dropStart`, `Pattern.dropEnd`: texts without what a pattern
  covers;
* `Pattern.names`: the names of files that a pattern covers;
* `held`: words as they are held, and `released`: such words as a list;
* `unitEnds`: the places where they may be cut;
* `dropShared`: words without the shortest end or the longest start that a
  pattern covers.
-/

namespace BitProbe.Bench.Shell

/-! ### Patterns -/

/-- An octet, and whether it was quoted. -/
structure Cell where
  octet : Char
  quoted : Bool
  deriving DecidableEq

/-- Whether a cell is a certain octet that was not quoted. -/
def Cell.isBare (cell : Cell) (c : Char) : Bool :=
  cell.octet = c && !cell.quoted

/-- The octets of cells. -/
def octetsOf (cells : List Cell) : Octets :=
  cells.map (·.octet)

/-- An element of a pattern. -/
inductive Pattern.Element where
  | octet (c : Char)
  | one
  | many
  /-- One octet that lies in one of some ranges, or in none of them. -/
  | range (negated : Bool) (ranges : List (Char × Char))

/-- What names can look like. -/
abbrev Pattern := List Pattern.Element

namespace Pattern

/-- The ranges of the named classes of octets. -/
def classRanges : List (String × List (Char × Char)) :=
  [("alnum", [('0', '9'), ('A', 'Z'), ('a', 'z')]),
   ("alpha", [('A', 'Z'), ('a', 'z')]), ("blank", [('\t', '\t'), (' ', ' ')]),
   ("cntrl", [(Char.ofNat 0, '\x1f'), ('\x7f', '\x7f')]),
   ("digit", [('0', '9')]), ("graph", [('!', '~')]), ("lower", [('a', 'z')]),
   ("print", [(' ', '~')]),
   ("punct", [('!', '/'), (':', '@'), ('[', '\x60'), ('\x7b', '~')]),
   ("space", [('\t', '\x0d'), (' ', ' ')]), ("upper", [('A', 'Z')]),
   ("xdigit", [('0', '9'), ('A', 'F'), ('a', 'f')])]

/-- The class named after an opening bracket and a colon, and what follows
it. -/
def classAt? (cells : List Cell) :
    Option (List (Char × Char) × List Cell) :=
  match cells with
  | c :: cells =>
    if c.octet = ':' then
      let name := cells.takeWhile fun d => d.octet.isLower
      match cells.drop name.length with
      | a :: b :: rest =>
        if a.octet = ':' && b.octet = ']' then
          (classRanges.lookup (String.ofList (octetsOf name))).map (·, rest)
        else none
      | _ => none
    else none
  | [] => none

/-- The members of a set up to the bracket that closes it, and what follows
it, if it is closed. The next member is there in any case. -/
def members? : Nat → List Cell → Option (List (Char × Char) × List Cell)
  | 0, _ => none
  | _, [] => none
  | fuel + 1, c :: cells =>
    let next (rs : List (Char × Char)) (rest : List Cell) :
        Option (List (Char × Char) × List Cell) :=
      match rest with
      | [] => none
      | d :: after =>
        if d.isBare ']' then some (rs, after)
        else (members? fuel rest).map fun r => (rs ++ r.1, r.2)
    match c.isBare '[', classAt? cells with
    | true, some (rs, rest) => next rs rest
    | _, _ =>
      let (c, cells) := if c.isBare '\\' then
          (cells.headD c, cells.tail)
        else (c, cells)
      match cells with
      | d :: e :: rest =>
        if d.isBare '-' && !e.isBare ']' then
          let (e, rest) := if e.isBare '\\' then
              (rest.headD e, rest.tail)
            else (e, rest)
          next [(c.octet, e.octet)] rest
        else next [(c.octet, c.octet)] cells
      | _ => next [(c.octet, c.octet)] cells

/-- The set after an opening bracket, and what follows it, if the bracket is
closed. -/
def setOf? (cells : List Cell) : Option (Element × List Cell) :=
  let negated := match cells with
    | c :: _ => c.isBare '!' || c.isBare '^'
    | [] => false
  let cells := if negated then cells.tail else cells
  (members? (cells.length + 1) cells).map fun r => (.range negated r.1, r.2)

/-- The pattern that cells describe. -/
def ofCellsWithin : Nat → List Cell → Pattern
  | 0, _ => []
  | _, [] => []
  | fuel + 1, c :: cells =>
    if c.isBare '*' then .many :: ofCellsWithin fuel cells
    else if c.isBare '?' then .one :: ofCellsWithin fuel cells
    else if c.isBare '\\' then
      match cells with
      | d :: cells => .octet d.octet :: ofCellsWithin fuel cells
      | [] => [.octet '\\']
    else if c.isBare '[' then
      match setOf? cells with
      | some (e, rest) => e :: ofCellsWithin fuel rest
      | none => .octet '[' :: ofCellsWithin fuel cells
    else .octet c.octet :: ofCellsWithin fuel cells

@[inherit_doc ofCellsWithin]
def ofCells (cells : List Cell) : Pattern :=
  ofCellsWithin cells.length cells

/-- Whether an element stands for an octet. -/
def Element.admits : Element → Char → Bool
  | octet c, d => c = d
  | one, _ => true
  | many, _ => true
  | range negated ranges, d =>
    (ranges.any fun r => r.1 ≤ d && d ≤ r.2) != negated

/-- Whether a pattern covers octets. -/
def covers : Pattern → Octets → Bool
  | [], o => o.isEmpty
  | .many :: p, o =>
    (List.range (o.length + 1)).any fun n => covers p (o.drop n)
  | e :: p, c :: o => e.admits c && covers p o
  | _ :: _, [] => false

/-- The octets up to the first zero, which ends a text for a pattern. -/
def untilZero (o : Octets) : Octets :=
  o.takeWhile (· ≠ Char.ofNat 0)

/-- The places in octets at which something may be dropped, in the order in
which they are tried: from the end, or from the start up to the first zero. -/
def cuts (fromStart : Bool) (o : Octets) : List Nat :=
  if fromStart then List.range ((untilZero o).length + 1)
  else (List.range (o.length + 1)).reverse

/-- A text without the shortest or the longest beginning that a pattern
covers. Texts with zeros between them count as one. -/
def dropStart (p : Pattern) (longest : Bool) (o : Octets) : Octets :=
  match (cuts (!longest) o).find? fun n => p.covers (untilZero (o.take n)) with
  | some n => o.drop n
  | none => o

/-- A text without the shortest or the longest end that a pattern covers.
Texts with zeros between them count as one. -/
def dropEnd (p : Pattern) (longest : Bool) (o : Octets) : Octets :=
  match (cuts longest o).find? fun n => p.covers (untilZero (o.drop n)) with
  | some n => o.take n
  | none => o

/-- Whether a pattern is a fixed text. -/
def isFixed (p : Pattern) : Bool :=
  p.all fun
    | .octet _ => true
    | _ => false

/-- The text of a pattern that is a fixed one. -/
def fixedText (p : Pattern) : Octets :=
  p.filterMap fun
    | .octet c => some c
    | _ => none

/-- The ways to go on from a path by a name that a pattern covers. A name
with a dot in front is covered by a pattern that starts with a dot. -/
def extend (t : FileTree) (p : Pattern) (path : Octets) : List Octets :=
  let here := if path.isEmpty then "." else path.toText
  match t.lookup here, t.locate here with
  | .ok .directory, .ok place =>
    let names := [['.'], ['.', '.']] ++
      (t.children place).map Octets.ofString
    let hidden := match p with
      | .octet '.' :: _ => true
      | _ => false
    let covered := names.filter fun n =>
      p.covers n && (hidden || n.head? ≠ some '.')
    (covered.mergeSort fun a b => a ≤ b).map (path ++ ·)
  | _, _ => []

/-- The paths that the patterns of their names cover. -/
def paths (t : FileTree) : List (List Cell) → List Octets → List Octets
  | [], bases => bases
  | cells :: rest, bases =>
    let p := ofCells cells
    let next := if p.isFixed then bases.map (· ++ p.fixedText)
      else bases.flatMap (extend t p)
    if rest.isEmpty then next
    else paths t rest (next.map (· ++ ['/']))

/-- Whether a pattern has something in it that a fixed text has not. -/
def isOpen (cells : List Cell) : Bool :=
  !(ofCells cells).isFixed

/-- The names of files that cells describe as a pattern; if there are none,
or the cells are no pattern, their own octets. -/
def names (t : FileTree) (cells : List Cell) : List Octets :=
  if !isOpen cells then [octetsOf cells]
  else
    let found := (paths t (cells.splitOnP (·.octet = '/')) [[]]).filter
      fun p => (t.entry p.toText).isOk
    if found.isEmpty then [octetsOf cells]
    else found.mergeSort fun a b => a ≤ b

end Pattern

/-! ### Several words -/

/-- The octet that ends a word which is held. -/
def wordEnd : Char := Char.ofNat 0

/-- The octet that marks the one after it as part of a text. -/
def textMark : Char := Char.ofNat 129

/-- Octets that would be taken for something else if they were not marked. -/
def reserved : Octets := [129, 130, 131, 132, 134, 135, 136].map Char.ofNat

/-- Whether an octet is held with a mark. -/
def needsMark (quoted : Bool) (c : Char) : Bool :=
  reserved.contains c || quoted && "!*?[=~:/-]\\".toList.contains c

/-- A word as it is held, in units of an octet and its mark. -/
def units (quoted : Bool) (word : Octets) : List Octets :=
  word.map fun c => if needsMark quoted c then [textMark, c] else [c]

/-- Words as they are held, in units. -/
def held (quoted : Bool) (words : List Octets) : List Octets :=
  [[wordEnd]].intercalate (words.map (units quoted))

/-- The words that are held in some units. -/
def released (us : List Octets) : List Octets :=
  (us.splitOn [wordEnd]).map fun word => word.filterMap (·.getLast?)

/-- The places between units: how many units and how many octets are in front
of each of them. -/
def unitEnds (us : List Octets) : List (Nat × Nat) :=
  (us.foldl (fun (acc : List (Nat × Nat) × Nat × Nat) u =>
    let next := (acc.2.1 + 1, acc.2.2 + u.length)
    (next :: acc.1, next)) ([(0, 0)], (0, 0))).1.reverse

/-- The cells of a pattern as they are held: a backslash stands in front of
those that mean nothing but themselves. -/
def heldPattern (cells : List Cell) : List Cell :=
  cells.flatMap fun c =>
    if c.quoted && needsMark true c.octet then [⟨'\\', false⟩, ⟨c.octet, false⟩]
    else [⟨c.octet, false⟩]

/-- The octets up to the one that ends a word. -/
def upToEnd (o : Octets) : Octets :=
  o.takeWhile (· ≠ wordEnd)

/-- Whether the words can be cut when the second place is at an octet of what
is held: the text for the pattern starts there, or the first word and the
pattern end there at the latest. -/
def cutsAt (atEnd : Bool) (pattern : List Cell) (memory : Octets)
    (first patternStart place : Nat) : Bool :=
  if atEnd then
    (Pattern.ofCells (heldPattern pattern)).covers (upToEnd (memory.drop place))
  else
    let text := upToEnd ((memory.set place wordEnd).drop first)
    let cells := heldPattern pattern
    let cells := if patternStart ≤ place then cells.take (place - patternStart)
      else cells
    (Pattern.ofCells cells).covers text

/-- Words without the shortest end that a pattern covers, or without the
longest start. -/
def dropShared (quoted atEnd : Bool) (pattern : List Cell)
    (words : List Octets) : List Octets :=
  let us := held quoted words
  let octets := us.flatten
  let behind := octets ++ wordEnd :: octetsOf (heldPattern pattern)
  let word := words.headD []
  let (memory, first, last) :=
    if word.any (needsMark quoted) then
      let all := behind ++ wordEnd :: word
      (all, behind.length + 1, all.length)
    else (behind, 0, octets.length)
  let places := (unitEnds us).reverse.zip (List.range (last + 1)).reverse
  match places.find? fun p =>
      cutsAt atEnd pattern memory first (octets.length + 1) p.2 with
  | some ((n, _), _) => released (if atEnd then us.take n else us.drop n)
  | none => words

end BitProbe.Bench.Shell

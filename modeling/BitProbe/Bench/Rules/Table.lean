import BitProbe.Bench.Rules.Cell

/-!
Tables from keys to cells.

A key is a text or a whole number, which stands for its decimal text. The
entries of a table are kept in lists by the hashes of their texts, by their
numbers, or both; what is looked for moves to the front of its list. That
fixes the order in which the keys of a table are gone through. A table made by
cutting a text is a row of cells until it is used in another way.

* `Table.Key`, `Table.hashOf`: keys and their hashes;
* `Table.Lists`: lists of entries, which are spread over more lists when there
  are many of them;
* `Table`, `Table.find`, `Table.remove`, `Table.keys`: looking for a key,
  taking it out, and all keys.
-/

namespace BitProbe.Bench.Rules

namespace Table

/-- What cells of a table are found by. -/
inductive Key where
  | number (n : Int)
  | name (o : Octets)
  deriving DecidableEq

/-- A hash of a text: each octet is mixed in and spread by a prime. -/
def hashOf (o : Octets) : Nat :=
  (o.foldl (fun (h : UInt32) c => (h ^^^ c.toNat.toUInt32) * 16777619)
    2166136261).toNat

/-- The decimal text of a whole number. -/
def decimalOf (n : Int) : Octets :=
  if n < 0 then '-' :: Nat.toDigits 10 n.natAbs else Nat.toDigits 10 n.natAbs

/-- What belongs to a key. -/
structure Entry where
  /-- The text of the key and its hash, if they have been needed. -/
  name : Option Octets := none
  hash : Nat := 0
  /-- The number of the key, if it has been used as one. -/
  number : Option Int := none
  cell : Cell := .unset
  deriving Inhabited

/-- Lists of entries by some of their numbers. -/
abbrev Lists := Array (List Nat)

/-- How many lists there are at first. -/
def startLists : Nat := 64

/-- How many entries there are for each list at most, in the mean. -/
def crowd : Nat := 12

namespace Lists

/-- Twice as many lists, where entries stay in the list they are in or move to
the one as far behind it as there have been lists. -/
def doubled (l : Lists) (place : Nat → Nat) : Lists :=
  let size := l.size
  let stay (i : Nat) : List Nat :=
    (l.getD i []).filter fun e => place e % (2 * size) = i
  let leave (i : Nat) : List Nat :=
    (l.getD i []).filter fun e => place e % (2 * size) ≠ i
  Array.ofFn (n := 2 * size) fun i =>
    if i.val < size then stay i.val else leave (i.val - size)

/-- An entry at the front of the list of a place. -/
def pushed (l : Lists) (place e : Nat) : Lists :=
  l.modify (place % l.size) (e :: ·)

/-- The lists without an entry in the list of a place. -/
def without (l : Lists) (place e : Nat) : Lists :=
  l.modify (place % l.size) (·.filter (· ≠ e))

end Lists

/-- Entries in lists by their names and by their numbers. -/
structure Spread where
  entries : Array Entry := #[]
  byName : Lists := Array.replicate startLists []
  byNumber : Lists := Array.replicate startLists []
  /-- Whether all entries have names, and whether one has a number. -/
  isNamed : Bool := false
  isNumbered : Bool := false
  size : Nat := 0

namespace Spread

/-- The entry of a number. -/
def entry (t : Spread) (e : Nat) : Entry := t.entries.getD e {}

/-- The place of a number in lists. -/
def placeOf (n : Int) : Nat := (n % 2 ^ 32).toNat

/-- Twice as many lists if there are too many entries for those there are. -/
def roomy (t : Spread) : Spread :=
  if t.size ≤ t.byName.size * crowd then t
  else
    let entries := t.entries
    { t with
      byName := t.byName.doubled fun e => (entries.getD e {}).hash
      byNumber := t.byNumber.doubled fun e =>
        placeOf ((entries.getD e {}).number.getD 0) }

/-- The entries with names for those that have only numbers. -/
def named (t : Spread) : Spread :=
  if t.isNamed then t
  else
    let all := t.byNumber.toList.flatten
    all.foldl (fun (t : Spread) e =>
      let a := t.entry e
      match a.name, a.number with
      | none, some n =>
        let o := decimalOf n
        let hash := hashOf o
        { t with
          entries := t.entries.setIfInBounds e { a with name := some o, hash }
          byName := t.byName.pushed hash e }
      | _, _ => t) { t with isNamed := true }

/-- The entry of a name, which is made if it is to be there. -/
def findName (t : Spread) (o : Octets) (make : Bool) : Spread × Option Nat :=
  let t := t.named
  let hash := hashOf o
  let list := t.byName.getD (hash % t.byName.size) []
  match list.find? fun e =>
    let a := t.entry e
    a.hash = hash && a.name = some o with
  | some e =>
    if list.head? = some e then (t, some e)
    else
      ({ t with byName := (t.byName.without hash e).pushed hash e }, some e)
  | none =>
    if !make then (t, none)
    else
      let e := t.entries.size
      let t := { t with
        entries := t.entries.push { name := some o, hash }
        size := t.size + 1 }
      let t := t.roomy
      ({ t with byName := t.byName.pushed hash e }, some e)

/-- The entry of a number, which is made if it is to be there. -/
def findNumber (t : Spread) (n : Int) (make : Bool) : Spread × Option Nat :=
  let place := placeOf n
  let list := t.byNumber.getD (place % t.byNumber.size) []
  match list.find? fun e => (t.entry e).number = some n with
  | some e =>
    if list.head? = some e then (t, some e)
    else
      ({ t with byNumber := (t.byNumber.without place e).pushed place e },
        some e)
  | none =>
    let (t, found) :=
      if t.isNamed then t.findName (decimalOf n) make
      else if make then
        let e := t.entries.size
        let t := { t with
          entries := t.entries.push { number := some n }
          size := t.size + 1 }
        (t.roomy, some e)
      else (t, none)
    match found with
    | none => (t, none)
    | some e =>
      ({ t with
         entries := t.entries.modify e fun a => { a with number := some n }
         byNumber := t.byNumber.pushed place e
         isNumbered := true }, some e)

/-- The entry of a key. -/
def find (t : Spread) (k : Key) (make : Bool) : Spread × Option Nat :=
  match k with
  | .number n => t.findNumber n make
  | .name o => t.findName o make

/-- The entries without the one of a key. -/
def remove (t : Spread) (k : Key) : Spread :=
  match t.find k false with
  | (t, none) => t
  | (t, some e) =>
    let a := t.entry e
    let byName := if a.name.isSome then t.byName.without a.hash e else t.byName
    let byNumber := match a.number with
      | some n => t.byNumber.without (placeOf n) e
      | none => t.byNumber
    { t with byName, byNumber, size := t.size - 1 }

end Spread

end Table

/-- A table from keys to cells. -/
inductive Table where
  | empty
  /-- The cells of the numbers from one on. -/
  | row (cells : Array Cell)
  | spread (t : Table.Spread)
  deriving Inhabited

namespace Table

/-- The entries of a row in lists. -/
def spreadRow (cells : Array Cell) : Spread :=
  let rec grow : Nat → Nat → Nat
    | 0, n => n
    | fuel + 1, n => if n * crowd < cells.size then grow fuel (2 * n) else n
  let lists := grow cells.size startLists
  let start : Spread := {
    entries := cells.mapIdx fun i cell =>
      { number := some (i + 1), cell : Entry }
    byName := Array.replicate lists []
    byNumber := Array.replicate lists []
    isNumbered := true
    size := cells.size }
  { start with
    byNumber := (List.range cells.size).foldl
      (fun (l : Lists) e => l.pushed (e + 1) e) start.byNumber }

/-- How many keys a table has. -/
def size : Table → Nat
  | empty => 0
  | row cells => cells.size
  | spread t => t.size

/-- Where the cell of a key is, which is made if it is to be there. -/
def find (t : Table) (k : Key) (make : Bool) : Table × Option Nat :=
  let inSpread (s : Spread) : Table × Option Nat :=
    let r := s.find k make
    (spread r.1, r.2)
  match t, k with
  | empty, _ => if make then inSpread {} else (t, none)
  | row cells, .number n =>
    if 1 ≤ n ∧ n ≤ cells.size then (t, some (n.toNat - 1))
    else if make then inSpread (spreadRow cells)
    else (t, none)
  | row cells, .name _ =>
    if cells.isEmpty && !make then (t, none) else inSpread (spreadRow cells)
  | spread s, _ =>
    if s.size = 0 && !make then (t, none) else inSpread s

/-- The cell at a place. -/
def cellAt (t : Table) (i : Nat) : Cell :=
  match t with
  | empty => .unset
  | row cells => cells.getD i .unset
  | spread s => (s.entry i).cell

/-- The table with another cell at a place. -/
def setAt (t : Table) (i : Nat) (c : Cell) : Table :=
  match t with
  | empty => empty
  | row cells => row (cells.setIfInBounds i c)
  | spread s =>
    spread { s with entries := s.entries.modify i fun a => { a with cell := c } }

/-- The table without a key. -/
def remove (t : Table) (k : Key) : Table :=
  let inSpread (s : Spread) : Table :=
    let s := s.remove k
    if s.size = 0 then empty else spread s
  match t, k with
  | empty, _ => t
  | row cells, .number n =>
    if 1 ≤ n ∧ n ≤ cells.size then inSpread (spreadRow cells) else t
  | row cells, .name _ => inSpread (spreadRow cells)
  | spread s, _ => inSpread s

/-- The keys of a table in the order in which they are gone through. -/
def keys (t : Table) : Table × List Octets :=
  let of (s : Spread) : Table × List Octets :=
    let s := s.named
    (spread s, s.byName.toList.flatten.filterMap fun e => (s.entry e).name)
  match t with
  | empty => (t, [])
  | row cells => if cells.isEmpty then (t, []) else of (spreadRow cells)
  | spread s => of s

/-- A table without keys has none. -/
theorem keys_empty : keys empty = (empty, []) := rfl

/-- A row has a key for each of its cells. -/
theorem size_row (cells : Array Cell) : (row cells).size = cells.size := rfl

end Table

end BitProbe.Bench.Rules

import BitProbe.Bench.Octets
import BitProbe.Bench.Quoting
import BitProbe.Bench.Regex.Search

/-!
Scripts that edit lines.

A script is a list of commands, each of which is carried out for the lines
that its addresses choose. Commands between braces and jumps say where to go
on by the number of a command. A backslash and a letter or a number stand for
an octet; what that octet means afterwards depends on where it stands.

* `Editor.numbered`: the octet of a number;
* `Editor.escape?`: what a backslash and what follows it stand for;
* `Editor.unescaped`: a text without backslashes;
* `Editor.pattern`: an expression in which octets stand for themselves;
* `Editor.Address`, `Editor.Bound`, `Editor.Choice`: the lines that a command
  is for;
* `Editor.Letters`, `Editor.Piece`: what a match is replaced by;
* `Editor.Substitution`: what is replaced, and which matches;
* `Editor.Action`, `Editor.Command`: what is done;
* `Editor.Script`: the commands, and where they come from.
-/

namespace BitProbe.Bench.Editor

/-! ### Backslashes -/

/-- The value of a digit, if it is one. -/
def digitValue? (base : Nat) (c : Char) : Option Nat :=
  let v := if c.isDigit then c.toNat - 48
    else if 'a' ≤ c && c ≤ 'f' then c.toNat - 87
    else if 'A' ≤ c && c ≤ 'F' then c.toNat - 55
    else 16
  if v < base then some v else none

/-- The octet of a number of some digits at most, and what follows it. -/
def numbered (base digits : Nat) (o : Octets) : Option (Char × Octets) :=
  let ds := (o.take digits).takeWhile fun c => (digitValue? base c).isSome
  if ds.isEmpty then none
  else
    let n := (ds.filterMap (digitValue? base)).foldl
      (fun n d => n * base + d) 0
    some (Char.ofNat (n % 256), o.drop ds.length)

/-- What a backslash before octets stands for. -/
inductive Escape where
  /-- An octet, what follows it, and whether it was given by its number. -/
  | octet (c : Char) (rest : Octets) (isNumbered : Bool)
  /-- Nothing but a backslash. -/
  | none
  /-- An escape within another one. -/
  | nested

/-- What a backslash before octets stands for. -/
def escape : Octets → Escape
  | 'a' :: cs => .octet '\x07' cs false
  | 'f' :: cs => .octet '\x0c' cs false
  | 'n' :: cs => .octet '\n' cs false
  | 'r' :: cs => .octet '\x0d' cs false
  | 't' :: cs => .octet '\t' cs false
  | 'v' :: cs => .octet '\x0b' cs false
  | 'c' :: '\\' :: '\\' :: cs => .octet '\x1c' cs true
  | 'c' :: '\\' :: _ => .nested
  | 'c' :: c :: cs =>
    let n := c.toUpper.toNat
    .octet (Char.ofNat (if n / 64 % 2 = 1 then n - 64 else n + 64)) cs true
  | 'd' :: cs => number 'd' 10 3 cs
  | 'o' :: cs => number 'o' 8 3 cs
  | 'x' :: cs => number 'x' 16 2 cs
  | _ => .none
where
  /-- An octet by its number, or the letter before it. -/
  number (letter : Char) (base digits : Nat) (cs : Octets) : Escape :=
    match numbered base digits cs with
    | some (c, rest) => .octet c rest true
    | Option.none => .octet letter cs false

/-- A text without backslashes; nothing if an escape is within another one. -/
def unescapedFrom : Nat → Octets → Octets → Option Octets
  | 0, _, done => some done.reverse
  | _, [], done => some done.reverse
  | fuel + 1, '\\' :: cs, done =>
    match escape cs with
    | .octet c rest _ => unescapedFrom fuel rest (c :: done)
    | .nested => none
    | .none =>
      match cs with
      | c :: rest => unescapedFrom fuel rest (c :: done)
      | [] => some done.reverse
  | fuel + 1, c :: cs, done => unescapedFrom fuel cs (c :: done)

@[inherit_doc unescapedFrom]
def unescaped (o : Octets) : Option Octets :=
  unescapedFrom (o.length + 1) o []

/-- An expression with the octets that escapes stand for; what is no escape
keeps its backslash. -/
def patternFrom : Nat → Octets → Octets → Option Octets
  | 0, _, done => some done.reverse
  | _, [], done => some done.reverse
  | fuel + 1, '\\' :: cs, done =>
    match escape cs with
    | .octet c rest _ => patternFrom fuel rest (c :: done)
    | .nested => none
    | .none =>
      match cs with
      | c :: rest => patternFrom fuel rest (c :: '\\' :: done)
      | [] => some ('\\' :: done).reverse
  | fuel + 1, c :: cs, done => patternFrom fuel cs (c :: done)

@[inherit_doc patternFrom]
def pattern (o : Octets) : Option Octets :=
  patternFrom (o.length + 1) o []

/-- A text in which nothing is escaped stays as it is. -/
theorem unescaped_single (c : Char) (h : c ≠ '\\') :
    unescaped [c] = some [c] := by
  rw [unescaped, List.length_singleton, unescapedFrom, unescapedFrom] <;>
    simp_all

/-! ### Commands -/

/-- A line that an address stands for. -/
inductive Address where
  | line (n : Nat)
  /-- Every so many lines from a line on. -/
  | every (first step : Nat)
  | last
  /-- The lines in which an expression is found, or the one that was looked
  for last. -/
  | matching (e : Option Engine)

/-- Where a range ends. -/
inductive Bound where
  | at_ (a : Address)
  /-- So many lines later. -/
  | after (n : Nat)
  /-- At a line whose number is a multiple. -/
  | multiple (n : Nat)

/-- The lines that a command is for. -/
structure Choice where
  first : Option Address := none
  bound : Option Bound := none
  isNegated : Bool := false

/-- What becomes of letters: all of them, and the first one. -/
structure Letters where
  all : Option Bool := none
  first : Option Bool := none
  deriving DecidableEq

namespace Letters

/-- A character in capitals or in small letters. -/
def shift (plain upper : Bool) (o : Octets) : Octets :=
  match o with
  | [c] =>
    if 0x80 ≤ c.toNat then o else [if upper then c.toUpper else c.toLower]
  | o =>
    match if plain then none else encodedAt? o with
    | some (_, c) =>
      let c' := if upper then Text.upperChar c
        else (Text.lowerChar c).headD c
      Octets.ofBytes (Text.Utf8.encode [c'])
    | none => o

/-- A text with its letters changed. -/
def apply (plain : Bool) (m : Letters) (o : Octets) : Octets :=
  if m = {} then o
  else
    let parts := (shownParts plain (o.length + 1) o).map (·.1)
    let change (upper : Option Bool) (p : Octets) : Octets :=
      match upper with
      | some b => shift plain b p
      | none => p
    match parts with
    | [] => []
    | p :: ps => change (m.first.or m.all) p ++ ps.flatMap (change m.all)

/-- Letters stay as they are if nothing is said about them. -/
theorem apply_nothing (plain : Bool) (o : Octets) :
    apply plain {} o = o := by
  simp [apply]

end Letters

/-- A piece of what a match is replaced by: a text, and what a group has
matched. -/
structure Piece where
  letters : Letters
  text : Octets
  group : Option Nat := none

/-- Where lines are written to. -/
inductive Target where
  | output
  | messages
  | file (path : Octets)
  deriving DecidableEq

/-- What is replaced in a line. -/
structure Substitution where
  engine : Option Engine
  pieces : List Piece
  /-- Whether all matches are replaced, from which one on, and whether a
  number was given for that. -/
  isGlobal : Bool := false
  number : Nat := 0
  prints : Bool := false
  target : Option Target := none

/-- What text is written for. -/
inductive TextUse where
  | append | insert | change
  deriving DecidableEq

/-- When a jump is made. -/
inductive JumpWhen where
  | always
  /-- If something has been replaced since a line was read, or since the last
  such jump; or if not. -/
  | replaced
  | unreplaced
  deriving DecidableEq

/-- What a command does. -/
inductive Action where
  /-- The commands up to another one are for the lines of this one. -/
  | block (finish : Nat)
  | nothing
  | text (use : TextUse) (o : Octets)
  /-- A jump to a command, which follows a label. -/
  | jump (when : JumpWhen) (label : Octets) (goal : Nat)
  | delete | deleteFirst
  | print | printFirst
  | number | name
  | list (width : Option Nat)
  | next | append
  | hold | holdMore | recall | recallMore | exchange
  | empty
  | quit (status : Nat) (silently : Bool)
  | readFile (path : Octets)
  | readLine (path : Octets)
  | write (t : Target)
  | writeFirst (t : Target)
  | substitute (s : Substitution)
  | translate (pairs : List (Octets × Octets))
  /-- Other letters have no meaning when they are carried out. -/
  | unknown (letter : Char)

/-- A command. -/
structure Command where
  choice : Choice := {}
  action : Action

/-- Where a part of a script comes from. -/
inductive Origin where
  /-- An argument, by its number among those that are scripts. -/
  | argument (n : Nat)
  | file (path : Octets)

/-- A script: its commands, whether its first line asks for silence, and where
it ends: in its last part, and in which line of that if it is a file. -/
structure Script where
  commands : Array Command := #[]
  isSilent : Bool := false
  origin : Origin := .argument 0
  lastLine : Nat := 0

end BitProbe.Bench.Editor

import BitProbe.Bench.Quoting
import BitProbe.Text.Case
import BitProbe.Text.Letters

/-!
Regular expressions.

A set is given by ranges of code points and by classes with names. Texts are
made of characters in UTF-8, or of octets that are characters of their own;
an octet that is no part of a character then lies in no set.

* `CharClass`: the classes with names;
* `CharSet`, `CharSet.has`: a set and its members;
* `Subject`: a text to be looked at by its places;
* `Subject.after?`, `Subject.before?`: the characters around a place;
* `Subject.admits`: the sets that a character lies in, in either case;
* `Anchor`: what holds between two characters;
* `Regex`: regular expressions;
* `Regex.repeated`: so many times an expression;
* `Regex.size`, `Regex.groups`: how large an expression is, and how many
  groups it has.
-/

namespace BitProbe.Bench

/-! ### Sets of characters -/

/-- A class of characters that has a name. -/
inductive CharClass where
  | alnum | alpha | blank | cntrl | digit | graph
  | lower | print | punct | space | upper | xdigit
  deriving DecidableEq

namespace CharClass

/-- The classes by their names. -/
def names : List (String × CharClass) :=
  [("alnum", alnum), ("alpha", alpha), ("blank", blank), ("cntrl", cntrl),
   ("digit", digit), ("graph", graph), ("lower", lower), ("print", print),
   ("punct", punct), ("space", space), ("upper", upper), ("xdigit", xdigit)]

/-- Whether a character is blank and may end a line that is broken. -/
def isWideBlank (c : Char) : Bool :=
  0x80 ≤ c.toNat && Text.isBlank c && c.toNat ∉ [0x85, 0xA0, 0x2007, 0x202F]

/-- Whether a character belongs to a class. -/
def has : CharClass → Char → Bool
  | alnum, c => Text.isLetter c || c.isDigit
  | alpha, c => Text.isLetter c
  | blank, c => c = ' ' || c = '\t' ||
      isWideBlank c && c.toNat ∉ [0x2028, 0x2029]
  | cntrl, c => c < ' ' || 0x7F ≤ c.toNat && c.toNat < 0xA0
  | digit, c => c.isDigit
  | graph, c => Text.isGraphic c && !isWideBlank c
  | lower, c => if c.toNat < 0x80 then c.isLower
      else Text.isLetter c && Text.upperChar c ≠ c
  | print, c => c = ' ' || Text.isGraphic c
  | punct, c => Text.isPunctuation c && !isWideBlank c
  | space, c => c = ' ' || '\t' ≤ c && c ≤ '\x0d' || isWideBlank c
  | upper, c => if c.toNat < 0x80 then c.isUpper
      else Text.isLetter c && Text.lowerChar c ≠ [c]
  | xdigit, c => c.isDigit || 'a' ≤ c && c ≤ 'f' || 'A' ≤ c && c ≤ 'F'

end CharClass

/-- What a set can be made of. -/
inductive CharSet.Member where
  | range (first last : Nat)
  | named (c : CharClass)
  deriving DecidableEq

/-- A set of characters: those that are members, or those that are not. -/
structure CharSet where
  isNegated : Bool := false
  members : List CharSet.Member
  deriving DecidableEq

namespace CharSet

/-- Whether a member stands for a character. -/
def Member.covers (m : Member) (c : Char) : Bool :=
  match m with
  | range first last => first ≤ c.toNat && c.toNat ≤ last
  | named k => k.has c

/-- Whether a character lies in a set. -/
def has (s : CharSet) (c : Char) : Bool :=
  s.members.any (·.covers c) != s.isNegated

/-- The set of one character. -/
def one (c : Char) : CharSet := { members := [.range c.toNat c.toNat] }

/-- Letters, digits and the underscore. -/
def word : CharSet := { members := [.named .alnum, .range 0x5F 0x5F] }

/-- The characters that are not in a set. -/
def complement (s : CharSet) : CharSet :=
  { s with isNegated := !s.isNegated }

/-- A set has just one character. -/
theorem has_one (c d : Char) : (one c).has d = decide (d = c) := by
  have h : (c.toNat ≤ d.toNat ∧ d.toNat ≤ c.toNat) ↔ d = c :=
    ⟨fun h => Char.toNat_inj.1 (by omega), fun h => by subst h; simp⟩
  simp only [has, one, List.any_cons, List.any_nil, Member.covers,
    Bool.or_false, ← Bool.decide_and, h]
  simp

end CharSet

/-- A text to be looked at by its places. -/
structure Subject where
  octets : Array Char
  /-- Whether texts are just octets. -/
  plain : Bool
  deriving Inhabited

namespace Subject

/-- A text by its octets. -/
def ofOctets (plain : Bool) (o : Octets) : Subject :=
  { octets := o.toArray, plain }

/-- How many octets there are. -/
def size (t : Subject) : Nat := t.octets.size

/-- The octet at a place. -/
def octet (t : Subject) (i : Nat) : Char :=
  t.octets.getD i (Char.ofNat 0)

/-- The octets from one place up to another. -/
def slice (t : Subject) (a b : Nat) : Octets :=
  (t.octets.extract a b).toList

/-- The character after a place and how many octets it has, unless there is
none. -/
def after? (t : Subject) (i : Nat) : Option (Char × Nat) :=
  match t.octets[i]? with
  | none => none
  | some c =>
    if c.toNat < 0x80 || t.plain then some (c, 1)
    else (encodedAt? (t.slice i (i + 4))).map fun (o, c) => (c, o.length)

/-- How far the next place is from a place: one character, or one octet that
is part of none. -/
def width (t : Subject) (i : Nat) : Nat :=
  match t.after? i with
  | some (_, n) => n
  | none => 1

/-- The character before a place, if there is one. -/
def before? (t : Subject) (i : Nat) : Option Char :=
  [1, 2, 3, 4].findSome? fun n =>
    if i < n then none
    else
      match t.after? (i - n) with
      | some (c, m) => if m = n then some c else none
      | none => none

/-- A character of a text and its forms in both cases. -/
def forms (plain : Bool) (c : Char) : List Char :=
  if plain then [c, c.toLower, c.toUpper]
  else c :: Text.upperChar c :: Text.lowerChar c

/-- Whether a member of a set stands for a character of a text. Octets that
stand for themselves beyond the ASCII range belong to no class. -/
def covered (plain : Bool) (m : CharSet.Member) (c : Char) : Bool :=
  match m with
  | .range first last => first ≤ c.toNat && c.toNat ≤ last
  | .named k => k.has c && !(plain && 0x80 ≤ c.toNat)

/-- Whether a character of a text lies in a set. -/
def admits (t : Subject) (ignoringCase : Bool) (s : CharSet) (c : Char) :
    Bool :=
  let cs := if ignoringCase then forms t.plain c else [c]
  (s.members.any fun m => cs.any (covered t.plain m)) != s.isNegated

/-- Whether a character can stand in a word. -/
def isWordAt (t : Subject) (c : Option Char) : Bool :=
  match c with
  | some c => t.admits false CharSet.word c
  | none => false

end Subject

/-! ### Expressions -/

/-- What holds of a place in a text. -/
inductive Anchor where
  | lineStart | lineEnd
  | textStart | textEnd
  | wordStart | wordEnd
  /-- Between two characters of a word, or between two of none. -/
  | insideWord | outsideWord
  deriving DecidableEq

/-- A regular expression. -/
inductive Regex where
  | nothing
  /-- The octets of a character. -/
  | octets (o : Octets)
  | one (s : CharSet)
  | anchor (a : Anchor)
  /-- What a group has matched. -/
  | back (n : Nat)
  /-- A group with its number; whether it may be left out. -/
  | group (n : Nat) (isOptional : Bool) (r : Regex)
  | both (r s : Regex)
  | either (r s : Regex)
  | many (r : Regex)

namespace Regex

/-- An expression that may be left out if it is a group. -/
def optional : Regex → Regex
  | group n _ r => group n true r
  | r => r

/-- An expression or nothing, so many times within one another. -/
def upTo (r : Regex) : Nat → Regex
  | 0 => nothing
  | 1 => either (optional r) nothing
  | n + 2 => either (both (upTo r (n + 1)) r) nothing

/-- An expression so many times. -/
def times (r : Regex) : Nat → Regex
  | 0 => nothing
  | 1 => r
  | n + 2 => both (times r (n + 1)) r

/-- An expression at least so many times, and at most so many if there is a
limit. -/
def repeated (r : Regex) (least : Nat) (most : Option Nat) : Regex :=
  let rest := match most with
    | none => many (optional r)
    | some m => upTo r (m - least)
  if most = some least then times r least
  else if least = 0 then rest
  else both (times r least) rest

/-- How many parts an expression has. -/
def size : Regex → Nat
  | octets o => o.length
  | group _ _ r => r.size + 2
  | both r s => r.size + s.size
  | either r s => r.size + s.size + 1
  | many r => r.size + 1
  | _ => 1

/-- The number of the last group of an expression. -/
def groups : Regex → Nat
  | group n _ r => max n r.groups
  | both r s => max r.groups s.groups
  | either r s => max r.groups s.groups
  | many r => r.groups
  | _ => 0

/-- Whether what groups have matched comes back. -/
def hasBack : Regex → Bool
  | back _ => true
  | group _ _ r => r.hasBack
  | both r s => r.hasBack || s.hasBack
  | either r s => r.hasBack || s.hasBack
  | many r => r.hasBack
  | _ => false

/-- Characters one after another. -/
def literal : List Octets → Regex
  | [] => nothing
  | [o] => octets o
  | o :: os => both (octets o) (literal os)

/-- So many times nothing is nothing. -/
theorem times_zero (r : Regex) : r.times 0 = nothing := rfl

/-- So many times an expression makes it so many times larger. -/
theorem size_times (r : Regex) (n : Nat) :
    (r.times (n + 1)).size = (n + 1) * r.size := by
  induction n with
  | zero => simp [times]
  | succ n ih => simp [times, size, ih, Nat.add_mul]

end Regex

end BitProbe.Bench

import BitProbe.Bench.Rules.Pattern

/-!
Records and fields.

Octets are cut into records, and a record is cut into fields. What cuts them
is a single octet, whatever an expression matches, or the rule that blanks or
empty lines stand between them.

* `Separator`, `Separator.ofFields`, `Separator.ofRecords`: what stands
  between parts;
* `Separator.cut`: the parts of a text;
* `Portion`, `Separator.portion`: the first record of octets.
-/

namespace BitProbe.Bench.Rules

/-- What stands between parts. -/
inductive Separator where
  /-- Blanks, and those at the ends do not count. -/
  | blanks
  /-- Nothing: each octet is a part. -/
  | nothing
  | octet (c : Char)
  /-- Empty lines. -/
  | emptyLines
  | expression (e : Engine)

namespace Separator

/-- What stands between fields, by a text that says so. -/
def ofFields (o : Octets) : Except Pattern.Fault Separator :=
  match o with
  | [] => .ok .nothing
  | [' '] => .ok .blanks
  | [c] => .ok (.octet c)
  | o => (Pattern.engine o).map .expression

/-- What stands between records, by a text that says so. -/
def ofRecords (o : Octets) : Except Pattern.Fault Separator :=
  match o with
  | [] => .ok .emptyLines
  | [c] => .ok (.octet c)
  | o => (Pattern.engine o).map .expression

/-- Whether an octet is a blank between fields. -/
def isBlank (c : Char) : Bool := c = ' ' || c = '\t' || c = '\n'

/-- The first match in a text, from a place on, that is not empty. -/
def found? (e : Engine) (t : Subject) : Nat → Nat → Option (Nat × Nat)
  | 0, _ => none
  | fuel + 1, i =>
    match e.search? t i with
    | none => none
    | some m =>
      if m.start < m.finish then some (m.start, m.finish)
      else if t.size ≤ m.start then none
      else found? e t fuel (m.start + 1)

/-- The parts of a text between blanks, by the part that has begun. -/
def words : Octets → Octets → List Octets
  | begun, [] => if begun.isEmpty then [] else [begun.reverse]
  | begun, c :: cs =>
    if isBlank c then
      if begun.isEmpty then words [] cs else begun.reverse :: words [] cs
    else words (c :: begun) cs

/-- The parts of a text between matches, from a place on. -/
def between (e : Engine) (t : Subject) (o : Octets) :
    Nat → Nat → List Octets → List Octets
  | 0, _, done => done.reverse
  | fuel + 1, i, done =>
    match found? e t (t.size + 1) i with
    | none => (o.drop i :: done).reverse
    | some (a, b) => between e t o fuel b ((o.drop i).take (a - i) :: done)

/-- The parts of a text. An empty text has none. -/
def cut (s : Separator) (o : Octets) : List Octets :=
  if o.isEmpty then []
  else
    match s with
    | blanks => words [] o
    | nothing => o.map ([·])
    | octet c => o.splitOn c
    | emptyLines => o.splitOn '\n'
    | expression e =>
      between e (Subject.ofOctets true o) o (o.length + 1) 0 []

/-- An empty text has no parts. -/
theorem cut_nil (s : Separator) : s.cut [] = [] := rfl

end Separator

/-- What the first record of octets is. -/
inductive Portion where
  | record (o rest : Octets)
  /-- More octets have to be known. -/
  | unknown
  /-- There is none. -/
  | none

namespace Separator

/-- Octets as the last record, if there are any. -/
def lastPortion (o : Octets) : Portion :=
  if o.isEmpty then .none else .record o []

/-- The record before an empty line, by what it starts with. -/
def beforeEmptyLine : Octets → Octets → Option (Octets × Octets)
  | _, [] => none
  | begun, '\n' :: '\n' :: cs => some (begun.reverse, cs)
  | begun, c :: cs => beforeEmptyLine (c :: begun) cs

/-- The first record of octets, to which nothing is added any more or which
are only the first ones. -/
def portion (s : Separator) (isAll : Bool) (o : Octets) : Portion :=
  match s with
  | octet c =>
    let text := o.takeWhile (· ≠ c)
    match o.drop text.length with
    | _ :: rest => .record text rest
    | [] => if isAll then lastPortion o else .unknown
  | emptyLines =>
    match beforeEmptyLine [] o with
    | some (text, rest) =>
      let rest := rest.dropWhile (· = '\n')
      if rest.isEmpty && !isAll then .unknown else .record text rest
    | none =>
      if !isAll then .unknown
      else lastPortion (if o.getLast? = some '\n' then o.dropLast else o)
  | expression e =>
    let t := Subject.ofOctets true o
    match found? e t (t.size + 1) 0 with
    | some (a, b) =>
      if b = t.size && !isAll then .unknown
      else .record (o.take a) (o.drop b)
    | none => if isAll then lastPortion o else .unknown
  | _ => if isAll then lastPortion o else .unknown

/-- There is no record in nothing. -/
theorem portion_octet_nil (c : Char) :
    (octet c).portion true [] = .none := rfl

end Separator

end BitProbe.Bench.Rules

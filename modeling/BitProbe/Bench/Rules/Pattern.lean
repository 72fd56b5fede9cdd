import BitProbe.Bench.Regex.Search

/-!
Expressions that rules look for.

An expression is a text of octets, and groups in it only hold parts together.
A backslash takes the meaning from a sign, or gives one to a letter or a
number, in sets as well.

* `Pattern.Fault`: what can be wrong with an expression;
* `Pattern.escaped`: the octet after a backslash;
* `Pattern.set`, `Pattern.interval?`, `Pattern.either`: the parts of an
  expression;
* `Pattern.read`, `Pattern.engine`: a whole expression, ready to search with.
-/

namespace BitProbe.Bench.Rules.Pattern

/-- What can be wrong with an expression. -/
inductive Fault where
  | noOperand | openGroup | badSet | badInterval | startRepeated | tooLarge
  deriving DecidableEq

/-- What is said about a fault. -/
def Fault.message : Fault → String
  | noOperand => "missing operand"
  | openGroup => "missing \x27)\x27"
  | badSet => "bad class -- [], [^] or ["
  | badInterval => "bad interval expression"
  | startRepeated => "syntax error ^* or ^+"
  | tooLarge => "resource exhaustion -- regular expression too large"

/-- The octet that a number of some digits stands for, and what follows. -/
def numbered (base most : Nat) (o : Octets) : Option (Char × Octets) :=
  let ds := (o.take most).takeWhile fun c =>
    (Text.hexDigit? c).any (· < base)
  if ds.isEmpty then none
  else
    let n := (Text.value? Text.hexDigit? base ds 0).getD 0
    some (Char.ofNat (n % 256), o.drop ds.length)

/-- The letters that stand for other octets after a backslash. -/
def letters : List (Char × Char) :=
  [('a', '\x07'), ('b', '\x08'), ('f', '\x0c'), ('n', '\n'), ('r', '\x0d'),
   ('t', '\t'), ('v', '\x0b')]

/-- The octet that stands after a backslash, and what follows. -/
def escaped (o : Octets) : Char × Octets :=
  match o with
  | [] => ('\\', [])
  | c :: cs =>
    match letters.lookup c, numbered 8 3 o with
    | some d, _ => (d, cs)
    | none, some r => r
    | none, none =>
      if c = 'x' then (numbered 16 2 cs).getD (c, cs) else (c, cs)

/-- The set of one octet. -/
def single (c : Char) : CharSet.Member := .range c.toNat c.toNat

/-- A class at the start of octets and what follows; nothing if there is
none, or that its name is unknown. -/
def class? (o : Octets) : Option (Except Fault (CharClass × Octets)) :=
  match o with
  | '[' :: ':' :: cs =>
    let name := cs.takeWhile Char.isLower
    match cs.drop name.length with
    | ':' :: ']' :: rest =>
      match CharClass.names.find? (·.1.toList = name) with
      | some (_, k) => some (.ok (k, rest))
      | none => some (.error .badSet)
    | _ => some (.error .badSet)
  | _ => none

/-- The members of a set up to its end, and what follows. -/
def members : Nat → Octets → List CharSet.Member →
    Except Fault (List CharSet.Member × Octets)
  | 0, _, _ => .error .badSet
  | _, [], _ => .error .badSet
  | fuel + 1, o@(c :: cs), done => do
    if c = ']' && !done.isEmpty then return (done.reverse, cs)
    match class? o with
    | some (.error f) => throw f
    | some (.ok (k, rest)) => members fuel rest (.named k :: done)
    | none =>
      let (first, rest) := if c = '\\' then escaped cs else (c, cs)
      if c = '\\' && cs.isEmpty then throw .badSet
      match rest with
      | '-' :: d :: more =>
        if d = ']' then members fuel rest (single first :: done)
        else
          let (last, more) := if d = '\\' then escaped more else (d, more)
          members fuel more (.range first.toNat last.toNat :: done)
      | rest => members fuel rest (single first :: done)

/-- A set after its bracket, and what follows. -/
def set (o : Octets) : Except Fault (Regex × Octets) := do
  let (isNegated, cs) := match o with
    | '^' :: cs => (true, cs)
    | cs => (false, cs)
  let (ms, rest) ← members (cs.length + 1) cs []
  return (.one { isNegated, members := ms }, rest)

/-- How often something is repeated, after a brace, and what follows; nothing
if that is no interval. -/
def interval? (o : Octets) :
    Option (Except Fault (Nat × Option Nat × Octets)) :=
  let value (ds : Octets) : Nat :=
    (Text.value? Text.hexDigit? 10 ds 0).getD 0
  let low := o.takeWhile Char.isDigit
  match o.drop low.length with
  | '\x7d' :: rest =>
    if low.isEmpty then some (.error .badInterval)
    else some (.ok (value low, some (value low), rest))
  | ',' :: cs =>
    let high := cs.takeWhile Char.isDigit
    match cs.drop high.length with
    | '\x7d' :: rest =>
      if high.isEmpty then
        some (.ok (value low, if low.isEmpty then some 0 else none, rest))
      else if value high < value low then some (.error .badInterval)
      else some (.ok (value low, some (value high), rest))
    | _ => none
  | _ => none

/-- The largest number of repetitions that is worked out. -/
def mostRepeats : Nat := 1000

/-- What follows an operand: signs by which it is repeated. An interval that
starts at two or more is taken at its start, but that of alternatives starts at
one. -/
def repeated : Nat → Bool → Regex → Octets → Except Fault (Regex × Octets)
  | 0, _, r, o => .ok (r, o)
  | fuel + 1, isStart, r, o =>
    let counted (least : Nat) (most : Option Nat) : Nat × Option Nat :=
      if least < 2 then (least, most)
      else
        match r with
        | .either _ _ => (1, most)
        | _ => (least, some least)
    let once (least : Nat) (most : Option Nat) (cs : Octets) :
        Except Fault (Regex × Octets) :=
      if isStart && most ≠ some 1 then .error .startRepeated
      else repeated fuel false (r.repeated least most) cs
    match o with
    | '*' :: cs => once 0 none cs
    | '+' :: cs => once 1 none cs
    | '?' :: cs => once 0 (some 1) cs
    | '\x7b' :: cs =>
      match interval? cs with
      | none => .ok (r, o)
      | some (.error f) => .error f
      | some (.ok (least, most, rest)) =>
        let (least, most) := counted least most
        if mostRepeats < max least (most.getD 0) then .error .tooLarge
        else repeated fuel false (r.repeated least most) rest
    | _ => .ok (r, o)

/-- What reads an expression up to its end or the end of its group: whether it
stands in a group, and whether nothing may be an operand. -/
abbrev Reader := Bool → Bool → Octets → Except Fault (Regex × Octets)

/-- Whether an interval that lets something never occur stands at the start of
octets. -/
def isNever (o : Octets) : Bool :=
  match o with
  | '\x7b' :: cs =>
    match interval? cs with
    | some (.ok (_, some 0, _)) => true
    | _ => false
  | _ => false

/-- One operand, before which there may be another one, and what follows. -/
def operand (rec : Reader) (isBehind mayBeEmpty : Bool) (o : Octets) :
    Except Fault (Regex × Octets) :=
  match o with
  | [] => .error .noOperand
  | '(' :: cs => do
    let (r, rest) ← rec true (isBehind || mayBeEmpty) cs
    match rest with
    | ')' :: rest =>
      if isNever rest then throw .openGroup
      else repeated (o.length + 1) false r rest
    | _ => throw .openGroup
  | '[' :: cs => do
    let (r, rest) ← set cs
    repeated (o.length + 1) false r rest
  | '^' :: cs => repeated (o.length + 1) true (.anchor .textStart) cs
  | '$' :: cs => repeated (o.length + 1) false (.anchor .textEnd) cs
  | '.' :: cs =>
    repeated (o.length + 1) false (.one { isNegated := true, members := [] }) cs
  | '\\' :: cs =>
    let (c, rest) := escaped cs
    repeated (o.length + 1) false (.octets [c]) rest
  | '\x7b' :: cs =>
    match interval? cs with
    | none => repeated (o.length + 1) false (.octets ['\x7b']) cs
    | some (.error f) => .error f
    | some (.ok _) => .error .tooLarge
  | c :: cs =>
    if c = '*' || c = '+' || c = '?' then .error .noOperand
    else repeated (o.length + 1) false (.octets [c]) cs

/-- Operands one after another, after those before them. -/
def branch (rec : Reader) (inGroup mayBeEmpty : Bool) :
    Nat → Option Regex → Octets → Except Fault (Regex × Octets)
  | 0, _, _ => .error .tooLarge
  | fuel + 1, before, o =>
    let isOver := match o with
      | [] => true
      | c :: _ => c = '|' || inGroup && c = ')'
    if isOver then
      match before with
      | some r => .ok (r, o)
      | none =>
        if mayBeEmpty then .ok (.nothing, o)
        else if inGroup && o.isEmpty then .error .openGroup
        else .error .noOperand
    else
      match operand rec before.isSome mayBeEmpty o with
      | .error f => .error f
      | .ok (r, rest) =>
        let r := match before with
          | some b => .both b r
          | none => r
        branch rec inGroup mayBeEmpty fuel (some r) rest

/-- Alternatives, after those before them. -/
def either (rec : Reader) (inGroup mayBeEmpty : Bool) :
    Nat → Option Regex → Octets → Except Fault (Regex × Octets)
  | 0, _, _ => .error .tooLarge
  | fuel + 1, before, o => do
    let (r, rest) ← branch rec inGroup mayBeEmpty (o.length + 1) none o
    let r := match before with
      | some b => .either b r
      | none => r
    match rest with
    | '|' :: rest => either rec inGroup mayBeEmpty fuel (some r) rest
    | rest => return (r, rest)

/-- An expression whose groups are nested so deep at most. -/
def readFrom : Nat → Reader
  | 0 => fun _ _ _ => .error .tooLarge
  | fuel + 1 => fun inGroup mayBeEmpty o =>
    either (readFrom fuel) inGroup mayBeEmpty (o.length + 1) none o

/-- A whole expression. Nothing is found everywhere. -/
def read (o : Octets) : Except Fault Regex :=
  if o.isEmpty then .ok .nothing
  else (readFrom (o.length + 1) false false o).map (·.1)

/-- An expression that is ready to search with. -/
def engine (o : Octets) : Except Fault Engine :=
  (read o).map fun r => Engine.ofRegex r false false

/-- The octets that cut texts where they stand. -/
def engineOf (o : Octets) : Engine :=
  Engine.ofRegex (Regex.literal (o.map ([·]))) false false

/-- Nothing is an expression. -/
theorem read_nil : read [] = .ok .nothing := rfl

end BitProbe.Bench.Rules.Pattern

import BitProbe.Bench.Numerals
import BitProbe.Bench.Shell.Syntax

/-!
Arithmetic of a shell.

An expression is made of whole numbers of 64 bits and of variables. It is
evaluated as it is read, so that what goes wrong first is found first; what
does not count is read all the same.

* `Variable`, `Variables`: what variables hold;
* `Arithmetic.Token`, `Arithmetic.tokens`: an expression cut into tokens;
* `Arithmetic.Trouble`: what can go wrong;
* `Arithmetic.evaluate`: the value of an expression, which may set variables.
-/

namespace BitProbe.Bench.Shell

/-- What a variable holds, if anything, who gets to know it and whether it can
be set. -/
structure Variable where
  value : Option Octets
  exported : Bool := false
  fixed : Bool := false

/-- Variables by their names. -/
abbrev Variables := List (Octets × Variable)

namespace Variables

/-- The value of a variable. -/
def value? (vs : Variables) (name : Octets) : Option Octets :=
  (vs.lookup name).bind (·.value)

/-- Whether a variable cannot be set. -/
def isFixed (vs : Variables) (name : Octets) : Bool :=
  (vs.lookup name).any (·.fixed)

/-- Variables with one of them as it is given. -/
def put (vs : Variables) (name : Octets) (v : Variable) : Variables :=
  (name, v) :: vs.filter (·.1 ≠ name)

/-- Variables without one of them. -/
def drop (vs : Variables) (name : Octets) : Variables :=
  vs.filter (·.1 ≠ name)

/-- Variables with one of them set. -/
def set (vs : Variables) (name value : Octets) : Variables :=
  vs.put name { (vs.lookup name).getD ⟨none, false, false⟩ with
    value := some value }

end Variables

namespace Arithmetic

/-- A number brought into the range of 64 bits with a sign. -/
def wrap (n : Int) : Int := Int.bmod n (2 ^ 64)

/-- A number brought to the nearest end of the range of 64 bits with a
sign. -/
def clamp (n : Int) : Int := max (-2 ^ 63) (min n (2 ^ 63 - 1))

/-- One for what holds, and zero for what does not. -/
def truth (b : Bool) : Int := if b then 1 else 0

/-- The bits of a number. -/
def bits (n : Int) : BitVec 64 := BitVec.ofInt 64 n

/-- A number of 64 bits that makes up all of octets but for blanks. -/
def number? (o : Octets) : Option Int :=
  match leadingInteger? true o with
  | some (n, rest) =>
    if rest.all isSpace && clamp n = n then some n else none
  | none => none

/-- A token of an expression. -/
inductive Token where
  | number (n : Int)
  | name (o : Octets)
  | operator (o : String)
  deriving DecidableEq

/-- The operators between two numbers, the tightest first. -/
def levels : List (List String) :=
  [["*", "/", "%"], ["+", "-"], ["<<", ">>"], ["<", "<=", ">", ">="],
   ["==", "!="], ["&"], ["^"], ["|"]]

/-- Operators that set a variable to its value and another one combined. -/
def combining : List String :=
  ["*=", "/=", "%=", "+=", "-=", "<<=", ">>=", "&=", "^=", "|="]

/-- Every operator; one that starts with another stands before it. -/
def operators : List String :=
  ["<<=", ">>="] ++
    ["<<", ">>", "<=", ">=", "==", "!=", "&&", "||", "*=", "/=", "%=", "+=",
     "-=", "&=", "^=", "|="] ++
    ["<", ">", "=", "!", "&", "|", "*", "/", "%", "+", "-", "^", "~", "?",
     ":", "(", ")"]

/-- Every operator, with its octets. -/
def operatorTexts : List (Octets × String) :=
  operators.map fun o => (o.toList, o)

/-- The tokens of an expression. What is no token is an operator that
nothing expects, and the last one. -/
def tokens : Nat → Octets → List Token
  | 0, _ => []
  | _, [] => []
  | fuel + 1, c :: cs =>
    if c = ' ' || c = '\t' || c = '\n' then tokens fuel cs
    else if c.isDigit then
      let (n, rest) := magnitude (c :: cs)
      .number (clamp n) :: tokens fuel rest
    else if startsName c then
      let n := nameAt (c :: cs)
      .name n :: tokens fuel ((c :: cs).drop n.length)
    else
      match operatorTexts.find? fun o => o.1.isPrefixOf (c :: cs) with
      | some (o, name) =>
        .operator name :: tokens fuel ((c :: cs).drop o.length)
      | none => [.operator ""]

/-- What can go wrong. -/
inductive Trouble where
  /-- Something is not as it must be in an expression. -/
  | form (message : String)
  /-- A variable holds no number. -/
  | noNumber (o : Octets)
  | fixed (name : Octets)
  /-- A quotient is larger than any number, which ends the process. -/
  | overflow

/-- What is known while an expression is evaluated. -/
structure Memory where
  tokens : List Token
  bindings : Variables

/-- What evaluates a part of an expression. -/
abbrev Evaluator := StateT Memory (Except Trouble)

/-- The operator that comes next. -/
def ahead : Evaluator (Option String) := do
  match (← get).tokens with
  | .operator o :: _ => return some o
  | _ => return none

/-- Goes past a token. -/
def advance : Evaluator Unit :=
  modify fun m => { m with tokens := m.tokens.tail }

/-- The number that a variable holds; one that is not there holds zero. -/
def numberOf (name : Octets) : Evaluator Int := do
  let m ← get
  match m.bindings.value? name with
  | none => return 0
  | some o =>
    if o.all isSpace then return 0
    else
      match number? o with
      | some n => return n
      | none => throw (.noNumber o)

/-- Sets a variable to a number. -/
def assign (name : Octets) (n : Int) : Evaluator Unit := do
  let m ← get
  if m.bindings.isFixed name then throw (.fixed name)
  else
    set { m with bindings := m.bindings.set name (toString n).toList }

/-- The quotient of two numbers, which is cut off towards zero. -/
def quotient (a b : Int) : Evaluator Int :=
  if b = 0 then throw (.form "division by zero")
  else if wrap (a.tdiv b) = a.tdiv b then return a.tdiv b
  else throw .overflow

/-- The value of an operator between two numbers. -/
def combine (op : String) (a b : Int) : Evaluator Int :=
  match op with
  | "+" => return wrap (a + b)
  | "-" => return wrap (a - b)
  | "*" => return wrap (a * b)
  | "/" => return (← quotient a b)
  | "%" => return a - (← quotient a b) * b
  | "<<" => return (bits a <<< (b % 64).toNat).toInt
  | ">>" => return ((bits a).sshiftRight (b % 64).toNat).toInt
  | "&" => return (bits a &&& bits b).toInt
  | "^" => return (bits a ^^^ bits b).toInt
  | "|" => return (bits a ||| bits b).toInt
  | "<" => return truth (a < b)
  | ">" => return truth (b < a)
  | "<=" => return truth (a ≤ b)
  | ">=" => return truth (b ≤ a)
  | "==" => return truth (a = b)
  | _ => return truth (a ≠ b)

/-- How loosely an operator between two numbers binds, if it is one. -/
def looseness? (op : String) : Option Nat :=
  levels.findIdx? (·.contains op)

mutual

/-- A whole expression: an assignment or a choice. A flag says whether it
counts. -/
def whole : Nat → Bool → Evaluator Int
  | 0, _ => throw (.form "expecting primary")
  | fuel + 1, counts => do
    match (← get).tokens with
    | .name n :: .operator o :: _ =>
      if o = "=" then
        advance
        advance
        let v ← whole fuel counts
        if counts then assign n v
        return v
      else if combining.contains o then
        advance
        advance
        let v ← whole fuel counts
        if counts then
          let a ← numberOf n
          let v ← combine (String.ofList o.toList.dropLast) a v
          assign n v
          return v
        else return v
      else choice fuel counts
    | _ => choice fuel counts

/-- A choice between two values, or what binds tighter. -/
def choice : Nat → Bool → Evaluator Int
  | 0, _ => throw (.form "expecting primary")
  | fuel + 1, counts => do
    let a ← either fuel counts
    if (← ahead) = some "?" then
      advance
      let b ← whole fuel (counts && a ≠ 0)
      if (← ahead) ≠ some ":" then throw (.form "expecting \x27:\x27")
      advance
      let c ← choice fuel (counts && a = 0)
      return if a ≠ 0 then b else c
    else return a

/-- Values one of which must not be zero. -/
def either : Nat → Bool → Evaluator Int
  | 0, _ => throw (.form "expecting primary")
  | fuel + 1, counts => do
    let a ← both fuel counts
    if (← ahead) = some "||" then
      advance
      let b ← either fuel (counts && a = 0)
      return truth (a ≠ 0 || b ≠ 0)
    else return a

/-- Values none of which may be zero. -/
def both : Nat → Bool → Evaluator Int
  | 0, _ => throw (.form "expecting primary")
  | fuel + 1, counts => do
    let a ← operand fuel counts
    let a ← match (← ahead).bind looseness? with
      | some _ => chain fuel counts levels.length a
      | none => pure a
    if (← ahead) = some "&&" then
      advance
      let b ← both fuel (counts && a ≠ 0)
      return truth (a ≠ 0 && b ≠ 0)
    else return a

/-- A value combined with those after it, as long as the operators bind
tighter than a level. An operator comes next. -/
def chain : Nat → Bool → Nat → Int → Evaluator Int
  | 0, _, _, _ => throw (.form "expecting primary")
  | fuel + 1, counts, level, a => do
    let op := (← ahead).getD ""
    let here := (looseness? op).getD level
    advance
    let b ← operand fuel counts
    let b ← match (← ahead).bind looseness? with
      | some l => if l < here then chain fuel counts here b else pure b
      | none => pure b
    let a ← if counts then combine op a b else pure b
    match (← ahead).bind looseness? with
    | some l => if l < level then chain fuel counts level a else return a
    | none => return a

/-- A number, a variable, an expression in parentheses, or one of these with
operators before it. -/
def operand : Nat → Bool → Evaluator Int
  | 0, _ => throw (.form "expecting primary")
  | fuel + 1, counts => do
    match (← get).tokens with
    | .number n :: _ =>
      advance
      return n
    | .name n :: _ =>
      advance
      if counts then numberOf n else return 0
    | .operator "(" :: _ =>
      advance
      let v ← whole fuel counts
      if (← ahead) ≠ some ")" then throw (.form "expecting \x27)\x27")
      advance
      return v
    | .operator "+" :: _ =>
      advance
      operand fuel counts
    | .operator "-" :: _ =>
      advance
      return wrap (-(← operand fuel counts))
    | .operator "!" :: _ =>
      advance
      return truth ((← operand fuel counts) = 0)
    | .operator "~" :: _ =>
      advance
      return (~~~(bits (← operand fuel counts))).toInt
    | _ => throw (.form "expecting primary")

end

/-- The value of an expression, and the variables after it. -/
def evaluate (o : Octets) (bindings : Variables) :
    Except Trouble (Int × Variables) := do
  let ts := tokens (o.length + 1) o
  let (v, m) ← (whole (16 * (ts.length + 2)) true).run
    ⟨ts, bindings⟩
  if m.tokens.isEmpty then return (v, m.bindings)
  else throw (.form "expecting EOF")

end Arithmetic

end BitProbe.Bench.Shell

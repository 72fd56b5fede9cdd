import BitProbe.Bench.Numerals
import BitProbe.Bench.Options
import BitProbe.Bench.Regex.Search

/-!
Terms of arguments.

A term is evaluated while it is read, from what binds loosest to what binds
tightest. What is not needed for the value is read but not calculated.

* `Term.Value`: numbers and texts;
* `Term.Fault`: what can be wrong with a term;
* `Term.levels`: the operators, by how tightly they bind;
* `Term.operand`: the value of a part of a term;
* `expr`: the program.
-/

namespace BitProbe.Bench

namespace Term

/-- What a term stands for. -/
inductive Value where
  | number (n : Int)
  | text (o : Octets)

/-- The octets of a number. -/
def numeral (n : Int) : Octets := (toString n).toList

/-- The number that octets are, if they are digits after a sign or none. -/
def integer? (o : Octets) : Option Int :=
  let ds := if o.head? = some '-' then o.drop 1 else o
  if ds.isEmpty || !ds.all Char.isDigit then none
  else
    let n := ofDigits 10 ds
    some (if o.head? = some '-' then -n else n)

namespace Value

/-- A value as a text. -/
def octets : Value → Octets
  | number n => numeral n
  | text o => o

/-- A value as a number, if it is one. -/
def number? : Value → Option Int
  | number n => some n
  | text o => integer? o

/-- Whether a value counts as nothing: no text, or zero. -/
def isNothing (v : Value) : Bool :=
  match v with
  | number n => n = 0
  | text o => o.isEmpty || integer? o = some 0

/-- The value of a condition. -/
def ofBool (b : Bool) : Value := number (if b then 1 else 0)

/-- Zero counts as nothing and one does not. -/
theorem isNothing_ofBool (b : Bool) : (ofBool b).isNothing = !b := by
  cases b <;> rfl

end Value

/-- What can be wrong with a term. -/
inductive Fault where
  | missingAfter (o : Octets)
  | unexpected (o : Octets)
  | unclosedAfter (o : Octets)
  | unclosedAt (o : Octets)
  | strayClose
  | noInteger
  | divisionByZero
  | badExpression (e : RegexError)

/-- What is said about a fault. -/
def Fault.message : Fault → Octets
  | missingAfter o => "syntax error: missing argument after ".toList ++ quoted o
  | unexpected o => "syntax error: unexpected argument ".toList ++ quoted o
  | unclosedAfter o => "syntax error: expecting \x27)\x27 after ".toList ++ quoted o
  | unclosedAt o =>
    "syntax error: expecting \x27)\x27 instead of ".toList ++ quoted o
  | strayClose => "syntax error: unexpected \x27)\x27".toList
  | noInteger => "non-integer argument".toList
  | divisionByZero => "division by zero".toList
  | badExpression e => e.message.toList

/-- Where reading stands: the last argument, and those to come. -/
structure Reader where
  last : Octets
  rest : List Octets

/-- The steps of reading a term. -/
abbrev Reading := StateT Reader (Except Fault)

/-- The next argument, if it is one of some. -/
def next? (words : List String) : Reading (Option String) := do
  let r ← get
  match r.rest with
  | [] => return none
  | o :: rest =>
    match words.find? (·.toList = o) with
    | some w =>
      set ({ last := o, rest } : Reader)
      return some w
    | none => return none

/-- The next argument, which must be there. -/
def take : Reading Octets := do
  let r ← get
  match r.rest with
  | [] => throw (.missingAfter r.last)
  | o :: rest =>
    set ({ last := o, rest } : Reader)
    return o

/-- The dialect of patterns in terms. -/
def dialect : Dialect :=
  { Dialect.basic with
    refusesLoneIntervals := false
    refusesEmptyRanges := false }

/-- The characters of a text, each with its octets. -/
def charactersOf (plain : Bool) (o : Octets) : List Octets :=
  (shownParts plain (o.length + 1) o).map (·.1)

/-- What a pattern matches at the start of a text: the first group, or how
many characters there are. -/
def matched (plain : Bool) (l r : Value) : Except Fault Value :=
  match Regex.read dialect plain r.octets with
  | .error e => .error (.badExpression e)
  | .ok e =>
    let engine := Engine.ofRegex e false false
    let t := Subject.ofOctets plain l.octets
    match engine.matchAt? t 0 with
    | some m =>
      if 0 < e.groups then
        .ok (.text (((m.group? 1).map fun (a, b) => t.slice a b).getD []))
      else .ok (.number (charactersOf plain (t.slice 0 m.finish)).length)
    | none => .ok (if 0 < e.groups then .text [] else .number 0)

/-- How many characters at the start of a text are not among others, and one
more; zero if all are not. -/
def indexOf (plain : Bool) (l r : Value) : Nat :=
  let cs := charactersOf plain l.octets
  let others := charactersOf plain r.octets
  let k := (cs.takeWhile fun c => !others.contains c).length
  if k < cs.length then k + 1 else 0

/-- So many characters of a text from a place on, which is counted from
one. -/
def part (plain : Bool) (v : Value) (start count : Option Int) : Value :=
  match start, count with
  | some a, some n =>
    if a ≤ 0 || n ≤ 0 then .text []
    else .text (((charactersOf plain v.octets).drop (a.toNat - 1)).take
      n.toNat).flatten
  | _, _ => .text []

/-- Whether one text stands before another. -/
def precedes : Octets → Octets → Bool
  | _, [] => false
  | [], _ :: _ => true
  | c :: cs, d :: ds => c < d || c = d && precedes cs ds

/-- How two values compare: as numbers if both are some. -/
def compared (l r : Value) : Ordering :=
  match integer? l.octets, integer? r.octets with
  | some a, some b => compare a b
  | _, _ =>
    if l.octets = r.octets then .eq
    else if precedes l.octets r.octets then .lt else .gt

/-- The value of two numbers and what stands between them. -/
def calculated (operator : String) (l r : Value) : Except Fault Value :=
  match l.number?, r.number? with
  | some a, some b =>
    match operator with
    | "+" => .ok (.number (a + b))
    | "-" => .ok (.number (a - b))
    | "*" => .ok (.number (a * b))
    | _ =>
      if b = 0 then .error .divisionByZero
      else if operator = "/" then .ok (.number (Int.tdiv a b))
      else .ok (.number (Int.tmod a b))
  | _, _ => .error .noInteger

/-- The value of two values and what stands between them. -/
def combined (plain : Bool) (operator : String) (l r : Value) :
    Except Fault Value :=
  let is (p : Ordering → Bool) : Except Fault Value :=
    .ok (.ofBool (p (compared l r)))
  match operator with
  | "|" => .ok (if !l.isNothing then l
      else if r.isNothing then .number 0 else r)
  | "&" => .ok (if l.isNothing || r.isNothing then .number 0 else l)
  | "<" => is (· = .lt)
  | "<=" => is (· ≠ .gt)
  | "=" => is (· = .eq)
  | "==" => is (· = .eq)
  | "!=" => is (· ≠ .eq)
  | ">=" => is (· ≠ .lt)
  | ">" => is (· = .gt)
  | ":" => matched plain l r
  | _ => calculated operator l r

/-- The operators, those that bind loosest first. -/
def levels : List (List String) :=
  [["|"], ["&"], ["<", "<=", "=", "==", "!=", ">=", ">"], ["+", "-"],
   ["*", "/", "%"], [":"]]

/-- Whether what follows an operator is calculated. -/
def needsRight (operator : String) (l : Value) : Bool :=
  match operator with
  | "|" => l.isNothing
  | "&" => !l.isNothing
  | _ => true

mutual

/-- The value of a part of a term, whose operators are those of some levels;
whether it is calculated. -/
def operand (plain : Bool) : Nat → List (List String) → Bool → Reading Value
  | 0, _, _ => throw .noInteger
  | fuel + 1, [], live => call plain fuel live
  | fuel + 1, level :: tighter, live => do
    let l ← operand plain fuel tighter live
    more plain fuel level tighter live l

/-- What follows the left side of operators of one level. -/
def more (plain : Bool) :
    Nat → List String → List (List String) → Bool → Value → Reading Value
  | 0, _, _, _, _ => throw .noInteger
  | fuel + 1, level, tighter, live, l => do
    match ← next? level with
    | none => return l
    | some operator =>
      let r ← operand plain fuel tighter (live && needsRight operator l)
      let isLogical := operator = "|" || operator = "&"
      if live || isLogical then
        let v ← (combined plain operator l r : Except _ _)
        more plain fuel level tighter live v
      else more plain fuel level tighter live l

/-- The value of a word with its arguments, of a term between brackets or of
an argument. -/
def call (plain : Bool) : Nat → Bool → Reading Value
  | 0, _ => throw .noInteger
  | fuel + 1, live => do
    match ← next? ["+", "length", "match", "index", "substr"] with
    | some "+" => return .text (← take)
    | some "length" =>
      let v ← call plain fuel live
      return .number (charactersOf plain v.octets).length
    | some "match" =>
      let l ← call plain fuel live
      let r ← call plain fuel live
      if live then (matched plain l r : Except _ _) else return l
    | some "index" =>
      let l ← call plain fuel live
      let r ← call plain fuel live
      return .number (indexOf plain l r)
    | some "substr" =>
      let v ← call plain fuel live
      let a ← call plain fuel live
      let n ← call plain fuel live
      return part plain v a.number? n.number?
    | _ =>
      match (← get).rest with
      | [] => throw (.missingAfter (← get).last)
      | _ => pure ()
      match ← next? ["(", ")"] with
      | some "(" =>
        let v ← operand plain fuel levels live
        let r ← get
        match r.rest with
        | [] => throw (.unclosedAfter r.last)
        | o :: _ =>
          match ← next? [")"] with
          | some _ => return v
          | none => throw (.unclosedAt o)
      | some _ => throw .strayClose
      | none => return .text (← take)

end

/-- The value of arguments. -/
def evaluate (plain : Bool) (args : List Octets) : Except Fault Value := do
  let work := operand plain (20 * args.length + 20) levels true
  let (v, r) ← work.run { last := [], rest := args }
  match r.rest with
  | [] => return v
  | o :: _ => throw (.unexpected o)

end Term

/-- Writes the value of a term. -/
def expr : Program := fun c =>
  let run (args : List Octets) : Ended :=
    c.perform do
      if args.isEmpty then Work.misuse 2 "missing operand".toList
      else
        match Term.evaluate c.nothing.plain args with
        | .ok v =>
          Work.sayLine v.octets
          Work.setStatus (if v.isNothing then 1 else 0)
        | .error f => Work.complain 2 f.message
  match c.args with
  | ['-', '-'] :: args => run args
  | [word] =>
    if "--".toList.isPrefixOf word then
      match optionsOf [] false c.args with
      | ⟨o :: _, _⟩ => { c with args := [word] }.given [] false 2 fun _ _ =>
          Work.setStatus (if o.key.isEmpty then 1 else 0)
      | _ => run c.args
    else run c.args
  | args => run args

end BitProbe.Bench

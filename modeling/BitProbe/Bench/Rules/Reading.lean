import BitProbe.Bench.Rules.Script
import BitProbe.Bench.Rules.Tokens

/-!
Reading scripts of rules.

An expression is read by levels: each level joins expressions of the next one,
from a choice between two down to a single value. A name that is only passed
on to functions holds a table if they use it as one.

* `Reader`, `Reading`: where reading stands, and its steps;
* `Slot`, `Use`, `tablesFrom`: which names hold tables;
* `level`, `expression`: the levels of expressions;
* `statement`: what is done;
* `item`: rules and functions;
* `readScript`: a whole script.
-/

namespace BitProbe.Bench.Rules

/-- A name that all rules share, or one of a function's own. -/
inductive Slot where
  | shared (i : Nat)
  | own (f i : Nat)
  deriving DecidableEq

/-- A name that is passed on to a function in a certain place. -/
structure Use where
  function : Nat
  place : Nat
  /-- What the name stands for, unless it is some other expression. -/
  slot : Option Slot
  line : Nat

/-- Where reading stands. -/
structure Reader where
  tokens : Array (Token × Nat)
  /-- What keeps more tokens from being read. -/
  trouble : Option Misreading := none
  /-- What is wrong with expressions to look for, the last first, and how many
  tokens there are before them. -/
  faults : List (Nat × Misreading) := []
  place : Nat := 0
  names : Array Octets := (Special.names.map String.toList).toArray
  /-- Names that hold tables, and names that do not. -/
  tables : List Slot := [.shared Special.environment, .shared Special.arguments]
  cells : List Slot := []
  uses : List Use := []
  functions : Array Function := #[]
  /-- The functions that have been read, and how many names they are given. -/
  parameters : List (Nat × Nat) := []
  /-- How many arguments functions are given, and where. -/
  calls : List (Nat × Nat × Nat) := []
  /-- The function that is read, and its names. -/
  own : Option (Nat × List Octets) := none
  ranges : Nat := 0
  /-- How many loops, parentheses and braces are open. -/
  loops : Nat := 0
  parentheses : Nat := 0
  braces : Nat := 0
  /-- Whether records can be left for the next one. -/
  inRule : Bool := false

/-- The steps of reading. -/
abbrev Reading := ExceptT Misreading (StateM Reader)

/-! ### Tokens -/

/-- The token so many places on. -/
def ahead (n : Nat) : Reading Token := do
  let r ← get
  return (r.tokens.getD (r.place + n) (.finish, 0)).1

/-- The next token. -/
def peek : Reading Token := do
  let r ← get
  match r.tokens[r.place]?, r.trouble with
  | some (t, _), _ => return t
  | none, some m => throw m
  | none, none => return .finish

/-- The line of the next token. -/
def lineHere : Reading Nat := do
  let r ← get
  match r.tokens[r.place]?, r.tokens.back? with
  | some (_, line), _ => return line
  | none, some (_, line) => return line
  | none, none => return 1

/-- Passes a token. -/
def pass : Reading Unit :=
  modify fun r => { r with place := r.place + 1 }

/-- Ends reading with a message about the line. -/
def refuseWith {α : Type} (message : Octets) : Reading α := do
  throw { line := ← lineHere, message }

/-- Ends reading at a token that cannot stand where it does. -/
def refuse {α : Type} : Reading α := do
  let t ← peek
  let r ← get
  let near := t.shown
  let ends := t.isSign ";" || t.isSign "\x7d" ||
    match t with
    | .newline => true
    | .finish => true
    | _ => false
  let message : Octets :=
    if ends && 0 < r.parentheses then "missing ) near ".toList ++ near
    else
      match t with
      | .finish =>
        if 0 < r.braces then "missing \x7d near end of file".toList
        else "syntax error at or near ".toList ++ near
      | _ =>
        "syntax error at or near ".toList ++ near
  refuseWith message

/-- Whether the next token is a sign. -/
def sees (s : String) : Reading Bool := do
  let t ← peek
  return t.isSign s

/-- Whether the next token is a word. -/
def seesWord (s : String) : Reading Bool := do
  let t ← peek
  return t.isWord s

/-- Passes a sign that has to be there. -/
def expect (s : String) : Reading Unit := do
  let found ← sees s
  if !found then refuse
  pass
  modify fun r =>
    if s = "(" then { r with parentheses := r.parentheses + 1 }
    else if s = ")" then { r with parentheses := r.parentheses - 1 }
    else if s = "\x7b" then { r with braces := r.braces + 1 }
    else if s = "\x7d" then { r with braces := r.braces - 1 }
    else r

/-- Passes a word that has to be there. -/
def expectWord (s : String) : Reading Unit := do
  let found ← seesWord s
  if found then pass else refuse

/-- Passes the ends of lines. -/
def skipLines : Reading Unit :=
  modify fun r =>
    let rec count : Nat → Nat → Nat
      | 0, n => n
      | fuel + 1, n =>
        match r.tokens[n]? with
        | some (.newline, _) => count fuel (n + 1)
        | _ => n
    { r with place := count r.tokens.size r.place }

/-! ### Names -/

/-- The slot of a name. -/
def slotOf (r : Reader) (n : Name) : Slot :=
  match n, r.own with
  | .own i, some (f, _) => .own f i
  | .own i, none => .own 0 i
  | .shared i, _ => .shared i

/-- What a name stands for. -/
def nameOf (o : Octets) : Reading Name := do
  let r ← get
  let own := r.own.bind fun f => f.2.idxOf? o
  match own, r.names.idxOf? o with
  | some i, _ => return .own i
  | none, some i => return .shared i
  | none, none =>
    set { r with names := r.names.push o }
    return .shared r.names.size

/-- Notes that a name holds a table. -/
def useTable (o : Octets) : Reading Name := do
  let n ← nameOf o
  let r ← get
  let s := slotOf r n
  if r.cells.contains s then
    refuseWith ("illegal reference to variable ".toList ++ o)
  if !r.tables.contains s then set { r with tables := s :: r.tables }
  return n

/-- Notes that a name holds no table. -/
def useCell (o : Octets) : Reading Name := do
  let n ← nameOf o
  let r ← get
  let s := slotOf r n
  if r.tables.contains s then
    refuseWith ("illegal reference to array ".toList ++ o)
  if !r.cells.contains s then set { r with cells := s :: r.cells }
  return n

/-- The function of a name. -/
def functionOf (o : Octets) : Reading Nat := do
  let r ← get
  match r.functions.findIdx? (·.name = o) with
  | some i => return i
  | none =>
    set { r with functions := r.functions.push { name := o } }
    return r.functions.size

/-- The slots that hold tables: a name does if it is passed on to a place of a
function that does, and the other way round. -/
def tablesFrom (uses : List Use) : Nat → List Slot → List Slot
  | 0, known => known
  | fuel + 1, known =>
    let more := uses.filterMap fun u =>
      let inside : Slot := .own u.function u.place
      u.slot.bind fun slot =>
        if known.contains inside && !known.contains slot then some slot
        else if known.contains slot && !known.contains inside then some inside
        else none
    if more.isEmpty then known
    else tablesFrom uses fuel (more.eraseDups ++ known)

/-! ### Expressions -/

/-- What reads an expression of a level; whether a sign for what is greater
compares. -/
abbrev Levels := Bool → Nat → Reading Expr

/-- The level of whole expressions, of those that are powers, and of single
values. -/
def wholeLevel : Nat := 0

@[inherit_doc wholeLevel]
def joinedLevel : Nat := 6

@[inherit_doc wholeLevel]
def unaryLevel : Nat := 9

@[inherit_doc wholeLevel]
def powerLevel : Nat := 11

@[inherit_doc wholeLevel]
def singleLevel : Nat := 13

/-- Expressions joined from the left by certain tokens. -/
def leftward (operand : Reading Expr)
    (join : Token → Option (Expr → Expr → Expr)) : Nat → Expr → Reading Expr
  | 0, e => return e
  | fuel + 1, e => do
    let t ← peek
    match join t with
    | none => return e
    | some f =>
      pass
      if t.isSign "&&" || t.isSign "||" then skipLines
      let e' ← operand
      leftward operand join fuel (f e e')

/-- How many tokens there are. -/
def patience : Reading Nat := do return (← get).tokens.size + 1

/-- An expression and others joined to it from the left. -/
def joinedLeft (operand : Reading Expr)
    (join : Token → Option (Expr → Expr → Expr)) : Reading Expr := do
  let e ← operand
  leftward operand join (← patience) e

/-- A sign that stands for something. -/
def signOf {α : Type} (table : List (String × α)) (t : Token) : Option α :=
  match t with
  | .sign o => (table.find? fun e => e.1.toList = o).map (·.2)
  | _ => none

/-- What compares, and what calculates. -/
def relations : List (String × Relation) :=
  [("<", .less), ("<=", .atMost), ("==", .equal), ("!=", .unequal),
   (">", .more), (">=", .atLeast)]

@[inherit_doc relations]
def sums : List (String × Arithmetic) := [("+", .add), ("-", .subtract)]

@[inherit_doc relations]
def products : List (String × Arithmetic) :=
  [("*", .multiply), ("/", .divide), ("%", .remainder)]

/-- What changes a variable. -/
def changes : List (String × Option Arithmetic) :=
  [("=", none), ("+=", some .add), ("-=", some .subtract),
   ("*=", some .multiply), ("/=", some .divide), ("%=", some .remainder),
   ("^=", some .power)]

/-- The expressions of a list up to a sign, which is passed. -/
def listUpTo (close : String) (one : Reading Expr) :
    Nat → List Expr → Reading (List Expr)
  | 0, _ => refuse
  | fuel + 1, done => do
    let e ← one
    let more ← sees ","
    if more then
      pass
      skipLines
      listUpTo close one fuel (e :: done)
    else
      expect close
      return (e :: done).reverse

/-- The expressions of a list that may be empty, up to a sign. -/
def listOrNone (close : String) (one : Reading Expr) :
    Reading (List Expr) := do
  let isEmpty ← sees close
  if isEmpty then
    expect close
    return []
  else listUpTo close one (← patience) []

/-- A regular expression that is ready to search with. What is wrong with it
does not end reading. -/
def engineOf (o : Octets) : Reading Engine := do
  match Pattern.engine o with
  | .ok e => return e
  | .error f =>
    let line ← lineHere
    let message := "regular expression compile failed (".toList ++
      f.message.toList ++ ")\n".toList ++ o
    modify fun r => { r with faults := (r.place, { line, message }) :: r.faults }
    return Pattern.engineOf []

/-- The keys of an element, after their bracket. -/
def keysOf (rec : Levels) : Reading (List Expr) := do
  listUpTo "]" (rec true wholeLevel) (← patience) []

/-- What a name stands for where its cell is asked for. -/
def place (rec : Levels) (o : Octets) : Reading Expr := do
  pass
  let isElement ← sees "["
  if isElement then
    let n ← useTable o
    expect "["
    return .element n (← keysOf rec)
  else return .value (← useCell o)

/-- What can be set at the next token, if there is something. -/
def place? (rec : Levels) (open_ : Bool) : Reading (Option Expr) := do
  let t ← peek
  match t with
  | .name o => return some (← place rec o)
  | .sign ['$'] => return some (← rec open_ singleLevel)
  | _ => return none

/-- The next token as an argument: a name by itself may hold a table. -/
def argument (rec : Levels) (f i : Nat) : Reading Expr := do
  let t ← peek
  let after ← ahead 1
  let line ← lineHere
  let use (slot : Option Slot) : Reading Unit :=
    modify fun r => { r with uses := ⟨f, i, slot, line⟩ :: r.uses }
  let isName := match t with
    | .name _ => after.isSign "," || after.isSign ")"
    | _ => false
  match t, isName with
  | .name o, true =>
    pass
    let n ← nameOf o
    use (some (slotOf (← get) n))
    return .value n
  | _, _ =>
    let e ← rec true wholeLevel
    use none
    return e

/-- The arguments of a function up to their parenthesis. -/
def argumentsFrom (rec : Levels) (f : Nat) :
    Nat → Nat → List Expr → Reading (List Expr)
  | 0, _, _ => refuse
  | fuel + 1, i, done => do
    let e ← argument rec f i
    let more ← sees ","
    if more then
      pass
      skipLines
      argumentsFrom rec f fuel (i + 1) (e :: done)
    else
      expect ")"
      return (e :: done).reverse

/-- A call of a function, after its name. -/
def call (rec : Levels) (o : Octets) : Reading Expr := do
  let line ← lineHere
  let f ← functionOf o
  expect "("
  let isEmpty ← sees ")"
  let args ← if isEmpty then
      expect ")"
      pure []
    else do argumentsFrom rec f (← patience) 0 []
  modify fun r => { r with calls := (f, args.length, line) :: r.calls }
  return .call f args

/-- What can be called by a name, with the least and the largest number of
arguments. -/
def builtins : List (String × Builtin × Nat × Nat) :=
  [("index", .index, 2, 2), ("substr", .substring, 2, 3),
   ("sprintf", .compose, 1, 255), ("tolower", .lower, 1, 1),
   ("toupper", .upper, 1, 1), ("sin", .sin, 1, 1), ("cos", .cos, 1, 1),
   ("atan2", .arctangent, 2, 2), ("exp", .exp, 1, 1), ("log", .log, 1, 1),
   ("sqrt", .root, 1, 1), ("int", .whole, 1, 1), ("rand", .random, 0, 0),
   ("srand", .seed, 0, 1), ("system", .system, 1, 1), ("close", .close, 1, 1),
   ("fflush", .flush, 0, 1), ("systime", .now, 0, 0),
   ("mktime", .timeOf, 1, 1), ("strftime", .date, 0, 3)]

/-- A call by a fixed name. -/
def builtin (rec : Levels) (o : Octets) : Reading Expr := do
  pass
  match builtins.find? (·.1.toList = o) with
  | none => refuse
  | some (_, b, least, most) =>
    expect "("
    let args ← listOrNone ")" (rec true wholeLevel)
    if args.length < least || most < args.length then
      modify fun r => { r with place := r.place - 1 }
      refuseWith ("wrong number of arguments in call to ".toList ++ o)
    return .builtin b args

/-- The length of a text or of a table. -/
def lengthCall (rec : Levels) : Reading Expr := do
  pass
  let hasArgument ← sees "("
  if !hasArgument then return .builtin .length []
  expect "("
  let t ← peek
  let after ← ahead 1
  match t, after.isSign ")" with
  | .name o, true =>
    pass
    expect ")"
    return .size (← nameOf o)
  | _, _ =>
    let args ← listOrNone ")" (rec true wholeLevel)
    if 1 < args.length then
      refuseWith "wrong number of arguments in call to length".toList
    return .builtin .length args

/-- The name of a table, which is passed. -/
def tableName : Reading Name := do
  let t ← peek
  match t with
  | .name o =>
    let n ← useTable o
    pass
    return n
  | _ => refuse

/-- A text cut into a table. -/
def cutCall (rec : Levels) : Reading Expr := do
  pass
  expect "("
  let e ← rec true wholeLevel
  expect ","
  skipLines
  let table ← tableName
  let more ← sees ","
  if more then
    pass
    skipLines
    let separator ← rec true wholeLevel
    expect ")"
    return .cut e table (some separator)
  else
    expect ")"
    return .cut e table none

/-- A replacement of what is found. -/
def replaceCall (rec : Levels) (isGlobal : Bool) : Reading Expr := do
  pass
  expect "("
  let pattern ← rec true wholeLevel
  expect ","
  skipLines
  let new ← rec true wholeLevel
  let more ← sees ","
  if more then
    pass
    skipLines
    let start := (← get).place
    let target ← rec true wholeLevel
    if !target.isPlace then
      modify fun r => { r with place := start }
      refuse
    expect ")"
    return .replace isGlobal pattern new target
  else
    expect ")"
    return .replace isGlobal pattern new .record

/-- The next record of the input or of a file. -/
def readCall (rec : Levels) (open_ : Bool) : Reading Expr := do
  pass
  let target ← place? rec open_
  let isFile ← sees "<"
  if isFile then
    pass
    let source ← rec open_ powerLevel
    return .read .file (some source) target
  else return .read .input none target

/-- What stands in parentheses: an expression, or the parts of a key. -/
def grouped (rec : Levels) : Reading Expr := do
  expect "("
  let e ← rec true wholeLevel
  let isList ← sees ","
  if isList then
    pass
    skipLines
    let es ← listUpTo ")" (rec true wholeLevel) (← patience) [e]
    expectWord "in"
    return .has es (← tableName)
  else
    expect ")"
    return e

/-- A field, after its sign. -/
def fieldOf (rec : Levels) (open_ : Bool) : Reading Expr := do
  pass
  let t ← peek
  let isUnary := t.isSign "-" || t.isSign "+" || t.isSign "!"
  return .field (← rec open_ (if isUnary then unaryLevel else singleLevel))

/-- One step up or down before the value of something. -/
def stepBefore (rec : Levels) (open_ isUp : Bool) : Reading Expr := do
  pass
  let start := (← get).place
  let target ← rec open_ singleLevel
  if target.isPlace then return .step target isUp false
  else
    modify fun r => { r with place := start }
    refuse

/-- Whether a name is known to hold no table and to be no function. -/
def holdsCell (o : Octets) : Reading Bool := do
  let r ← get
  let own := r.own.any fun f => f.2.contains o
  let shared := (r.names.idxOf? o).any fun i =>
    i < Special.names.length || r.cells.contains (.shared i)
  return own || shared

/-- A single value. -/
def single (rec : Levels) (open_ : Bool) : Reading Expr := do
  let t ← peek
  match t with
  | .number x _ =>
    pass
    return .number x
  | .text o =>
    pass
    return .text o
  | .regex o =>
    let e ← engineOf o
    pass
    return .regex e
  | .name o =>
    let after ← ahead 1
    let isFunction := (← get).functions.any (·.name = o)
    if isFunction && after.isSign "(" then
      pass
      call rec o
    else place rec o
  | .calling o =>
    let isCell ← holdsCell o
    if isCell then place rec o
    else
      pass
      call rec o
  | .builtin o => builtin rec o
  | .word o =>
    match String.ofList o with
    | "getline" => readCall rec open_
    | "length" => lengthCall rec
    | "split" => cutCall rec
    | "sub" => replaceCall rec false
    | "gsub" => replaceCall rec true
    | "match" => do
      pass
      expect "("
      let args ← listUpTo ")" (rec true wholeLevel) (← patience) []
      if args.length ≠ 2 then
        refuseWith "wrong number of arguments in call to match".toList
      return .builtin .search args
    | _ => refuse
  | .sign o =>
    match String.ofList o with
    | "(" => grouped rec
    | "$" => fieldOf rec open_
    | "++" => stepBefore rec open_ true
    | "--" => stepBefore rec open_ false
    | _ => refuse
  | _ => refuse

/-- Whether a token can start an expression that is joined to another one. -/
def Token.canBeJoined : Token → Bool
  | .number _ _ => true
  | .text _ => true
  | .regex _ => true
  | .name _ => true
  | .calling _ => true
  | .builtin _ => true
  | .word o =>
    ["getline", "length", "split", "sub", "gsub", "match"].any (·.toList = o)
  | .sign o => ["(", "$", "!", "++", "--"].any (·.toList = o)
  | _ => false

/-- Texts one after another; the first of them may be set to something. -/
def joinedTexts (operand : Reading Expr) : Nat → Expr → Reading Expr
  | 0, e => return e
  | fuel + 1, e => do
    let t ← peek
    if t.canBeJoined then
      let e' ← operand
      joinedTexts operand fuel (.joined e e')
    else return e

/-- What is set to something, or texts one after another. -/
def setOrJoined (rec : Levels) (open_ : Bool) : Reading Expr := do
  let e ← rec open_ (joinedLevel + 1)
  let t ← peek
  match signOf changes t with
  | some how =>
    if !e.isPlace then refuse
    pass
    let value ← rec open_ wholeLevel
    match how with
    | none => return .set e value
    | some a => return .change a e value
  | none => joinedTexts (rec open_ (joinedLevel + 1)) (← patience) e

/-- Records that are read from commands. -/
def piped (rec : Levels) (open_ : Bool) : Nat → Expr → Reading Expr
  | 0, e => return e
  | fuel + 1, e => do
    let isPipe ← sees "|"
    let after ← ahead 1
    if isPipe && (open_ || after.isWord "getline") then
      pass
      expectWord "getline"
      let target ← place? rec open_
      piped rec open_ fuel (.read .command (some e) target)
    else return e

/-- Tests whether a table has a key. -/
def tested (operand : Reading Expr) : Nat → Expr → Reading Expr
  | 0, e => return e
  | fuel + 1, e => do
    let isTest ← seesWord "in"
    if isTest then
      pass
      let table ← tableName
      let t ← peek
      let e := Expr.has [e] table
      match signOf relations t with
      | some r =>
        if t.isSign ">" then return e
        else
          pass
          tested operand fuel (.compare r e (← operand))
      | none => tested operand fuel e
    else return e

/-- An expression of a level, by those of others. -/
def level (rec : Levels) (open_ : Bool) (n : Nat) : Reading Expr := do
  let below := rec open_ (n + 1)
  match n with
  | 0 =>
    let e ← below
    let isChoice ← sees "?"
    if !isChoice then return e
    pass
    let yes ← rec open_ wholeLevel
    expect ":"
    return .choose e yes (← rec open_ wholeLevel)
  | 1 => joinedLeft below fun t =>
      if t.isSign "||" then some .either else none
  | 2 => joinedLeft below fun t =>
      if t.isSign "&&" then some .both else none
  | 3 => tested (rec open_ joinedLevel) (← patience) (← below)
  | 4 => joinedLeft below fun t =>
      if t.isSign "~" then some (.isLike false)
      else if t.isSign "!~" then some (.isLike true) else none
  | 5 => joinedLeft below fun t =>
      if !open_ && t.isSign ">" then none
      else (signOf relations t).map .compare
  | 6 => setOrJoined rec open_
  | 7 => joinedLeft below fun t => (signOf sums t).map .calculate
  | 8 => joinedLeft below fun t => (signOf products t).map .calculate
  | 9 =>
    let t ← peek
    if t.isSign "!" then
      pass
      return .not (← rec open_ unaryLevel)
    else if t.isSign "-" then
      pass
      return .negative (← rec open_ unaryLevel)
    else if t.isSign "+" then
      pass
      return .positive (← rec open_ unaryLevel)
    else below
  | 10 => piped rec open_ (← patience) (← below)
  | 11 =>
    let e ← below
    let isPower ← sees "^"
    if !isPower then return e
    pass
    let t ← peek
    let isUnary := t.isSign "-" || t.isSign "+" || t.isSign "!"
    return .calculate .power e
      (← rec open_ (if isUnary then unaryLevel else powerLevel))
  | 12 =>
    let e ← below
    let t ← peek
    if e.isPlace && t.isSign "++" then
      pass
      return .step e true true
    else if e.isPlace && t.isSign "--" then
      pass
      return .step e false true
    else return e
  | _ => single rec open_

/-- An expression of a level, in which levels are nested so deep at most. -/
def expressionFrom : Nat → Levels
  | 0 => fun _ _ => refuse
  | fuel + 1 => fun open_ n => level (expressionFrom fuel) open_ n

/-- A whole expression. -/
def expression (open_ : Bool) : Reading Expr := do
  expressionFrom (20 * (← patience)) open_ wholeLevel

/-! ### Statements -/

/-- Whether a token ends a simple statement. -/
def Token.isEnd (t : Token) : Bool :=
  t.isSign ";" || t.isSign "\x7d" ||
    match t with
    | .newline => true
    | .finish => true
    | _ => false

/-- The end of a simple statement. -/
def endStatement : Reading Unit := do
  let t ← peek
  if t.isSign ";" then
    pass
    skipLines
  else if t.isSign "\x7d" then return ()
  else
    match t with
    | .newline => skipLines
    | _ => refuse

/-- An expression, unless the statement ends. -/
def expression? : Reading (Option Expr) := do
  let t ← peek
  if t.isEnd then return none else return some (← expression true)

/-- Whether the parenthesis at the next token holds a list that is no part of
an expression. -/
def startsList (r : Reader) : Bool :=
  let rec scan : Nat → Nat → Nat → Bool → Bool
    | 0, _, _, _ => false
    | fuel + 1, i, depth, hasComma =>
      match r.tokens[i]? with
      | none => false
      | some (t, _) =>
        if t.isSign "(" || t.isSign "[" then
          scan fuel (i + 1) (depth + 1) hasComma
        else if t.isSign ")" || t.isSign "]" then
          if depth ≤ 1 then
            let after := (r.tokens.getD (i + 1) (.finish, 0)).1
            hasComma && !after.isWord "in"
          else scan fuel (i + 1) (depth - 1) hasComma
        else
          match t with
          | .newline => scan fuel (i + 1) depth hasComma
          | .finish => false
          | _ => scan fuel (i + 1) depth (hasComma || depth = 1 && t.isSign ",")
  scan r.tokens.size r.place 0 false

/-- The arguments of what is written. -/
def printArguments : Reading (List Expr) := do
  let t ← peek
  if t.isEnd || t.isSign ">" || t.isSign ">>" || t.isSign "|" then return []
  let r ← get
  let after ← ahead 1
  if t.isSign "(" && after.isSign ")" then
    expect "("
    expect ")"
    return []
  else if t.isSign "(" && startsList r then
    expect "("
    listUpTo ")" (expression true) (← patience) []
  else
    let rec more : Nat → List Expr → Reading (List Expr)
      | 0, done => return done.reverse
      | fuel + 1, done => do
        let e ← expression false
        let isMore ← sees ","
        if isMore then
          pass
          skipLines
          more fuel (e :: done)
        else return (e :: done).reverse
    more (← patience) []

/-- Where something is written to. -/
def direction? : Reading (Option (Direction × Expr)) := do
  let t ← peek
  match signOf [(">", Direction.file), (">>", .fileEnd), ("|", .command)] t with
  | some d =>
    pass
    return some (d, ← expression true)
  | none => return none

/-- A statement in a loop. -/
def inLoop (s : Reading Statement) : Reading Statement := do
  modify fun r => { r with loops := r.loops + 1 }
  let body ← s
  modify fun r => { r with loops := r.loops - 1 }
  return body

/-- A test in parentheses. -/
def test : Reading Expr := do
  expect "("
  let e ← expression true
  expect ")"
  return e

/-- The statements up to a brace, which is passed. -/
def statements (rec : Reading Statement) :
    Nat → List Statement → Reading Statement
  | 0, _ => refuse
  | fuel + 1, done => do
    let isOver ← sees "\x7d"
    if isOver then
      expect "\x7d"
      return .sequence done.reverse
    else
      let s ← rec
      statements rec fuel (s :: done)

/-- Statements in braces. -/
def block (rec : Reading Statement) : Reading Statement := do
  expect "\x7b"
  skipLines
  statements rec (← patience) []

/-- A loop over the keys of a table, or one with a test and a step. -/
def forLoop (rec : Reading Statement) : Reading Statement := do
  pass
  expect "("
  let name ← peek
  let word ← ahead 1
  let table ← ahead 2
  let close ← ahead 3
  match name, word.isWord "in", table, close.isSign ")" with
  | .name n, true, .name _, true =>
    let n ← useCell n
    pass
    pass
    let table ← tableName
    expect ")"
    skipLines
    return .each n table (← inLoop rec)
  | _, _, _, _ =>
    let start ← expression?
    expect ";"
    skipLines
    let condition ← expression?
    expect ";"
    skipLines
    let close ← sees ")"
    let step ← if close then pure none else pure (some (← expression true))
    expect ")"
    skipLines
    let body ← inLoop rec
    let work (e : Option Expr) : Statement :=
      match e with
      | some e => .work e
      | none => .nothing
    return .sequence [work start, .loop true condition (work step) body]

/-- A statement that starts with a word. -/
def wordStatement (rec : Reading Statement) (word : String) :
    Reading Statement := do
  let line ← lineHere
  let wrong (message : String) : Reading Statement :=
    throw { line, message := message.toList }
  let r ← get
  match word with
  | "if" =>
    pass
    let condition ← test
    skipLines
    let yes ← rec
    let hasElse ← seesWord "else"
    if hasElse then
      pass
      skipLines
      return .branch condition yes (← rec)
    else return .branch condition yes .nothing
  | "while" =>
    pass
    let condition ← test
    let isEmpty ← sees ";"
    if isEmpty then
      endStatement
      return .loop true (some condition) .nothing .nothing
    skipLines
    return .loop true (some condition) .nothing (← inLoop rec)
  | "do" =>
    pass
    skipLines
    let body ← inLoop rec
    expectWord "while"
    let condition ← test
    endStatement
    return .loop false (some condition) .nothing body
  | "for" => forLoop rec
  | "print" =>
    pass
    let args ← printArguments
    let target ← direction?
    endStatement
    return .print args target
  | "printf" =>
    pass
    let args ← printArguments
    if args.isEmpty then wrong "no arguments in call to printf"
    else
      let target ← direction?
      endStatement
      return .compose args target
  | "next" =>
    if !r.inRule then wrong "improper use of next"
    else
      pass
      endStatement
      return .next
  | "nextfile" =>
    if !r.inRule then wrong "improper use of nextfile"
    else
      pass
      endStatement
      return .nextFile
  | "exit" =>
    pass
    let e ← expression?
    endStatement
    return .finish e
  | "return" =>
    if r.own.isNone then wrong "return outside function body"
    else
      pass
      let e ← expression?
      endStatement
      return .giveBack e
  | "break" =>
    if r.loops = 0 then wrong "break statement outside of loop"
    else
      pass
      endStatement
      return .leave
  | "continue" =>
    if r.loops = 0 then wrong "continue statement outside of loop"
    else
      pass
      endStatement
      return .again
  | "delete" =>
    pass
    let table ← tableName
    let isElement ← sees "["
    if isElement then
      expect "["
      let keys ← listUpTo "]" (expression true) (← patience) []
      endStatement
      return .remove table keys
    else
      endStatement
      return .clear table
  | _ =>
    let e ← expression true
    endStatement
    return .work e

/-- A statement by those within it. -/
def statementOf (rec : Reading Statement) : Reading Statement := do
  let t ← peek
  match t with
  | .word o => wordStatement rec (String.ofList o)
  | .newline =>
    skipLines
    return .nothing
  | _ =>
    if t.isSign "\x7d" then return .nothing
    else if t.isSign ";" then
      endStatement
      return .nothing
    else if t.isSign "\x7b" then
      let s ← block rec
      skipLines
      return s
    else
      let e ← expression true
      endStatement
      return .work e

/-- A statement, in which statements are nested so deep at most. -/
def statementFrom : Nat → Reading Statement
  | 0 => refuse
  | fuel + 1 => statementOf (statementFrom fuel)

/-- The action of a rule or a function. -/
def action : Reading Statement := do
  block (statementFrom (← patience))

/-! ### Rules -/

/-- What may stand behind an action: one semicolon, and ends of lines. -/
def endAction : Reading Unit := do
  let isOver ← sees ";"
  if isOver then pass
  skipLines

/-- The names of a function up to a parenthesis. -/
def parameters (function : Octets) : Nat → List Octets → Reading (List Octets)
  | 0, _ => refuse
  | fuel + 1, done => do
    let t ← peek
    match t with
    | .name o =>
      if o = function then
        refuseWith "function parameter cannot be the function".toList
      if done.contains o then
        refuseWith (o ++ " is duplicated in argument list".toList)
      pass
      let more ← sees ","
      if more then
        pass
        skipLines
        parameters function fuel (o :: done)
      else
        expect ")"
        return (o :: done).reverse
    | _ => refuse

/-- A function, after the word for it. -/
def function : Reading Unit := do
  pass
  let t ← peek
  let o ← match t with
    | .name o => pure o
    | .calling o => pure o
    | _ => refuse
  pass
  let f ← functionOf o
  expect "("
  let isEmpty ← sees ")"
  let names ← if isEmpty then
      expect ")"
      pure []
    else do parameters o (← patience) []
  skipLines
  modify fun r => { r with
    own := some (f, names)
    parameters := (f, names.length) :: r.parameters }
  let body ← action
  modify fun r => { r with
    own := none
    functions := r.functions.modify f fun a => { a with body } }
  endAction

/-- A rule with its pattern, a function, or what is done at an end. -/
def item (s : Script) : Reading Script := do
  let t ← peek
  if t.isWord "BEGIN" then
    pass
    let a ← action
    endAction
    return { s with beginnings := a :: s.beginnings }
  else if t.isWord "END" then
    pass
    let a ← action
    endAction
    return { s with endings := a :: s.endings }
  else if t.isWord "function" then
    function
    return s
  else
    modify fun r => { r with inRule := true }
    let choice ← if t.isSign "\x7b" then pure Choice.all
      else do
        let e ← expression true
        let isRange ← sees ","
        if isRange then
          pass
          skipLines
          let e' ← expression true
          let n := (← get).ranges
          modify fun r => { r with ranges := n + 1 }
          pure (.range n e e')
        else pure (.those e)
    let hasAction ← sees "\x7b"
    let a ← if hasAction then
        do
          let a ← action
          endAction
          pure a
      else
        do
          endStatement
          pure (.print [] none)
    modify fun r => { r with inRule := false }
    return { s with rules := ⟨choice, a⟩ :: s.rules }

/-- The rules of a script up to its end. -/
def items : Nat → Script → Reading Script
  | 0, s => return s
  | fuel + 1, s => do
    let t ← peek
    match t with
    | .finish => return s
    | _ => items fuel (← item s)

/-- Which names of a function hold tables. -/
def ownTables (tables : List Slot) (f count : Nat) : Array Bool :=
  ((List.range count).map fun i => tables.contains (.own f i)).toArray

/-- What is wrong with an argument: it holds a table where the function uses
none, or the other way round. -/
def misuse? (r : Reader) (tables : List Slot) (u : Use) : Option Misreading :=
  let inside : Slot := .own u.function u.place
  let wrong (actual wanted : String) : Option Misreading :=
    some {
      line := u.line
      message := "type error in arg(".toList ++ Text.decimal (u.place + 1) ++
        ") in call to ".toList ++ (r.functions.getD u.function default).name ++
        (" (actual local " ++ actual ++ " vs local " ++ wanted ++ ")").toList }
  let isCell := match u.slot with
    | none => true
    | some slot => r.cells.contains slot
  let isTable := u.slot.any tables.contains
  if isCell && tables.contains inside then wrong "variable" "array"
  else if isTable && r.cells.contains inside then wrong "array" "variable"
  else none

/-- Checks the functions and their calls, and makes the script of what has
been read. -/
def finished (s : Script) : Reading Script := do
  let r ← get
  let line ← lineHere
  let known (f : Nat) : Option Nat := r.parameters.lookup f
  match r.calls.reverse.find? fun c => (known c.1).any (· < c.2.1) with
  | some (f, _, line) =>
    throw { line, message := "too many arguments in call to ".toList ++
              (r.functions.getD f {name := []}).name }
  | none =>
  match (List.range r.functions.size).find? fun f => (known f).isNone with
  | some f =>
    throw { line, message := "function ".toList ++
              (r.functions.getD f {name := []}).name ++
              " never defined".toList }
  | none =>
    let tables := tablesFrom r.uses (r.uses.length + 1) r.tables
    match r.uses.reverse.findSome? (misuse? r tables) with
    | some m => throw m
    | none =>
    return { s with
      names := r.names
      tables := ((List.range r.names.size).map fun i =>
        tables.contains (.shared i)).toArray
      functions := r.functions.mapIdx fun f (a : Function) =>
        { a with tables := ownTables tables f ((known f).getD 0) }
      beginnings := s.beginnings.reverse
      endings := s.endings.reverse
      rules := s.rules.reverse
      ranges := r.ranges }

/-- The script of octets, or what keeps it from being read. -/
def readScript (o : Octets) : Except (List Misreading) Script :=
  let t := tokensOf o
  let work : Reading Script := do
    skipLines
    finished (← items (t.list.length + 1) {})
  let (r, reader) := work.run.run
    { tokens := t.list.toArray, trouble := t.trouble }
  let wrong := (reader.faults.reverse ++ t.extras).mergeSort fun a b =>
    a.1 ≤ b.1
  match r with
  | .ok s => if wrong.isEmpty then .ok s else .error (wrong.map (·.2))
  | .error m =>
    let (early, late) := wrong.partition (·.1 ≤ reader.place)
    .error (early.map (·.2) ++ m :: late.map (·.2))

/-- Without uses nothing more is known of the names that hold tables. -/
theorem tablesFrom_nil (fuel : Nat) (known : List Slot) :
    tablesFrom [] fuel known = known := by
  cases fuel <;> simp [tablesFrom]

end BitProbe.Bench.Rules

import BitProbe.Bench.Numerals
import BitProbe.Bench.Options
import BitProbe.Bench.Quoting

/-!
Conditions on files, texts and numbers.

A condition is stated by arguments. A shell's own command and the program of
the same name read them in two ways, which differ where the arguments state
no condition at all.

* `Condition.fileIs`, `Condition.compare`: conditions that are not made of
  others;
* `Condition.Own`: conditions as a shell reads them;
* `Condition.Counted`: conditions as the program reads them, which depends on
  the number of arguments;
* `ownTest`, `ownBracket`, `test`, `bracket`: the programs, whose status is
  zero if the condition holds.
-/

namespace BitProbe.Bench

namespace Condition

/-- The bits of a mode that letters ask for. -/
def modeBits : List (Char × Nat) :=
  [('u', 0o4000), ('g', 0o2000), ('k', 0o1000)]

/-- Whether a file is as a letter says. -/
def fileIs (t : FileTree) (letter : Char) (path : Octets) : Bool :=
  let text := path.toText
  let found := if letter ∈ ['h', 'L'] then t.entry text else t.lookup text
  let place := (t.locate text).toOption.getD []
  match found with
  | .error _ => false
  | .ok node =>
    match modeBits.lookup letter with
    | some bits => t.mode place &&& bits ≠ 0
    | none =>
      if letter = 'f' then
        match node with
        | .file _ => true
        | .program _ => true
        | _ => false
      else if letter = 'd' then node = .directory
      else if letter = 's' then 0 < FileTree.nodeSize node
      else if letter = 'c' then
        node ∈ [.null, .zeros, .full, .way 0]
      else if letter = 'p' then node ∈ [.way 1, .way 2]
      else if letter = 'x' then t.isRunnable place
      else if letter ∈ ['h', 'L'] then
        match node with
        | .link _ => true
        | _ => false
      else letter ∈ ['e', 'r', 'w', 'O', 'G']

/-- The letters of conditions on files. -/
def fileLetters : List Char :=
  ['b', 'c', 'd', 'e', 'f', 'g', 'G', 'h', 'k', 'L', 'O', 'p', 'r', 's', 'S',
   'u', 'w', 'x']

/-- When the file of a path was written, if there is one. -/
def timeOf? (t : FileTree) (path : Octets) : Option Int :=
  match t.lookup path.toText, t.locate path.toText with
  | .ok _, .ok place => some (t.timesOf place).modified
  | _, _ => none

/-- Whether two paths lead to the same place, where something is. -/
def areSame (t : FileTree) (a b : Octets) : Bool :=
  (timeOf? t a).isSome && (timeOf? t b).isSome &&
    (t.locate a.toText).toOption = (t.locate b.toText).toOption

/-- The operators between two numbers. -/
def comparisons : List (Octets × (Int → Int → Bool)) :=
  [(['-', 'e', 'q'], fun m n => m = n), (['-', 'n', 'e'], fun m n => m ≠ n),
   (['-', 'l', 't'], fun m n => m < n), (['-', 'l', 'e'], fun m n => m ≤ n),
   (['-', 'g', 't'], fun m n => n < m), (['-', 'g', 'e'], fun m n => n ≤ m)]

/-- A relation between two arguments. -/
abbrev Relation := FileTree → Octets → Octets → Bool

/-- Whether one file was written after another one. A file that is not there
is older than every other one, but not for a shell. -/
def isNewer (own : Bool) : Relation := fun t a b =>
  match timeOf? t a, timeOf? t b with
  | some m, some n => n < m
  | some _, none => !own
  | _, _ => false

/-- The operators between two texts or two files. -/
def relationsFor (own : Bool) : List (Octets × Relation) :=
  let texts : List (Octets × Relation) :=
    if own then [(['<'], fun _ a b => a < b), (['>'], fun _ a b => b < a)]
    else [(['=', '='], fun _ a b => a = b)]
  let both : List (Octets × Relation) :=
    [(['='], fun _ a b => a = b), (['!', '='], fun _ a b => a ≠ b),
     (['-', 'e', 'f'], areSame), (['-', 'n', 't'], isNewer own),
     (['-', 'o', 't'], fun t a b => isNewer own t b a)]
  texts ++ both

/-- The operators that a shell knows between two texts or two files. -/
def ownRelations : List (Octets × Relation) := relationsFor true

/-- The operators that the program knows between two texts or two files. -/
def programRelations : List (Octets × Relation) := relationsFor false

/-- The operators between two texts or two files. -/
def relations (own : Bool) : List (Octets × Relation) :=
  if own then ownRelations else programRelations

/-- Whether an argument is an operator between two others. -/
def isBetween (own : Bool) (o : Octets) : Bool :=
  (comparisons.lookup o).isSome || ((relations own).lookup o).isSome

/-- A number in base ten between blanks. -/
def number? (o : Octets) : Option Int :=
  match leadingInteger? false o with
  | some (n, rest) => if rest.all isSpace then some n else none
  | none => none

/-- The value of an operator between two arguments, or an argument that is
no number. -/
def compare (own : Bool) (t : FileTree) (a op b : Octets) :
    Except Octets Bool :=
  match comparisons.lookup op with
  | some f =>
    match number? a, number? b with
    | none, _ => .error a
    | _, none => .error b
    | some m, some n => .ok (f m n)
  | none => .ok (((relations own).lookup op).any fun f => f t a b)

/-! ### As a shell reads them -/

namespace Own

/-- What an argument is in the place where it stands. -/
inductive Token where
  | ending
  | operand
  | negation
  | conjunction
  | disjunction
  | opening
  | closing
  /-- An operator before an operand. -/
  | before (letter : Char)
  /-- An operator between operands. -/
  | between
  deriving DecidableEq

/-- The operator that an argument is, if it is one. -/
def operator? (o : Octets) : Option Token :=
  match o with
  | ['!'] => some .negation
  | ['('] => some .opening
  | [')'] => some .closing
  | ['-', 'a'] => some .conjunction
  | ['-', 'o'] => some .disjunction
  | ['-', c] =>
    if fileLetters.contains c || c ∈ ['n', 't', 'z'] then some (.before c)
    else none
  | o => if isBetween true o then some .between else none

/-- What the first of some arguments is. -/
def token : List Octets → Token
  | [] => .ending
  | o :: rest =>
    match operator? o with
    | none => .operand
    | some (.before c) =>
      match rest with
      | [] => .operand
      | [_] => .before c
      | p :: _ :: _ =>
        if operator? p = some .between then .operand else .before c
    | some .opening => if rest.isEmpty then .operand else .opening
    | some t => t

/-- A number, which an argument must be. -/
def number (o : Octets) : Except Octets Int :=
  match number? o with
  | some n =>
    if -2 ^ 63 ≤ n ∧ n < 2 ^ 63 then .ok n
    else .error ("Illegal number: ".toList ++ o)
  | none => .error ("Illegal number: ".toList ++ o)

/-- The value of an operator between two operands. -/
def between (t : FileTree) : List Octets → Except Octets (Bool × List Octets)
  | a :: op :: b :: rest =>
    match comparisons.lookup op with
    | some f => do
      let m ← number a
      let n ← number b
      return (f m n, b :: rest)
    | none => return ((compare true t a op b).toOption.getD false, b :: rest)
  | _ :: op :: _ => throw (op ++ ": argument expected".toList)
  | _ => return (false, [])

/-- The value of an operator before an operand. -/
def before (t : FileTree) (letter : Char) :
    List Octets → Except Octets (Bool × List Octets)
  | _ :: o :: rest =>
    if letter = 'z' then return (o.isEmpty, o :: rest)
    else if letter = 'n' then return (!o.isEmpty, o :: rest)
    else if letter = 't' then do
      let _ ← number o
      return (false, o :: rest)
    else return (fileIs t letter o, o :: rest)
  | _ => throw ('-' :: letter :: ": argument expected".toList)

mutual

/-- Conditions one of which must hold, and the arguments from the last one
of them on. -/
def any (t : FileTree) : Nat → Token → List Octets →
    Except Octets (Bool × List Octets)
  | 0, _, ws => return (false, ws)
  | fuel + 1, n, ws => do
    let (a, ws) ← all t fuel n ws
    if token ws.tail = .disjunction then
      let (b, ws) ← any t fuel (token (ws.drop 2)) (ws.drop 2)
      return (a || b, ws)
    else return (a, ws)

/-- Conditions all of which must hold. -/
def all (t : FileTree) : Nat → Token → List Octets →
    Except Octets (Bool × List Octets)
  | 0, _, ws => return (false, ws)
  | fuel + 1, n, ws => do
    let (a, ws) ← negated t fuel n ws
    if token ws.tail = .conjunction then
      let (b, ws) ← all t fuel (token (ws.drop 2)) (ws.drop 2)
      return (a && b, ws)
    else return (a, ws)

/-- A condition with as many negations before it as there are. -/
def negated (t : FileTree) : Nat → Token → List Octets →
    Except Octets (Bool × List Octets)
  | 0, _, ws => return (false, ws)
  | fuel + 1, n, ws => do
    if n = .negation then
      let next := token ws.tail
      let (a, ws) ← negated t fuel next (if next = .ending then ws
        else ws.tail)
      return (!a, ws)
    else primary t fuel n ws

/-- A condition that is not made of others, or is in parentheses. -/
def primary (t : FileTree) : Nat → Token → List Octets →
    Except Octets (Bool × List Octets)
  | 0, _, ws => return (false, ws)
  | fuel + 1, n, ws => do
    match n with
    | .ending => return (false, ws)
    | .opening =>
      let ws := ws.tail
      if token ws = .closing then return (false, ws)
      else
        let (a, ws) ← any t fuel (token ws) ws
        if token ws.tail = .closing then return (a, ws.tail)
        else throw "closing paren expected".toList
    | .before letter => before t letter ws
    | _ =>
      if token ws.tail = .between then between t ws
      else return (!(ws.headD []).isEmpty, ws)

end

/-- Whether the condition that arguments state holds, from a token on. -/
def whole (t : FileTree) (n : Token) (ws : List Octets) :
    Except Octets Bool := do
  let (a, rest) ← any t (8 * ws.length + 8) n ws
  match rest with
  | o :: _ :: _ => throw (o ++ ": unexpected operator".toList)
  | _ => return a

/-- Whether the condition that arguments state holds. Of three and of four
arguments the first and the last have a meaning that goes before others. -/
def holds (t : FileTree) (args : List Octets) : Except Octets Bool :=
  match args with
  | [] => .ok false
  | [a, op, b] =>
    if operator? op = some .between then whole t .operand args
    else if a = ['('] && b = [')'] then plain [op]
    else if a = ['!'] then negate (holds t [op, b])
    else plain args
  | [a, b, c, d] =>
    if a = ['('] && d = [')'] then plain [b, c]
    else if a = ['!'] then negate (holds t [b, c, d])
    else plain args
  | args => plain args
where
  /-- The arguments without a meaning that goes before others. -/
  plain (ws : List Octets) : Except Octets Bool := whole t (token ws) ws
  /-- The opposite. -/
  negate (r : Except Octets Bool) : Except Octets Bool := r.map (!·)

end Own

/-! ### As the program reads them -/

namespace Counted

/-- What is left of the arguments. -/
abbrev Reader := StateT (List Octets) (Except Octets)

/-- A message that shows an argument. -/
def shown (o : Octets) (message : String) : Octets :=
  quoted o ++ message.toList

/-- The next argument, which is taken. -/
def next : Reader Octets := do
  let args ← get
  set args.tail
  return args.headD []

/-- Whether an argument is a dash and a letter. -/
def isLetter (o : Octets) : Bool :=
  match o with
  | ['-', _] => true
  | _ => false

/-- Stands for the length of the text after it, beside an operator between
numbers. -/
def lengthSign : Octets := ['-', 'l']

/-- The length of a text as an argument. -/
def lengthText (o : Octets) : Octets := Text.decimal o.length

/-- The operators between files. -/
def fileRelations : List Octets :=
  [['-', 'n', 't'], ['-', 'o', 't'], ['-', 'e', 'f']]

/-- The value of an operator between two arguments, the first of which may
have a sign for its length before it. -/
def between (t : FileTree) (measured : Bool) : Reader Bool := do
  if measured then
    let _ ← next
  let ws ← get
  let a ← next
  let op ← next
  let b ← next
  let isNumeric := (comparisons.lookup op).isSome
  let other := if b = lengthSign then ws[3]? else none
  if other.isSome then
    let _ ← next
  if (measured || other.isSome) && fileRelations.contains op then
    throw (op ++ " does not accept -l".toList)
  let (x, y) := match other with
    | some o => if isNumeric then (a, lengthText o) else (op, o)
    | none => (a, b)
  let x := if measured && isNumeric then lengthText a else x
  match compare false t x op y with
  | .ok r => return r
  | .error o => throw ("invalid integer ".toList ++ quoted o)

/-- The value of an operator before an argument. -/
def before (t : FileTree) (last : Octets) : Reader Bool := do
  let op ← next
  let letter := op.getLastD '-'
  if !(fileLetters.contains letter || letter ∈ ['n', 't', 'z', 'N']) then
    throw (shown op ": unary operator expected")
  if (← get).isEmpty then
    throw ("missing argument after ".toList ++ quoted last)
  let o ← next
  if letter = 'z' then return o.isEmpty
  else if letter = 'n' then return !o.isEmpty
  else return fileIs t letter o

/-- The value of one argument. -/
def one : Reader Bool := do
  return !(← next).isEmpty

/-- The value of two arguments. -/
def two (t : FileTree) (last : Octets) : Reader Bool := do
  let a := (← get).headD []
  if a = ['!'] then
    let _ ← next
    return !(← one)
  else if isLetter a then before t last
  else throw ("missing argument after ".toList ++ quoted last)

mutual

/-- The value of so many arguments. -/
def counted (t : FileTree) (last : Octets) : Nat → Nat → Reader Bool
  | 0, _ => return false
  | fuel + 1, n => do
    let ws ← get
    match n, ws with
    | 1, _ => one
    | 2, _ => two t last
    | 3, a :: op :: b :: _ =>
      if isBetween false op then between t false
      else if a = ['!'] then
        let _ ← next
        return !(← two t last)
      else if a = ['('] && b = [')'] then
        let _ ← next
        let r ← one
        let _ ← next
        return r
      else if op = ['-', 'a'] || op = ['-', 'o'] then any t last fuel
      else throw (shown op ": binary operator expected")
    | 4, a :: _ :: _ :: d :: _ =>
      if a = ['!'] then
        let _ ← next
        return !(← counted t last fuel 3)
      else if a = ['('] && d = [')'] then
        let _ ← next
        let r ← two t last
        let _ ← next
        return r
      else any t last fuel
    | _, _ => any t last fuel

/-- Conditions one of which must hold. -/
def any (t : FileTree) (last : Octets) : Nat → Reader Bool
  | 0 => return false
  | fuel + 1 => do
    let a ← all t last fuel
    if (← get).head? = some ['-', 'o'] then
      let _ ← next
      let b ← any t last fuel
      return a || b
    else return a

/-- Conditions all of which must hold. -/
def all (t : FileTree) (last : Octets) : Nat → Reader Bool
  | 0 => return false
  | fuel + 1 => do
    let a ← term t last fuel
    if (← get).head? = some ['-', 'a'] then
      let _ ← next
      let b ← all t last fuel
      return a && b
    else return a

/-- A condition that is not made of others, or is in parentheses. -/
def term (t : FileTree) (last : Octets) : Nat → Reader Bool
  | 0 => return false
  | fuel + 1 => do
    let ws ← get
    match ws with
    | [] => throw ("missing argument after ".toList ++ quoted last)
    | ['!'] :: _ =>
      let _ ← next
      return !(← term t last fuel)
    | ['('] :: rest =>
      let _ ← next
      let n := (rest.drop 1).findIdx? (· = [')'])
      let r ← counted t last fuel (match n with
        | some n => if n < 3 then n + 1 else rest.length
        | none => rest.length)
      match (← get).head? with
      | none => throw (quoted [')'] ++ " expected".toList)
      | some [')'] =>
        let _ ← next
        return r
      | some o =>
        throw (quoted [')'] ++ " expected, found ".toList ++ quoted o)
    | a :: op :: _ :: _ =>
      if a = lengthSign && 3 < ws.length &&
          (ws[2]?).any (isBetween false) then between t true
      else if isBetween false op then between t false
      else if isLetter a then before t last
      else one
    | a :: _ => if isLetter a then before t last else one

end

/-- Whether the condition that arguments state holds. -/
def holds (t : FileTree) (args : List Octets) : Except Octets Bool := do
  if args.isEmpty then return false
  let (r, rest) ← (counted t (args.getLastD []) (8 * args.length + 8)
    args.length).run args
  match rest with
  | [] => return r
  | o :: _ => throw ("extra argument ".toList ++ quoted o)

end Counted

/-- The program that a condition makes. -/
def program (holds : FileTree → List Octets → Except Octets Bool) : Program :=
  fun c =>
    c.perform <|
      match holds c.files c.args with
      | .ok r => Work.setStatus (if r then 0 else 1)
      | .error m => Work.complain 2 m

end Condition

open Condition in
/-- A condition as a shell itself reads it. -/
def ownTest : Program := program Own.holds

/-- A condition as a shell itself reads it, with a last argument that starts
with a closing bracket. -/
def ownBracket : Program := fun c =>
  if (c.args.getLastD []).head? = some ']' then
    ownTest { c with args := c.args.dropLast }
  else c.perform (Work.complain 2 "missing ]".toList)

open Condition in
/-- A condition as the program reads it. -/
def test : Program := program Counted.holds

/-- A condition as the program reads it, with a closing bracket as the last
argument. -/
def bracket : Program := fun c =>
  if c.args = ["--version".toList] then
    c.perform (Work.sayLine "[ (GNU coreutils) 9.4".toList)
  else if c.args.getLast? = some [']'] then
    test { c with args := c.args.dropLast }
  else c.perform (Work.complain 2 ("missing ".toList ++ quoted [']']))

end BitProbe.Bench

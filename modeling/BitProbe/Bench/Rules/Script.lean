import BitProbe.Bench.Rules.Cell
import BitProbe.Bench.Rules.Pattern

/-!
Scripts of rules.

A rule is a pattern with an action: for every record that the pattern chooses
the action is carried out. Names stand for variables that all rules share, or
for those of a function alone; some of them hold tables.

* `Name`, `Special`: variables, and those that have a meaning of their own;
* `Arithmetic`, `Relation`, `Builtin`: what can be worked out;
* `Expr`, `Statement`: what is worked out, and what is done;
* `Choice`, `Rule`, `Function`, `Script`: a whole script.
-/

namespace BitProbe.Bench.Rules

/-- A variable that all rules share, or one of a function's own. -/
inductive Name where
  | shared (i : Nat)
  | own (i : Nat)
  deriving DecidableEq

namespace Special

/-- The names of variables that have a meaning of their own; each is known by
its place. -/
def names : List String :=
  ["NR", "FNR", "NF", "FS", "OFS", "RS", "ORS", "FILENAME", "SUBSEP",
   "RSTART", "RLENGTH", "CONVFMT", "OFMT", "ENVIRON", "ARGC", "ARGV"]

/-- How many records there have been, and how many of a file. -/
def records : Nat := 0

@[inherit_doc records]
def fileRecords : Nat := 1

/-- How many fields there are. -/
def fields : Nat := 2

/-- What stands between fields and records. -/
def fieldSeparator : Nat := 3

@[inherit_doc fieldSeparator]
def outputSeparator : Nat := 4

@[inherit_doc fieldSeparator]
def recordSeparator : Nat := 5

@[inherit_doc fieldSeparator]
def outputEnd : Nat := 6

/-- The name of the file that is read. -/
def fileName : Nat := 7

/-- What stands between the parts of a key. -/
def keySeparator : Nat := 8

/-- Where the last match has been found, and how long it is. -/
def matchStart : Nat := 9

@[inherit_doc matchStart]
def matchLength : Nat := 10

/-- How numbers are written as texts, and to the output. -/
def textFormat : Nat := 11

@[inherit_doc textFormat]
def outputFormat : Nat := 12

/-- The variables that programs get to know. -/
def environment : Nat := 13

/-- The arguments, and how many there are. -/
def argumentCount : Nat := 14

@[inherit_doc argumentCount]
def arguments : Nat := 15

end Special

/-- What is worked out of two numbers. -/
inductive Arithmetic where
  | add | subtract | multiply | divide | remainder | power
  deriving DecidableEq

/-- How two values are compared. -/
inductive Relation where
  | less | atMost | equal | unequal | more | atLeast
  deriving DecidableEq

/-- Whether an order of two values is the one that is asked for. -/
def Relation.holds : Relation → Ordering → Bool
  | less, o => o = .lt
  | atMost, o => o ≠ .gt
  | equal, o => o = .eq
  | unequal, o => o ≠ .eq
  | more, o => o = .gt
  | atLeast, o => o ≠ .lt

/-- What can be called by a name that has a fixed meaning. -/
inductive Builtin where
  | length | index | substring | search | compose | lower | upper
  | sin | cos | arctangent | exp | log | root | whole | random | seed
  | system | close | flush | now | timeOf | date
  deriving DecidableEq

/-- Where a record is read from: the input, a file or a command. -/
inductive Origin where
  | input
  | file
  | command
  deriving DecidableEq

/-- What is worked out. -/
inductive Expr where
  | number (x : Float)
  | text (o : Octets)
  | regex (e : Engine)
  | value (n : Name)
  | element (table : Name) (keys : List Expr)
  | field (e : Expr)
  | set (target e : Expr)
  | change (a : Arithmetic) (target e : Expr)
  /-- One more or one less; whether the value before is asked for. -/
  | step (target : Expr) (isUp isAfter : Bool)
  | not (e : Expr)
  | negative (e : Expr)
  | positive (e : Expr)
  | calculate (a : Arithmetic) (e f : Expr)
  | compare (r : Relation) (e f : Expr)
  | isLike (isNegated : Bool) (e f : Expr)
  | both (e f : Expr)
  | either (e f : Expr)
  | joined (e f : Expr)
  | has (keys : List Expr) (table : Name)
  | choose (test yes no : Expr)
  | call (f : Nat) (args : List Expr)
  | builtin (b : Builtin) (args : List Expr)
  | replace (isGlobal : Bool) (pattern new target : Expr)
  | cut (e : Expr) (table : Name) (separator : Option Expr)
  | size (table : Name)
  | read (origin : Origin) (source : Option Expr) (target : Option Expr)
  deriving Inhabited

namespace Expr

/-- Whether an expression stands for something that can be set. -/
def isPlace : Expr → Bool
  | value _ => true
  | element _ _ => true
  | field _ => true
  | _ => false

/-- The whole record. -/
def record : Expr := field (number 0)

end Expr

/-- Where something is written to. -/
inductive Direction where
  | file
  | fileEnd
  | command
  deriving DecidableEq

/-- What is done. -/
inductive Statement where
  | nothing
  | work (e : Expr)
  | print (args : List Expr) (target : Option (Direction × Expr))
  | compose (args : List Expr) (target : Option (Direction × Expr))
  | sequence (ss : List Statement)
  | branch (test : Expr) (yes no : Statement)
  /-- A loop with a test, a step after each turn and a body; whether the test
  comes first. -/
  | loop (isFirst : Bool) (test : Option Expr) (step body : Statement)
  | each (n : Name) (table : Name) (body : Statement)
  | next | nextFile
  /-- The end of the script, or of a function. -/
  | finish (e : Option Expr)
  | giveBack (e : Option Expr)
  /-- The end of a loop, or of a turn of it. -/
  | leave | again
  | remove (table : Name) (keys : List Expr)
  | clear (table : Name)
  deriving Inhabited

/-- Which records a rule is for. -/
inductive Choice where
  | all
  | those (e : Expr)
  /-- From one record on up to another one; ranges have numbers. -/
  | range (n : Nat) (first last : Expr)

/-- A rule. -/
structure Rule where
  choice : Choice
  action : Statement

/-- A function: how many names of its own it has, which of them hold tables,
and what it does. -/
structure Function where
  name : Octets
  tables : Array Bool := #[]
  body : Statement := .nothing
  deriving Inhabited

/-- A script: the names that rules share and which of them hold tables, the
functions, what is done before the first record and after the last one, and
the rules. -/
structure Script where
  names : Array Octets := #[]
  tables : Array Bool := #[]
  functions : Array Function := #[]
  beginnings : List Statement := []
  endings : List Statement := []
  rules : List Rule := []
  ranges : Nat := 0
  deriving Inhabited

namespace Script

/-- Whether a script looks at records. -/
def readsRecords (s : Script) : Bool :=
  !s.rules.isEmpty || !s.endings.isEmpty

/-- A script without rules and endings looks at none. -/
theorem readsRecords_empty : ({} : Script).readsRecords = false := rfl

end Script

end BitProbe.Bench.Rules

import BitProbe.Bench.Options
import BitProbe.Bench.Programs.Places
import BitProbe.Bench.Shell.Pattern

/-!
Finding files.

* `Finding.Test`, `Finding.Expr`: what is asked about a file, and what is
  done with it;
* `Finding.alternatives`: an expression that is read from arguments;
* `Finding.Expr.evaluate`: an expression for a file;
* `Finding.Task.visit`: a file and everything in it;
* `find`: the files for which an expression holds.
-/

namespace BitProbe.Bench

namespace Finding

/-- What is asked about a file, or done with it. -/
inductive Test where
  /-- Whether the last name of the path, or all of it, looks like this. -/
  | name (isWhole ignoresCase : Bool) (p : Shell.Pattern)
  | kind (letters : List Char)
  | isEmpty
  /-- Whether the file has been written after a time. -/
  | newer (time : Int)
  | always (b : Bool)
  | print (ending : Char)
  | prune | delete | quit

/-- Whether a test does something. -/
def Test.acts : Test → Bool
  | print _ | delete | quit => true
  | _ => false

/-- Questions about a file. -/
inductive Expr where
  | test (t : Test)
  | not (x : Expr)
  | both (x y : Expr)
  | either (x y : Expr)
  /-- The second one counts. -/
  | last (x y : Expr)

/-- Whether an expression does something. -/
def Expr.acts : Expr → Bool
  | test t => t.acts
  | not x => x.acts
  | both x y | either x y | last x y => x.acts || y.acts

/-- How files are gone through. -/
structure Task where
  /-- Whether links are followed, and whether those are that are given. -/
  follows : Bool := false
  followsGiven : Bool := false
  least : Nat := 0
  most : Option Nat := none
  /-- Whether a directory comes after what stands in it. -/
  isDeep : Bool := false

/-! ### Reading expressions -/

/-- The steps of reading: the arguments that are left, and how files are gone
through. -/
abbrev Reading := StateT (List Octets × Task) (Except Octets)

/-- A pattern that is read from an argument. -/
def patternOf (ignoresCase : Bool) (o : Octets) : Shell.Pattern :=
  Shell.Pattern.ofCells
    ((if ignoresCase then o.map Char.toLower else o).map (⟨·, false⟩))

/-- The argument of a test. -/
def argument (word : Octets) : Reading Octets := do
  match (← get).1 with
  | a :: rest =>
    modify fun s => (rest, s.2)
    return a
  | [] => throw ("missing argument to \x60".toList ++ word ++ ['\x27'])

/-- A depth. -/
def depth (word : Octets) : Reading Nat := do
  let a ← argument word
  if !a.isEmpty && a.all Char.isDigit then
    return (Text.decimal? a).getD 0
  else
    throw ("Expected a positive decimal integer argument to ".toList ++ word ++
      ", but got ".toList ++ quoted a)

/-- A change of how files are gone through, which always holds. -/
def setting (f : Task → Task) : Reading Test := do
  modify fun s => (s.1, f s.2)
  return .always true

/-- A test by its word. -/
def test (t : FileTree) (word : Octets) : Reading Test := do
  let named (isWhole ignoresCase : Bool) : Reading Test := do
    return .name isWhole ignoresCase (patternOf ignoresCase (← argument word))
  match String.ofList word with
  | "-name" => named false false
  | "-iname" => named false true
  | "-path" | "-wholename" => named true false
  | "-ipath" | "-iwholename" => named true true
  | "-type" =>
    let a ← argument word
    let letters := a.splitOn ','
    match letters.find? fun l =>
        l.length ≠ 1 || !("bcdpflsD".toList.contains (l.headD ' ')) with
    | some [] =>
      throw ("Arguments to -type should contain at least one letter".toList)
    | some l => throw ("Unknown argument to -type: ".toList ++ l)
    | none => return .kind letters.flatten
  | "-empty" => return .isEmpty
  | "-newer" =>
    let a ← argument word
    match t.locate a.toText, t.lookup a.toText with
    | .ok place, .ok _ => return .newer (t.timesOf place).modified
    | .error e, _ | _, .error e =>
      throw (quoted a ++ ": ".toList ++ e.reason.toList)
  | "-true" => return .always true
  | "-false" => return .always false
  | "-print" => return .print '\n'
  | "-print0" => return .print (Char.ofNat 0)
  | "-prune" => return .prune
  | "-quit" => return .quit
  | "-delete" =>
    let _ ← setting fun k => { k with isDeep := true }
    return .delete
  | "-depth" | "-d" => setting fun k => { k with isDeep := true }
  | "-maxdepth" =>
    let n ← depth word
    setting fun k => { k with most := some n }
  | "-mindepth" =>
    let n ← depth word
    setting fun k => { k with least := n }
  | _ =>
    if word.head? = some '-' && word ≠ ['-'] then
      throw ("unknown predicate \x60".toList ++ word ++ ['\x27'])
    else
      throw ("paths must precede expression: \x60".toList ++ word ++ ['\x27'])

/-- Whether an argument is one of some words. -/
def isWord (words : List String) (o : Octets) : Bool :=
  words.any (·.toList = o)

/-- Whether something must stand before a word. -/
def joins (o : Octets) : Bool :=
  isWord ["-o", "-or", "-a", "-and", ","] o

/-- Takes the next argument if it is one of some words. -/
def take? (words : List String) : Reading (Option Octets) := do
  match (← get).1 with
  | a :: rest =>
    if isWord words a then
      modify fun s => (rest, s.2)
      return some a
    else return none
  | [] => return none

/-- Makes sure that something comes after a word. -/
def demand (word : Octets) : Reading Unit := do
  if (← get).1.isEmpty then
    throw ("expected an expression after \x27".toList ++ word ++ ['\x27'])

mutual

/-- A test, or an expression that is denied or stands in brackets. -/
def factor (t : FileTree) (fuel : Nat) : Reading Expr := do
  match fuel with
  | 0 => throw "expression too deep".toList
  | fuel + 1 =>
    match (← get).1 with
    | [] => throw "expected an expression".toList
    | a :: rest =>
      modify fun s => (rest, s.2)
      if isWord ["!", "-not"] a then
        demand a
        return .not (← factor t fuel)
      else if isWord ["("] a then
        let x ← alternatives t fuel
        if (← take? [")"]).isSome then return x
        else
          throw ("invalid expression; I was expecting to find a \x27)\x27 ".toList
            ++ "somewhere but did not see one.".toList)
      else if isWord [")"] a then throw "you have too many \x27)\x27".toList
      else if joins a then
        throw ("invalid expression; you have used a binary operator \x27".toList
          ++ a ++ "\x27 with nothing before it.".toList)
      else return .test (← test t a)
termination_by structural fuel

/-- More expressions that must hold as well. -/
def conjuncts (t : FileTree) (fuel : Nat) (x : Expr) : Reading Expr := do
  match fuel with
  | 0 => throw "expression too deep".toList
  | fuel + 1 =>
    match ← take? ["-a", "-and"], (← get).1 with
    | some a, _ =>
      demand a
      let y ← factor t fuel
      conjuncts t fuel (.both x y)
    | none, [] => return x
    | none, a :: _ =>
      if joins a || isWord [")"] a then return x
      else
        let y ← factor t fuel
        conjuncts t fuel (.both x y)
termination_by structural fuel

/-- More expressions of which one must hold. -/
def disjuncts (t : FileTree) (fuel : Nat) (x : Expr) : Reading Expr := do
  match fuel with
  | 0 => throw "expression too deep".toList
  | fuel + 1 =>
    match ← take? ["-o", "-or"] with
    | some a =>
      demand a
      let y ← conjuncts t fuel (← factor t fuel)
      disjuncts t fuel (.either x y)
    | none => return x
termination_by structural fuel

/-- More expressions of which the last counts. -/
def sequels (t : FileTree) (fuel : Nat) (x : Expr) : Reading Expr := do
  match fuel with
  | 0 => throw "expression too deep".toList
  | fuel + 1 =>
    match ← take? [","] with
    | some a =>
      demand a
      let y ← disjuncts t fuel (← conjuncts t fuel (← factor t fuel))
      sequels t fuel (.last x y)
    | none => return x
termination_by structural fuel

/-- A whole expression. -/
def alternatives (t : FileTree) (fuel : Nat) : Reading Expr := do
  match fuel with
  | 0 => throw "expression too deep".toList
  | fuel + 1 =>
    let x ← disjuncts t fuel (← conjuncts t fuel (← factor t fuel))
    sequels t fuel x
termination_by structural fuel

end

/-- The expression that all arguments are, and how files are gone through.
Files are printed unless the expression does something. -/
def read (t : FileTree) (k : Task) (args : List Octets) :
    Except Octets (Expr × Task) := do
  if args.isEmpty then return (.test (.print '\n'), k)
  let (x, rest, k) ← (alternatives t (8 * args.length + 8)).run (args, k)
  if !rest.isEmpty then throw "you have too many \x27)\x27".toList
  return (if x.acts then x else .both x (.test (.print '\n')), k)

/-! ### Going through files -/

/-- A file that is come by. -/
structure Visited where
  path : Octets
  place : List String
  node : FileTree.Node

/-- What has been said about how to go on. -/
structure Course where
  /-- Whether what stands in the directory is left out. -/
  isPruned : Bool := false
  isOver : Bool := false

/-- The letter of what stands at a place. -/
def letterOf : FileTree.Node → Char
  | .directory => 'd'
  | .file _ => 'f'
  | .link _ => 'l'
  | _ => 'c'

/-- Whether nothing stands in a file or directory. -/
def isVoid (t : FileTree) (v : Visited) : Bool :=
  match v.node with
  | .directory => !t.isFilled v.place
  | .file bytes => bytes.isEmpty
  | _ => false

/-- What a test says about a file. -/
def Test.evaluate (v : Visited) (c : Course) : Test → Work (Bool × Course)
  | name isWhole ignoresCase p =>
    let o := if isWhole then v.path else lastName v.path
    return (p.covers (if ignoresCase then o.map Char.toLower else o), c)
  | kind letters => return (letters.contains (letterOf v.node), c)
  | isEmpty => do return (isVoid (← get).files v, c)
  | newer time => do
    return (time < ((← get).files.timesOf v.place).modified, c)
  | always b => return (b, c)
  | print ending => do
    Work.say (v.path ++ [ending])
    return (true, c)
  | prune => return (true, { c with isPruned := true })
  | quit => return (true, { c with isOver := true })
  | delete => do
    let t := (← get).files
    if v.node = .directory && t.isFilled v.place then
      Work.complain 1 ("cannot delete ".toList ++ quoted v.path ++ ": ".toList ++
        FileError.notEmpty.reason.toList)
      return (false, c)
    else
      Work.setFiles (t.removeAll v.place)
      return (true, c)

/-- What an expression says about a file. -/
def Expr.evaluate (v : Visited) : Expr → Course → Work (Bool × Course)
  | test t, c => t.evaluate v c
  | not x, c => do
    let (b, c) ← x.evaluate v c
    return (!b, c)
  | both x y, c => do
    let (b, c) ← x.evaluate v c
    if b && !c.isOver then y.evaluate v c else return (b, c)
  | either x y, c => do
    let (b, c) ← x.evaluate v c
    if b || c.isOver then return (b, c) else y.evaluate v c
  | last x y, c => do
    let (b, c) ← x.evaluate v c
    if c.isOver then return (b, c) else y.evaluate v c

/-- What a path leads to, where a link may be followed. -/
def visited? (t : FileTree) (follows : Bool) (path : Octets) :
    Except FileError Visited := do
  let followed := do
    let place ← t.locate path.toText
    return (⟨path, place, ← t.lookup path.toText⟩ : Visited)
  match follows, followed with
  | true, .ok v => return v
  | _, _ =>
    let place ← t.locateEntry path.toText
    return ⟨path, place, ← t.entry path.toText⟩

/-- Goes through a file and everything in it, unless it is over; whether it is
over then. -/
def Task.visit (k : Task) (x : Expr) :
    Nat → Nat → Octets → Bool → Work Bool
  | 0, _, _, isOver => return isOver
  | _, _, _, true => return true
  | fuel + 1, deep, path, false => do
    let follows := k.follows || deep = 0 && k.followsGiven
    match visited? (← get).files follows path with
    | .error e =>
      Work.complain 1 (quoted path ++ ": ".toList ++ e.reason.toList)
      return false
    | .ok v =>
      let own : Work Course := do
        if deep < k.least then return {}
        return (← x.evaluate v {}).2
      let inside : Work Bool := do
        if v.node ≠ .directory || k.most.any (· ≤ deep) then return false
        let names := ((← get).files.children v.place).map Octets.ofString
        (names.mergeSort fun a b => a ≤ b).foldlM
          (fun isOver n => k.visit x fuel (deep + 1)
            ((if path.getLast? = some '/' then path else path ++ ['/']) ++ n)
            isOver) false
      if k.isDeep then
        if ← inside then return true
        return (← own).isOver
      else
        let c ← own
        if c.isOver then return true
        if c.isPruned then return false
        inside

/-- Whether an argument starts an expression. -/
def startsExpr (o : Octets) : Bool :=
  o.head? = some '-' && o ≠ ['-'] || isWord ["(", ")", "!", ","] o

/-- How links are treated, by the arguments in front, and the others. -/
def linkOptions : List Octets → Task → Task × List Octets
  | ['-', 'P'] :: rest, k =>
    linkOptions rest { k with follows := false, followsGiven := false }
  | ['-', 'L'] :: rest, k => linkOptions rest { k with follows := true }
  | ['-', 'H'] :: rest, k =>
    linkOptions rest { k with follows := false, followsGiven := true }
  | ['-', '-'] :: rest, k => (k, rest)
  | args, k => (k, args)

end Finding

open Finding in
/-- Writes the paths of files for which an expression holds. -/
def find : Program := fun c => c.perform do
  let t := (← get).files
  let (k, args) := linkOptions c.args {}
  let given := args.takeWhile (!startsExpr ·)
  match read t k (args.drop given.length) with
  | .error m => Work.complain 1 m
  | .ok (x, k) =>
    let paths := if given.isEmpty then [['.']] else given
    let _ ← paths.foldlM (fun isOver p =>
      k.visit x (t.nodes.length + 2) 0 p isOver) false

end BitProbe.Bench

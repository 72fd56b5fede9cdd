import BitProbe.Bench.Octets
import BitProbe.FileTree

/-!
Programs of the bench.

A program is a function: it is called with arguments, an input and files, and
ends with outputs, a status and files. Time passes only where a program
waits. A program is written as steps that change how it will end. Variables
that it gets to know say whether texts are made of characters in UTF-8 or just
of octets; in the latter case messages keep to plain quotes.

* `isPlainLocale`: what the variables say;
* `plainly`: a message with plain quotes;
* `Call`, `Ended`, `Program`: calling a program;
* `Work`, `Call.perform`: the steps of a program;
* `Work.say`, `Work.sayOn`, `Work.complain`, `Work.misuse`, `Work.hang`: what
  a step may do;
* `Work.source`, `Work.eachSource`, `Work.foldSource`: reading files;
* `Work.pour`, `Work.pass`: passing on what has been read.
-/

namespace BitProbe.Bench

/-! ### Messages -/

/-- The variables that say something about characters. -/
def localeVariables : List Octets :=
  ["LC_ALL", "LC_CTYPE", "LANG"].map String.toList

/-- What variables say about characters: the first of those that is not
empty. -/
def localeName (environment : List (Octets × Octets)) : Octets :=
  (localeVariables.findSome? fun n =>
    (environment.lookup n).filter fun o => !o.isEmpty).getD []

/-- Whether texts are just octets. -/
def isPlainLocale (environment : List (Octets × Octets)) : Bool :=
  let name := localeName environment
  let language := name.takeWhile (· ≠ '.')
  let code := ((name.drop (language.length + 1)).filter Char.isAlphanum).map
    Char.toLower
  !(language = ['C'] && code = "utf8".toList)

/-- The quotes around names in messages. -/
def openQuote : Octets := Octets.ofString "‘"

@[inherit_doc openQuote]
def closeQuote : Octets := Octets.ofString "’"

/-- A message with plain quotes, from a place that may be between them. -/
def plainlyFrom : Nat → Bool → Octets → Octets
  | 0, _, o => o
  | _, _, [] => []
  | fuel + 1, inside, c :: cs =>
    if openQuote.isPrefixOf (c :: cs) && !inside then
      '\x27' :: plainlyFrom fuel true ((c :: cs).drop openQuote.length)
    else if closeQuote.isPrefixOf (c :: cs) && inside then
      '\x27' :: plainlyFrom fuel false ((c :: cs).drop closeQuote.length)
    else if inside && c = '\x27' then '\\' :: c :: plainlyFrom fuel inside cs
    else if inside && 0x80 ≤ c.toNat then
      '\\' :: Nat.toDigits 8 c.toNat ++ plainlyFrom fuel inside cs
    else c :: plainlyFrom fuel inside cs

/-- A message with plain quotes around what stands between curved ones, and
nothing but plain octets in them. -/
def plainly (o : Octets) : Octets := plainlyFrom (o.length + 1) false o

/-! ### Programs -/

/-- What a program is called with. -/
structure Call where
  /-- The name that the program is called by. -/
  name : Octets
  args : List Octets
  input : Stream
  files : FileTree
  /-- The variables that the program gets to know. -/
  environment : List (Octets × Octets) := []
  /-- What can be read from the ways that the program is given. -/
  ways : List (Nat × Stream) := []
  /-- The place of the file that the input comes from and how much of it has
  been read, if it comes from a file. -/
  inputPlace : Option (List String × Nat) := none
  /-- The place of the file that the output goes to and where in it, if it
  goes to a file. -/
  outputPlace : Option (List String × Nat) := none

/-- How a program ends. -/
structure Ended where
  /-- The name that messages start with. -/
  name : Octets
  /-- Whether texts are just octets. -/
  plain : Bool := false
  /-- What is written to the numbered ways out, the last first. -/
  written : List (Nat × Octets) := []
  /-- What is written to the output over and over again at the end. -/
  forever : Octets := []
  status : Nat := 0
  /-- What is left of the input. -/
  input : Stream
  files : FileTree
  ways : List (Nat × Stream) := []
  /-- How long the program has waited, in microseconds. -/
  waited : Nat := 0
  /-- The signal that has ended the program, if one has. -/
  signal : Option Nat := none

/-- A program. -/
abbrev Program := Call → Ended

/-- The steps of a program. -/
abbrev Work := StateM Ended

/-- The mask that keeps modes from others. -/
def usualMask : Nat := 0o22

/-- A time that no limit exceeds, in microseconds. -/
def endless : Nat := 2 ^ 80

/-- The end of a program that does nothing. -/
def Call.nothing (c : Call) : Ended :=
  { name := c.name, plain := isPlainLocale c.environment, input := c.input
    files := c.files, ways := c.ways }

/-- The end to which steps lead. -/
def Call.perform (c : Call) (w : Work Unit) : Ended :=
  (w.run c.nothing).2

/-- A program that does nothing but end. -/
def quitter (status : Nat) : Program := fun c =>
  { c.nothing with status }

namespace Ended

/-- Whether a program goes on after what it has done. -/
def goesOn (e : Ended) : Bool :=
  e.forever.isEmpty && e.waited < endless

/-- What has been written to a way. -/
def writtenOn (e : Ended) (way : Nat) : Octets :=
  ((e.written.filter (·.1 = way)).map (·.2)).reverse.flatten

end Ended

namespace Work

/-- Writes octets to a numbered way. -/
def sayOn (way : Nat) (o : Octets) : Work Unit :=
  modify fun e => if e.goesOn then { e with written := (way, o) :: e.written }
    else e

/-- Writes octets to the output. -/
def say (o : Octets) : Work Unit := sayOn 1 o

/-- Writes a line to the output. -/
def sayLine (o : Octets) : Work Unit := say (o ++ ['\n'])

/-- Sets the status. -/
def setStatus (status : Nat) : Work Unit :=
  modify fun e => { e with status }

/-- Writes a message after the program's name, and sets the status. -/
def complain (status : Nat) (message : Octets) : Work Unit := do
  let e ← get
  let message := if e.plain then plainly message else message
  sayOn 2 (e.name ++ ": ".toList ++ message ++ ['\n'])
  setStatus status

/-- Writes a message about arguments, and one that says where to read on. -/
def misuse (status : Nat) (message : Octets) : Work Unit := do
  complain status message
  let e ← get
  sayOn 2 ("Try \x27".toList ++ e.name ++
    " --help\x27 for more information.\n".toList)

/-- Ends because of a signal. -/
def die (signal : Nat) : Work Unit :=
  modify fun e => { e with status := 128 + signal, signal := some signal }

/-- Never ends. -/
def hang : Work Unit :=
  modify fun e => { e with waited := endless }

/-- Waits. -/
def wait (microseconds : Nat) : Work Unit :=
  modify fun e => { e with waited := min endless (e.waited + microseconds) }

/-- Leaves a part of the input. -/
def leave (rest : Stream) : Work Unit :=
  modify fun e => { e with input := rest }

/-- Changes the files. -/
def setFiles (files : FileTree) : Work Unit :=
  modify fun e => { e with files }

/-- A stream, unless nothing can be read from it. -/
def faultless (s : Stream) : Except FileError Stream :=
  match s.fault with
  | some f => .error f
  | none => .ok s

/-- What can be read from the input, which is then spent. -/
def takeInput : Work (Except FileError Stream) := do
  let e ← get
  leave e.input.spent
  return faultless e.input

/-- What can be read from a path. -/
def fileAt (path : Octets) : Work (Except FileError Stream) := do
  let e ← get
  match e.files.lookup path.toText with
  | .error f => return .error f
  | .ok .directory => return .error .isADirectory
  | .ok (.file bytes) => return .ok (.ofFile (Octets.ofBytes bytes))
  | .ok .zeros => return .ok (.endless [Char.ofNat 0])
  | .ok .full => return .ok (.endless [Char.ofNat 0])
  | .ok (.way n) =>
    match n, e.ways.lookup n with
    | _, some s => return faultless s
    | 0, none => takeInput
    | _, none => return .error .notFound
  | _ => return .ok .device

/-- What can be read from a path; a dash stands for the input, which is then
spent. -/
def source (path : Octets) : Work (Except FileError Stream) :=
  if path = ['-'] then takeInput else fileAt path

/-- Passes octets on. -/
def pour (s : Stream) : Work Unit := do
  say s.held
  if s.isEndless then
    modify fun e => if e.goesOn then { e with forever := s.forever } else e

/-- How much is read of what never ends before what is made of it goes on for
ever as well. -/
def enough : Nat := 65536

/-- Says what is made of a stream. -/
def pass (f : Octets → Octets) (s : Stream) : Work Unit := do
  if s.isEndless then
    let o := f (s.split enough).1
    if o.isEmpty then hang else pour { held := o, forever := o }
  else say (f s.held)

/-- Does a step for each item as long as the program goes on. -/
def each {α : Type} (f : α → Work Unit) : List α → Work Unit
  | [] => return ()
  | a :: as => do
    f a
    if (← get).goesOn then each f as

/-- Does a step with what can be read from each path, or from the input if
there are none, and another one where nothing can be read. -/
def eachSource (paths : List Octets) (fail : Octets → FileError → Work Unit)
    (f : Octets → Stream → Work Unit) : Work Unit :=
  each (fun p => do
    match ← source p with
    | .ok s => f p s
    | .error r => fail p r)
    (if paths.isEmpty then [['-']] else paths)

/-- Does a step with what can be read from each path, or from the input if
there are none, and with what the step before has left. Where nothing can be
read, another step is done. -/
def foldSource {σ : Type} (paths : List Octets)
    (fail : Octets → FileError → Work Unit)
    (f : σ → Octets → Stream → Work σ) (start : σ) : Work σ :=
  (if paths.isEmpty then [['-']] else paths).foldlM (fun a p => do
    if !(← get).goesOn then return a
    match ← source p with
    | .ok s => f a p s
    | .error r =>
      fail p r
      return a) start

/-- Says that there is no input, if a program that wanted it has none. -/
def closeInput (what : String) (paths : List Octets) : Work Unit := do
  if (← get).input.fault = some .noWay &&
      (paths.isEmpty || paths.contains ['-']) then
    complain 1 (what.toList ++ ": ".toList ++ FileError.noWay.reason.toList)

/-- Writes a file, which may be a way out of the program. -/
def write (path : Octets) (o : Octets) : Work (Except FileError Unit) := do
  let e ← get
  match e.files.lookup path.toText with
  | .ok (.way n) =>
    sayOn n o
    return .ok ()
  | _ =>
    match e.files.write path.toText o.toBytes with
    | .ok files =>
      setFiles files
      return .ok ()
    | .error f => return .error f

end Work

end BitProbe.Bench

import BitProbe.Bench.Programs
import BitProbe.Bench.Rules.Calling
import BitProbe.Bench.Shell.Gathering

/-!
Starting what a name stands for.

* `hosts`: the programs that start others, by their names, among them one that
  changes variables (`mem_hosts_environment`);
* `runProgram`: a program, and what it writes;
* `Task`: what a shell is to run;
* `shell`: a shell that is started with arguments;
* `startFile`: what stands under a path;
* `call`: what a name stands for, which may be a function or a command of the
  shell's own.
-/

namespace BitProbe.Bench.Shell

/-- The programs that start others, by their names. -/
def hosts : List (String × Host) :=
  [("env", Host.environment), ("timeout", Host.limited),
   ("xargs", Host.gathered), ("nohup", Host.nohup), ("nice", Host.nice),
   ("setsid", Host.apart), ("stdbuf", Host.buffered), ("awk", Host.rules),
   ("mawk", Host.rules), ("nawk", Host.rules)]

/-- A program that changes variables is among them. -/
theorem mem_hosts_environment : ("env", Host.environment) ∈ hosts := by
  simp [hosts]

/-! ### Programs -/

/-- What can be read from the ways of a process, from the start if they lead
to files. -/
def waysIn (st : State) : List (Nat × Stream) :=
  st.ways.filterMap fun (w : Nat × Nat) =>
    match st.channels[w.2]? with
    | some (.file place _ access) =>
      some (w.1, st.streamOf (.file place 0 access))
    | some c => if w.1 = 0 then none else some (w.1, st.streamOf c)
    | none => none

/-- What a program says if its output cannot be written, and the status that
it ends with. -/
def writeFailure (name : Octets) (e : FileError) : List Octets × Nat :=
  let plain := String.ofList (plainName name)
  let output : Octets := "standard output: ".toList ++ e.reason.toList
  let quotedOutput : Octets :=
    "\x27standard output\x27: ".toList ++ e.reason.toList
  let usual : Octets := "write error: ".toList ++ e.reason.toList
  let status := match plain with
    | "ls" => 2
    | "printenv" => 2
    | "sort" => 2
    | "grep" => 2
    | "env" => 125
    | "expr" => 3
    | _ => 1
  let messages := match plain with
    | "cat" => [if e = .noWay then output else usual]
    | "yes" => [output]
    | "tee" => [quotedOutput]
    | "dd" => ["error writing ".toList ++ quotedOutput]
    | "sort" => ["fflush failed: ".toList ++ quotedOutput,
        "write error".toList]
    | "wc" => [if e = .noWay then usual else "write error".toList]
    | "rev" => if e = .noWay then [] else [usual]
    | _ => [usual]
  (messages, if messages.isEmpty then 0 else status)

/-- Why nothing can be written to the output, if that is so. -/
def outputFault (st : State) : Option FileError :=
  match st.send 1 [' '] with
  | .ok _ => none
  | .error e => some e

/-- Writes what a program has written. -/
def deliver (st : State) (part : Nat × Octets) : State :=
  st.sendOr part.1 part.2

/-- Where in which file a number reads or writes, if it leads to a file. -/
def placeAt (st : State) (way : Nat) : Option (List String × Nat) :=
  match st.channel? way with
  | some (.file place offset access) =>
    let size := match st.files.node? place with
      | some (.file bytes) => bytes.length
      | _ => 0
    some (place, if access = .adding then size else offset)
  | _ => none

/-- The state with the modes of the files that a program has made. -/
def madeModes (before : FileTree) (st : State) : State :=
  if st.mask = usualMask then st
  else (st.files.nodes.filter fun n =>
      (before.node? n.1).isNone).foldl (fun (st : State) n =>
    match n.2 with
    | .file _ =>
      let m := st.files.mode n.1 ||| (st.files.mode n.1 &&& 0o444) >>> 1
      let m := m - (m &&& st.mask)
      { st with files := st.files.setMode n.1 m }
    | .directory =>
      { st with files := st.files.setMode n.1 (0o777 - (0o777 &&& st.mask)) }
    | _ => st) st

/-- How much work it is to start a program. -/
def startWork : Nat := 10

/-- The state after a program that works up to a time, unless an alarm ends
it. -/
def ended (signal : Option Nat) (t : Nat) (before after : State) : State :=
  match before.deadlyAlarm? t with
  | some a =>
    { after with
      clock := a.time
      isStuck := before.isStuck
      status := 128 + a.signal
      fatal := some a.signal }
  | none => { after with clock := t, fatal := signal }

/-- Runs a program. It waits after it has written. -/
def runProgram (p : Program) (name : Octets) (args : List Octets)
    (st : State) : State :=
  let e := p { name, args, input := st.streamAt 0, files := st.files,
               environment := st.environment, ways := waysIn st
               inputPlace := placeAt st 0, outputPlace := placeAt st 1 }
  let start := st
  let st := madeModes start.files { st.leave 0 e.input with
    files := e.files
    status := e.status }
  let writes := !(e.writtenOn 1).isEmpty || !e.forever.isEmpty
  let fault := if writes then outputFault st else none
  let st := e.written.reverse.foldl deliver st
  let st := match fault with
    | some r =>
      let (messages, status) := writeFailure name r
      let st := messages.foldl (fun (st : State) m =>
        st.sendOr 2 (name ++ ": ".toList ++ m ++ ['\n'])) st
      { st with status }
    | none => if e.forever.isEmpty then st else st.sendForever 1 e.forever
  (ended e.signal (st.clock + e.waited) start st).spend startWork

/-- The programs that a shell has itself. -/
def ownPrograms : List (String × Program) :=
  [("echo", ownEcho), ("printf", ownPrintf), ("test", ownTest),
   ("[", ownBracket)]

/-- Runs a program that the shell has itself. Its messages are those of the
shell, and come before what it writes. -/
def runOwn (p : Program) (args : List Octets) (st : State) : State :=
  let start := st.messageStart.dropLast.dropLast
  let e := p { name := start, args, input := .empty, files := st.files }
  let st := { st with status := e.status }
  let st := st.sendOr 2 (e.writtenOn 2)
  Builtin.say (e.writtenOn 1) st

/-! ### Shells -/

/-- What a shell is to run: a text, the name for messages and the arguments;
or why it cannot. -/
inductive Task where
  | text (source : Octets) (name : Option Octets) (args : List Octets)
  | file (path : Octets) (args : List Octets)
  | input (args : List Octets)
  | refused (message : Octets)
  | listing

/-- What the letters before the arguments of a shell ask for. -/
structure Leading where
  settings : List Char := []
  /-- Whether a text is to be run. -/
  isText : Bool := false
  isInput : Bool := false

/-- What the letters of an argument ask for. Names of settings are further
arguments, and what is left is returned. -/
def Leading.letters (on : Bool) :
    Octets → List Octets → Leading → Except Task (Leading × List Octets)
  | [], rest, l => .ok (l, rest)
  | c :: cs, rest, l =>
    let set (c : Char) : Leading :=
      { l with settings := if on then c :: l.settings.filter (· ≠ c)
          else l.settings.filter (· ≠ c) }
    if c = 'c' then letters on cs rest { l with isText := true }
    else if c = 'l' then letters on cs rest l
    else if c = 'o' then
      match rest with
      | [] => .error .listing
      | name :: rest =>
        match Builtin.settingNames.find? (·.1.toList = name) with
        | some (_, c) => letters on cs rest (set c)
        | none => .error (.refused ("Illegal option -o ".toList ++ name))
    else if Builtin.isSettingLetter c then
      letters on cs rest { set c with isInput := l.isInput || on && c = 's' }
    else .error (.refused ("Illegal option -".toList ++ [c]))

/-- What the arguments of a shell ask for, after the letters at their
start. -/
def Leading.ofArguments :
    Nat → List Octets → Leading → Except Task (Leading × List Octets)
  | 0, args, l => .ok (l, args)
  | fuel + 1, args, l =>
    match args with
    | ['-'] :: rest => .ok (l, rest)
    | ['-', '-'] :: rest => .ok (l, rest)
    | ('-' :: cs) :: rest => do
      let (l, rest) ← letters true cs rest l
      ofArguments fuel rest l
    | ('+' :: cs) :: rest => do
      let (l, rest) ← letters false cs rest l
      ofArguments fuel rest l
    | args => .ok (l, args)

/-- What the arguments of a shell ask for. -/
def Task.ofArguments (args : List Octets) : Leading × Task :=
  match Leading.ofArguments (args.length + 1) args {} with
  | .error t => ({}, t)
  | .ok (l, rest) =>
    if l.isText then
      match rest with
      | [] => (l, .refused "-c requires an argument".toList)
      | source :: rest => (l, .text source rest.head? rest.tail)
    else if l.isInput then (l, .input rest)
    else
      match rest with
      | [] => ({ l with settings := 's' :: l.settings }, .input [])
      | path :: args => (l, .file path args)

/-- Where programs are looked for if nothing else is said. -/
def usualPath : Octets :=
  "/usr/local/sbin:/usr/local/bin:/usr/sbin:/usr/bin:/sbin:/bin".toList

/-- The variables that a shell starts with, besides those that it gets to
know. -/
def startVariables (parent : Nat) (directory : Octets) : Variables :=
  let plain (name : String) (value : Octets) : Octets × Variable :=
    (name.toList, ⟨some value, false, false⟩)
  [("PWD".toList, ⟨some directory, true, false⟩),
   plain "IFS" usualSeparators, plain "OPTIND" ['1'],
   plain "PS1" ['#', ' '], plain "PS2" ['>', ' '], plain "PS4" ['+', ' '],
   plain "PPID" (Text.decimal parent)]

/-- Runs a task. -/
def Task.run (exec : Runner) (t : Task) (st : State) : State :=
  match t with
  | .text source name args =>
    runText exec .text source { st with name := name.getD st.name, args }
  | .input args =>
    let s := st.streamAt 0
    let st := { st.leave 0 s.spent with args }
    if s.isEndless then st.stuck else runText exec .file s.held st
  | .file path args =>
    match st.files.lookup path.toText with
    | .ok node =>
      let text := Octets.ofBytes ((FileTree.contents node).toOption.getD [])
      runText exec .file text { st with name := path, args }
    | .error e =>
      { st with line := 0 }.fail ("cannot open ".toList ++ path ++
        ": ".toList ++ openReason e "No such file")
  | .refused m => { st with line := 0 }.fail m
  | .listing =>
    Builtin.say (Builtin.settingTable true { st with
      settings := Builtin.settingNames.map (·.2) }) st

/-- Runs a shell that is started with arguments, up to its end. -/
def shellProcess (exec : Runner) (name : Octets) (args : List Octets)
    (st : State) : State :=
  let (l, task) := Task.ofArguments args
  let known := st.bindings.filter fun v => v.2.exported
  let start := startVariables st.number st.directory
  let n := st.nextNumber
  let process : Process := {
    name
    bindings := start ++ (known.filterMap fun v =>
        if (start.lookup v.1).isSome then none
        else some (v.1, { v.2 with fixed := false })) ++
      if (known.lookup "PATH".toList).isSome then []
      else [("PATH".toList, ⟨some usualPath, false, false⟩)]
    traps := st.traps.filter (·.2.isEmpty)
    settings := l.settings.filter (· ≠ 'm')
    ways := st.ways
    clock := st.clock
    limit := st.limit
    alarms := st.alarms
    number := n
    ancestors := st.number :: st.ancestors
    workDir := st.workDir
    directory := st.directory
    mask := st.mask
    niceness := st.niceness
    limits := st.limits }
  let inner : State := { st with toProcess := process, nextNumber := n + 1 }
  let inner := if l.settings.contains 'm' then
      { inner with line := 0 }.complain Builtin.noTerminal
    else inner
  finish exec (task.run exec { inner with line := 1 })

/-- Runs a shell and comes back from it. -/
def shell (exec : Runner) (name : Octets) (args : List Octets)
    (st : State) : State :=
  st.rejoin (shellProcess exec name args (st.spend startWork))

/-- The name of the shell. -/
def shellName : String := "dash"

/-! ### Files -/

/-- Whether the contents of a file are no text. -/
def isBinary (text : Octets) : Bool :=
  (text.take 256).contains (Char.ofNat 0) ||
    "\x7fELF".toList.isPrefixOf text

/-- The program that the first line of a file asks for, and an argument for
it. -/
def interpreter? (text : Octets) : Option (Octets × List Octets) :=
  match text with
  | '#' :: '!' :: cs =>
    let line := (cs.takeWhile (· ≠ '\n')).dropWhile fun c => c = ' ' || c = '\t'
    let path := line.takeWhile fun c => c ≠ ' ' && c ≠ '\t'
    let rest := (line.drop path.length).dropWhile fun c => c = ' ' || c = '\t'
    let rest := Text.dropRight (fun c => c = ' ' || c = '\t') rest
    some (path, if rest.isEmpty then [] else [rest])
  | _ => none

/-- The path of the program that a program starts by a name. It only knows the
variables that other programs get to know, and looks in some directories
without them. -/
def findForProgram (name : Octets) (st : State) : Except FileError Octets :=
  let path := "PATH".toList
  let isKnown := (st.bindings.lookup path).any fun v =>
    v.exported && v.value.isSome
  findProgram name (if isKnown then st else
    { st with bindings :=
        st.bindings.put path ⟨some "/bin:/usr/bin".toList, false, false⟩ })

/-- Starts what stands under a path, by a name and with arguments. -/
def startFile (exec : Runner) : Nat → Octets → Octets → List Octets →
    State → Except FileError State
  | 0, _, _, _, _ => .error .tooManyLinks
  | fuel + 1, path, name, args, st =>
    let start : Start := fun name args st =>
      match findForProgram name st with
      | .error e => .error e
      | .ok path => startFile exec fuel path name args st
    match st.files.lookup path.toText, st.files.locate path.toText with
    | .error e, _ => .error e
    | _, .error e => .error e
    | .ok (.program n), _ =>
      match programs.lookup n, hosts.lookup n with
      | some p, _ => .ok (runProgram p name args st)
      | none, some h => .ok (h start name args st)
      | none, none => .ok (shell exec name args st)
    | .ok (.file bytes), .ok place =>
      if !st.files.isRunnable place then .error .permissionDenied
      else
        let text := Octets.ofBytes bytes
        match interpreter? text with
        | some (p, more) => startFile exec fuel p p (more ++ path :: args) st
        | none =>
          if isBinary text then .error .notAProgram
          else .ok (shell exec path (path :: args) st)
    | _, _ => .error .permissionDenied

/-- How many programs may stand between a name and what is run. -/
def startLimit : Nat := 100

/-- The status of a command that cannot be started. -/
def refusalStatus : FileError → Nat
  | .notFound => 127
  | .notADirectory => 127
  | .tooManyLinks => 127
  | .nameTooLong => 127
  | _ => 126

/-- Runs the program that a name stands for. -/
def runExternal (exec : Runner) (name : Octets) (args : List Octets)
    (st : State) : State :=
  let refused (status : Nat) (e : FileError) (st : State) : State :=
    { st.complain (name ++ ": ".toList ++ openReason e "not found") with
      status }
  match findProgram name st with
  | .error e =>
    let slash := name.contains '/'
    refused (if slash then refusalStatus e else 127) e st
  | .ok path =>
    let ready := { st with alarms := st.alarms.filter (·.spreads) }
    match startFile exec startLimit path name args ready with
    | .ok after =>
      let after := { after with alarms := st.alarms }.tellFatal
      if name.contains '/' || after.known.contains name then after
      else { after with known := name :: after.known }
    | .error e => refused (refusalStatus e) e st

/-! ### Calls -/

/-- The commands of the shell's own that need nothing but the state. -/
def builtins : List (String × Bool × Builtin) :=
  Builtin.control ++ Builtin.settings ++ Builtin.naming ++ Builtin.input ++
    Builtin.processes

/-- The names of the shell's own commands. -/
def ownNames : OwnNames where
  special := "exec" :: (builtins.filter (·.2.1)).map (·.1)
  plain := "command" :: "type" :: ownPrograms.map (·.1) ++
    (builtins.filter fun b => !b.2.1).map (·.1)

/-- The names of the shell's own commands whose failures end the script. -/
def lastingNames : List Octets := ownNames.special.map String.toList

/-- Whether a name stands for one of the shell's own commands whose failures
end the script. -/
def isSpecial (name : Octets) : Bool := lastingNames.contains name

/-- The commands of the shell's own by their names. -/
def builtinsByName : List (Octets × Bool × Builtin) :=
  builtins.map fun b => (b.1.toList, b.2)

/-- The programs that a shell has itself by their names. -/
def ownProgramsByName : List (Octets × Program) :=
  ownPrograms.map fun p => (p.1.toList, p.2)

/-- How many functions may be run by each other. -/
def callLimit : Nat := 1000

/-- Runs a function. -/
def runFunction (exec : Runner) (body : Command) (args : List Octets)
    (st : State) : State :=
  if callLimit ≤ st.calls then
    st.fail ("Maximum function recursion depth (".toList ++
      Text.decimal callLimit ++ ") reached".toList)
  else
    let after := exec body { st with
      args
      outer := some {}
      calls := st.calls + 1
      loops := 0
      optionIndex := 1
      optionPlace := none }
    { Builtin.restoreOuter (after.outer.getD {}) after with
      args := st.args
      outer := st.outer
      calls := st.calls
      loops := st.loops
      optionIndex := st.optionIndex
      optionPlace := st.optionPlace
      flow := if after.flow = .returning then .onward else after.flow }

/-- The letters before the name that a certain command is to call. -/
structure Asked where
  describes : Bool := false
  inWords : Bool := false

/-- What the arguments of that command ask for, and the arguments left. -/
def Asked.ofArguments (args : List Octets) :
    Except Octets (Asked × List Octets) :=
  let size := (args.map (·.length + 1)).sum + 1
  (Builtin.flags ['p', 'v', 'V'] [] size args).map fun r =>
    let shows := (r.1.reverse.find? fun f => f.1 ≠ 'p').map (·.1)
    (⟨shows.isSome, shows = some 'V'⟩, r.2)

/-- Runs a command of the shell's own. A failure ends the script only if the
command is a special one that has been called as such. -/
def runBuiltin (exec : Runner) (special : Bool) (b : Builtin)
    (name : Octets) (args : List Octets) (st : State) : State :=
  let after := b exec args { st with speaker := some name }
  { after with
    speaker := st.speaker
    flow := if after.flow = .failing && !special then .onward
      else after.flow }

/-- Runs what a name stands for, functions apart. A flag says whether special
commands count as such. -/
def callPlain (exec : Runner) (special : Bool) (name : Octets)
    (args : List Octets) (st : State) : State :=
  match builtinsByName.lookup name, ownProgramsByName.lookup name with
  | some (s, b), _ => runBuiltin exec (s && special) b name args st
  | none, some p =>
    runBuiltin exec false (fun _ args st => runOwn p args st) name args st
  | none, none =>
    if name = "type".toList then
      runBuiltin exec false
        (fun _ args st => Builtin.describeAll ownNames true args st) name args
        st
    else runExternal exec name args st

/-- Runs what a name stands for after a certain word, before which functions
and the special nature of commands do not count. -/
def callUnder (exec : Runner) : Nat → List Octets → State → State
  | 0, _, st => st
  | fuel + 1, args, st =>
    match Asked.ofArguments args with
    | .error m =>
      runBuiltin exec false (fun _ _ st => st.fail m) "command".toList args st
    | .ok (asked, rest) =>
      if asked.describes then
        Builtin.describeAll ownNames asked.inWords (rest.take 1) st
      else
        match rest with
        | [] => { st with status := 0 }
        | name :: args =>
          if name = "command".toList then callUnder exec fuel args st
          else callPlain exec false name args st

/-- Runs what a name stands for. -/
def call (exec : Runner) (name : Octets) (args : List Octets) (st : State) :
    State :=
  if isSpecial name then callPlain exec true name args st
  else
    match st.functions.lookup name with
    | some body => runFunction exec body args st
    | none =>
      if name = "command".toList then
        callUnder exec (args.length + 1) args st
      else callPlain exec true name args st

end BitProbe.Bench.Shell

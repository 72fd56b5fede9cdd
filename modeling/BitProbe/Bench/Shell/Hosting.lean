import BitProbe.Bench.Shell.Builtin.Jobs
import BitProbe.Bench.Programs.Numbers

/-!
Programs that start other programs.

Such a program changes what the other one finds, its variables, its
directory, its signals or its time, and ends with its status.

* `Start`, `Host`: starting a program by its name, and programs that do so;
* `Host.plan`: what arguments ask for, with the messages about them;
* `Host.environment`: other variables;
* `Host.limited`: a time that may be taken;
* `Host.nice`, `Host.nohup`, `Host.buffered`, `Host.apart`: little else.
-/

namespace BitProbe.Bench.Shell

/-- What starts the program with a name. -/
abbrev Start := Octets → List Octets → State → Except FileError State

/-- A program that starts others, by the name it is called by and its
arguments. -/
abbrev Host := Start → Octets → List Octets → State → State

namespace Host

/-! ### Arguments and ends -/

/-- Does steps that lead to what a program is to do, and goes on with that
unless the steps have ended the program. -/
def plan {α : Type} (name : Octets) (args : List Octets) (st : State)
    (w : Work (Option α)) (f : α → State → State) : State :=
  let call : Call := { name, args, input := st.streamAt 0, files := st.files,
                       environment := st.environment }
  let (found, e) := w.run call.nothing
  let st := e.written.reverse.foldl
    (fun (st : State) part => st.sendOr part.1 part.2) st
  match found with
  | some a => f a st
  | none => { st with status := e.status }

/-- A task with what options add to it, and the arguments after them. Options
end at the first other argument. -/
def asked {τ : Type} (failure : Nat) (switches : List Switch)
    (args : List Octets) (task : τ) (add : τ → Opt → Work (Option τ)) :
    Work (Option (τ × List Octets)) := do
  let p := optionsOf switches false args
  match ← Work.addOptions add task p.options, p.others with
  | none, _ => return none
  | some _, .error m =>
    Work.misuse failure m.message
    return none
  | some k, .ok rest => return some (k, rest)

/-- Ends the program with a message. -/
def refuse {α : Type} (status : Nat) (message : Octets) : Work (Option α) := do
  Work.complain status message
  return none

/-- Ends the program with a message about the arguments. -/
def refuseUse {α : Type} (status : Nat) (message : Octets) :
    Work (Option α) := do
  Work.misuse status message
  return none

/-- Writes a message and ends with a status. -/
def complain (name : Octets) (status : Nat) (message : Octets) (st : State) :
    State :=
  let message := if isPlainLocale st.environment then plainly message
    else message
  { st.sendOr 2 (name ++ ": ".toList ++ message ++ ['\n']) with status }

/-- The status of a program that cannot be started. -/
def failureStatus : FileError → Nat
  | .notFound => 127
  | _ => 126

/-- The state of a program that has waited for another one: what it has
itself is as before. -/
def returned (before after : State) : State :=
  State.resume { before.toProcess with
    status := after.status
    clock := after.clock
    fatal := after.fatal } after

/-- Starts a program with the state changed for it, or says with its name why
that is not possible. -/
def begin (start : Start) (name : Octets) (lead : Octets)
    (command : Octets) (args : List Octets) (change : State → State)
    (st : State) : State :=
  match start command args (change st) with
  | .ok after => returned st after
  | .error e =>
    complain name (failureStatus e) (lead ++ ": ".toList ++ e.reason.toList) st

/-- What is said of a command that cannot be run. -/
def notRun (shown : Octets) : Octets := "failed to run command ".toList ++ shown

/-! ### Variables -/

/-- What is to be different for a program. -/
structure Surroundings where
  /-- Whether there are no variables but those that are given. -/
  isBare : Bool := false
  zero : Bool := false
  unset : List Octets := []
  directory : Option Octets := none
  tells : Bool := false
  /-- What is to become of signals, the last first; none means every one. -/
  signals : List (Bool × Option (List Nat)) := []

/-- The name at the start of what stands after a dollar sign in braces. -/
def bracedName? (o : Octets) : Option Octets :=
  match o with
  | '\x7b' :: cs =>
    let name := nameAt cs
    if name.isEmpty || (cs.drop name.length).head? ≠ some '\x7d' then none
    else some name
  | _ => none

/-- The letters that stand for control characters in a text that is cut into
arguments. -/
def cutLetters : List (Char × Char) :=
  [('f', '\x0c'), ('n', '\n'), ('r', '\x0d'), ('t', '\t'), ('v', '\x0b')]

/-- A text cut into arguments at blanks outside quotes, from a place that may
be between quotes, with the argument that has begun; or what is wrong with the
text. -/
def cutArguments (environment : List (Octets × Octets)) :
    Nat → Option Char → Option Octets → Octets → Except Octets (List Octets)
  | 0, _, _, _ => .ok []
  | _, quote, begun, [] =>
    if quote.isSome then
      .error "no terminating quote in -S string".toList
    else .ok begun.toList
  | fuel + 1, quote, begun, c :: cs =>
    let rest := cutArguments environment fuel
    let add (c : Char) (cs : Octets) : Except Octets (List Octets) :=
      rest quote (some (begun.getD [] ++ [c])) cs
    let cut (cs : Octets) : Except Octets (List Octets) :=
      (rest none none cs).map (begun.toList ++ ·)
    if c = '\x27' && quote ≠ some '\x22' || c = '\x22' && quote ≠ some '\x27'
    then rest (if quote.isSome then none else some c) (some (begun.getD [])) cs
    else if isSpace c && quote.isNone then cut (cs.dropWhile isSpace)
    else if c = '#' && quote.isNone && begun.isNone then .ok []
    else if c = '\\' && (quote ≠ some '\x27' || cs.head? = some '\\' ||
        cs.head? = some '\x27') then
      match cs with
      | [] => .error "invalid backslash at end of string in -S".toList
      | d :: cs =>
        if d ∈ ['\x22', '#', '$', '\x27', '\\'] then add d cs
        else if d = '_' then
          if quote = some '\x22' then add ' ' cs else cut cs
        else if d = 'c' then
          if quote = some '\x22' then
            .error ("\x27\\c\x27 must not appear in double-quoted " ++
              "-S string").toList
          else .ok begun.toList
        else
          match cutLetters.lookup d with
          | some e => add e cs
          | none => .error ("invalid sequence \x27\\".toList ++ d ::
              "\x27 in -S".toList)
    else if c = '$' && quote ≠ some '\x27' then
      match bracedName? cs with
      | none =>
        .error ("only $\x7bVARNAME\x7d expansion is supported, error at: ".toList
          ++ c :: cs)
      | some name =>
        let cs := cs.drop (name.length + 2)
        match environment.lookup name with
        | some v => rest quote (some (begun.getD [] ++ v)) cs
        | none => rest quote begun cs
    else add c cs

/-- Arguments with those in place of them that stand together in one text,
which is the value of an option. -/
def cutOptions (environment : List (Octets × Octets)) :
    Nat → List Octets → Except Octets (List Octets)
  | 0, args => .ok args
  | _, [] => .ok []
  | fuel + 1, arg :: rest =>
    let go := cutOptions environment fuel
    let expand (lead : List Octets) (text : Octets) (rest : List Octets) :
        Except Octets (List Octets) := do
      let args ← cutArguments environment (text.length + 1) none none text
      return lead ++ (← go (args ++ rest))
    let keep (n : Nat) : Except Octets (List Octets) :=
      (go (rest.drop n)).map ((arg :: rest.take n) ++ ·)
    match arg with
    | ['-', '-'] => .ok (arg :: rest)
    | '-' :: '-' :: word =>
      let name := word.takeWhile (· ≠ '=')
      let hasValue := name.length < word.length
      if name.isPrefixOf "split-string".toList && !name.isEmpty then
        if hasValue then expand [] (word.drop (name.length + 1)) rest
        else
          match rest with
          | text :: rest => expand [] text rest
          | [] => .ok [arg]
      else keep (if !hasValue && (name.isPrefixOf "unset".toList ||
        name.isPrefixOf "chdir".toList) then 1 else 0)
    | '-' :: c :: cs =>
      let plain := (c :: cs).takeWhile (· ∈ ['i', '0', 'v'])
      match (c :: cs).drop plain.length with
      | 'S' :: text =>
        let lead := if plain.isEmpty then [] else ['-' :: plain]
        if !text.isEmpty then expand lead text rest
        else
          match rest with
          | text :: rest => expand lead text rest
          | [] => .ok [arg]
      | [d] => keep (if d = 'u' || d = 'C' then 1 else 0)
      | _ => keep 0
    | arg => .ok (arg :: rest)

/-- Whether an argument sets a variable. -/
def isSetting (a : Octets) : Bool := a.contains '='

/-- Variables as lines. -/
def environmentLines (vs : List (Octets × Octets)) : List Octets :=
  vs.map fun v => v.1 ++ '=' :: v.2

/-- The signals that a list of names stands for, or the first name that stands
for none. -/
def signalList (o : Octets) : Except Octets (List Nat) :=
  (o.splitOn ',').mapM fun n => match Signal.operand? n with
    | some s => .ok s
    | none => .error n

/-- What an option of a program that changes the surroundings adds. -/
def Surroundings.add (s : Surroundings) (o : Opt) :
    Work (Option Surroundings) := do
  let v := o.value.getD []
  match o.key with
  | "ignore-environment" => return some { s with isBare := true }
  | "null" => return some { s with zero := true }
  | "debug" => return some { s with tells := true }
  | "unset" => return some { s with unset := s.unset ++ [v] }
  | "chdir" => return some { s with directory := some v }
  | "list-signal-handling" => return some s
  | key =>
    match o.value.map signalList with
    | none => return some { s with
        signals := (key ≠ "default-signal", none) :: s.signals }
    | some (.ok ns) => return some { s with
        signals := (key ≠ "default-signal", some ns) :: s.signals }
    | some (.error n) => refuseUse 125 (quoted n ++ ": invalid signal".toList)

/-- The options of a program that changes the surroundings. -/
def Surroundings.switches : List Switch :=
  [.flag 'i' "ignore-environment", .flag '0' "null", .flag 'v' "debug",
   .valued 'u' "unset", .valued 'C' "chdir", .valued 'S' "split-string",
   .long "block-signal" .maybe, .long "default-signal" .maybe,
   .long "ignore-signal" .maybe, .long "list-signal-handling" .nothing]

/-- What a program has in its surroundings, and the command that it starts. -/
def Surroundings.read (st : State) (args : List Octets) :
    Work (Option (Surroundings × List Octets)) := do
  match cutOptions st.environment (args.flatten.length + args.length + 1) args
    with
  | .error m => refuse 125 m
  | .ok args =>
    let some (s, rest) ← asked 125 switches args {} add | return none
    let dash := rest.head? = some ['-']
    let s := if dash then { s with isBare := true } else s
    let rest := if dash then rest.tail else rest
    let command := rest.dropWhile isSetting
    match s.unset.find? fun n => n.isEmpty || n.contains '=' with
    | some n =>
      if s.isBare then return some (s, rest)
      else refuse 125 ("cannot unset ".toList ++ quoted n ++
        ": Invalid argument".toList)
    | none =>
      if s.zero && !command.isEmpty then
        refuseUse 125 "cannot specify --null (-0) with command".toList
      else if s.directory.isSome && command.isEmpty then
        refuseUse 125 "must specify command with --chdir (-C)".toList
      else return some (s, rest)

/-- The state with signals ignored or no longer so. -/
def Surroundings.heeding (s : Surroundings) (st : State) : State :=
  s.signals.reverse.foldl (fun (st : State) change =>
    match change with
    | (false, none) => { st with traps := [] }
    | (true, none) => st
    | (ignored, some ns) =>
      let others := st.traps.filter fun t => !ns.contains t.1
      { st with
        traps := if ignored then ns.map (·, []) ++ others else others }) st

/-- The state with other variables. -/
def Surroundings.bindings (s : Surroundings) (settings : List Octets)
    (st : State) : State :=
  let vs := if s.isBare then st.bindings.filter fun v => !v.2.exported
    else s.unset.foldl Variables.drop st.bindings
  { st with
    bindings := settings.foldl (fun (vs : Variables) a =>
      let (n, v) := Builtin.assignmentOf a
      match vs.findIdx? (·.1 = n), vs.lookup n with
      | some i, some old =>
        if old.exported then List.set vs i (n, ⟨v, true, false⟩)
        else vs.put n ⟨v, true, false⟩
      | _, _ => vs.put n ⟨v, true, false⟩) vs }

/-- What is told about surroundings and a command. -/
def Surroundings.told (s : Surroundings) (settings command : List Octets) :
    Octets :=
  let line (lead : String) (o : Octets) : Octets := lead.toList ++ o ++ ['\n']
  (if s.isBare then line "cleaning environ" []
    else s.unset.flatMap (line "unset:    ")) ++
    settings.flatMap (line "setenv:   ") ++
    (s.directory.elim [] fun d => line "chdir:    " (quoted d)) ++
    match command with
    | [] => []
    | c :: _ => line "executing: " c ++ (command.zipIdx.flatMap fun a =>
        line "   arg[" (Text.decimal a.2 ++ "]= ".toList ++ quoted a.1))

/-- Starts a program with other variables, or lists them. -/
def environment : Host := fun start name args st =>
  plan name args st (Surroundings.read st args) fun (s, rest) st =>
    let settings := rest.takeWhile isSetting
    let command := rest.dropWhile isSetting
    let st := if s.tells then st.sendOr 2 (s.told settings command) else st
    let ready := s.bindings settings (s.heeding st)
    match command with
    | [] =>
      let ending := if s.zero then Char.ofNat 0 else '\n'
      { st.sendOr 1 ((environmentLines ready.environment).flatMap
          (· ++ [ending])) with status := 0 }
    | command :: args =>
      let moved : Except FileError State := match s.directory with
        | none => .ok ready
        | some d => match ready.files.lookup d.toText,
            ready.files.locate d.toText with
          | .ok .directory, .ok place => .ok { ready with
              workDir := place
              directory := placePath place
              files := { ready.files with workDir := place } }
          | .ok _, _ => .error .notADirectory
          | .error e, _ => .error e
      match moved with
      | .error e => complain name 125 ("cannot change directory to ".toList ++
          named (s.directory.getD []) ++ ": ".toList ++ e.reason.toList) st
      | .ok ready =>
        match start command args ready with
        | .ok after => returned st after
        | .error e =>
          let refused := complain name (failureStatus e)
            (quoted command ++ ": ".toList ++ e.reason.toList) st
          if e = .notFound && command.contains ' ' then
            complain name 127
              "use -[v]S to pass options in shebang lines".toList refused
          else refused

/-! ### Times -/

/-- How long a program may take, and what ends it then. -/
structure Limit where
  signal : Nat := 15
  /-- How long after that it is ended for certain. -/
  patience : Option Nat := none
  keepsStatus : Bool := false
  alone : Bool := false
  tells : Bool := false

/-- What an option adds to a limit. -/
def Limit.add (l : Limit) (o : Opt) : Work (Option Limit) := do
  let v := o.value.getD []
  match o.key with
  | "signal" =>
    match Signal.operand? v with
    | some n => return some { l with signal := n }
    | none => refuseUse 125 (quoted v ++ ": invalid signal".toList)
  | "kill-after" =>
    match duration? v with
    | some d => return some { l with patience := some d }
    | none => refuseUse 125 ("invalid time interval ".toList ++ quoted v)
  | "preserve-status" => return some { l with keepsStatus := true }
  | "foreground" => return some { l with alone := true }
  | _ => return some { l with tells := true }

/-- A limit with its time, and the command that it is for. -/
def Limit.read (args : List Octets) :
    Work (Option (Limit × Nat × Octets × List Octets)) := do
  let some (l, rest) ← asked 125
    [.valued 's' "signal", .valued 'k' "kill-after",
     .long "preserve-status" .nothing, .long "foreground" .nothing,
     .flag 'v' "verbose"] args ({} : Limit) Limit.add | return none
  match rest with
  | time :: command :: args =>
    match duration? time with
    | some d => return some (l, d, command, args)
    | none => refuseUse 125 ("invalid time interval ".toList ++ quoted time)
  | _ =>
    let e ← get
    Work.sayOn 2 ("Try \x27".toList ++ e.name ++
      " --help\x27 for more information.\n".toList)
    Work.setStatus 125
    return none

/-- The alarms of a limit that is reached at a time. -/
def Limit.alarms (l : Limit) (t : Nat) : List Alarm :=
  let last := match l.patience with
    | some d => if d = 0 then [] else [⟨t + d, State.deadlySignal, !l.alone⟩]
    | none => []
  ⟨t, l.signal, !l.alone⟩ :: last

/-- Tells which signals have been sent up to now. -/
def Limit.tell (l : Limit) (name : Octets) (alarms : List Alarm)
    (command : Octets) (after : State) : State :=
  if !l.tells then after
  else
    let sent := alarms.filter (·.time ≤ after.clock)
    { sent.foldl (fun (st : State) a =>
        complain name st.status ("sending signal ".toList ++
          Signal.name a.signal ++ " to command ".toList ++ quoted command)
          { st with clock := a.time }) after with clock := after.clock }

/-- Starts a program that may take so much time. -/
def limited : Host := fun start name args st =>
  plan name args st (Limit.read args) fun (l, d, command, args) st =>
    let alarms := if d = 0 then [] else l.alarms (st.clock + d)
    let after := State.sharing
      (begin start name (notRun (quoted command)) command args
        fun st => { st with alarms := alarms ++ st.alarms }) st
    let after := l.tell name alarms command after
    if alarms.all (after.clock < ·.time) then after
    else if after.fatal = some State.deadlySignal then
      { after with
        status := 128 + State.deadlySignal
        fatal := if l.alone then none else after.fatal }
    else
      { after with
        status := if l.keepsStatus then after.status else 124
        fatal := none }

/-! ### The rest -/

/-- A change of how far a process stands back, brought into the range in which
it counts. -/
def niceness? (o : Octets) : Option Int :=
  match leadingInteger? false o with
  | some (n, []) => some (max (-39) (min 39 n))
  | _ => none

/-- The change that arguments ask for, the last one counting, and the other
arguments. -/
def niceArguments : Nat → Option Octets → List Octets →
    Except Misread (Option Octets × List Octets)
  | 0, found, args => .ok (found, args)
  | fuel + 1, found, args =>
    let old : Option Octets := match args with
      | ('-' :: cs) :: _ =>
        let ds := match cs with
          | '-' :: ds => ds
          | '+' :: ds => ds
          | ds => ds
        if (ds.head?).any Char.isDigit then some cs else none
      | _ => none
    match old, args with
    | some v, _ :: rest => niceArguments fuel (some v) rest
    | _, ('-' :: 'n' :: cs) :: rest =>
      match cs, rest with
      | [], [] => .error ⟨"option requires an argument -- \x27n\x27".toList, none⟩
      | [], v :: rest => niceArguments fuel (some v) rest
      | v, rest => niceArguments fuel (some v) rest
    | _, args =>
      let p := optionsOf [.valued 'n' "adjustment"] false (args.take 1)
      match p.others, p.options, args with
      | .error m, _, _ => .error m
      | .ok [], [o], _ :: rest => niceArguments fuel o.value rest
      | .ok [], [], _ :: rest => .ok (found, rest)
      | _, _, args => .ok (found, args)

/-- How far a program is to stand back, and the command. -/
def niceCommand (args : List Octets) : Work (Option (Int × List Octets)) := do
  match niceArguments (args.length + 1) none args with
  | .error m => refuseUse 125 m.message
  | .ok (change, command) =>
    match change.map niceness? with
    | none => return some (10, command)
    | some none =>
      refuse 125 ("invalid adjustment ".toList ++ quoted (change.getD []))
    | some (some n) =>
      if command.isEmpty then
        refuseUse 125 "a command must be given with an adjustment".toList
      else return some (n, command)

/-- Starts a program that stands back behind others. -/
def nice : Host := fun start name args st =>
  plan name args st (niceCommand args) fun (change, command) st =>
    match command with
    | [] => { st.sendOr 1 ((toString st.niceness).toList ++ ['\n']) with
        status := 0 }
    | command :: args =>
      begin start name (quoted command) command args (fun st => { st with
        niceness := max (-20) (min 19 (st.niceness + change)) }) st

/-- Starts a program that is not ended when nobody is there any more. -/
def nohup : Host := fun start name args st =>
  plan name args st (do
    match ← asked 125 [] args () fun _ _ => return some () with
    | none => return none
    | some (_, []) => refuseUse 125 "missing operand".toList
    | some (_, command :: args) => return some (command, args))
    fun (command, args) st =>
      begin start name (notRun (named command)) command args (fun st =>
        { st with traps := (1, []) :: st.traps }) st

/-- The ways in and out by the keys of options. -/
def bufferNames : List (String × String) :=
  [("input", "_STDBUF_I"), ("output", "_STDBUF_O"), ("error", "_STDBUF_E")]

/-- What an option says about how much a way keeps back. -/
def addMode (modes : List (String × Octets)) (o : Opt) :
    Work (Option (List (String × Octets))) :=
  let v := (o.value.getD []).dropWhile isSpace
  if o.key = "input" && v.head? = some 'L' then
    refuseUse 125 "line buffering stdin is meaningless".toList
  else if v ≠ ['L'] && ((sized? v).isNone || v.isEmpty) then
    refuse 125 ("invalid mode ".toList ++ quoted v)
  else return some ((o.key, v) :: modes)

/-- The variables by which a program gets to know how much its ways keep
back. -/
def bufferVariables (modes : List (String × Octets)) (vs : Variables) :
    Variables :=
  let set (vs : Variables) (n : String) (v : Octets) : Variables :=
    vs.put n.toList ⟨some v, true, false⟩
  set (bufferNames.foldl (fun vs b =>
    match modes.lookup b.1 with
    | some v => set vs b.2 v
    | none => vs) vs) "LD_PRELOAD"
    "/usr/libexec/coreutils/libstdbuf.so".toList

/-- Starts a program whose ways in and out keep back what is written. -/
def buffered : Host := fun start name args st =>
  plan name args st (do
    match ← asked 125
      [.valued 'i' "input", .valued 'o' "output", .valued 'e' "error"] args []
      addMode with
    | none => return none
    | some (_, []) => refuseUse 125 "missing operand".toList
    | some ([], _) =>
      refuseUse 125 "you must specify a buffering mode option".toList
    | some (modes, command :: args) => return some (modes, command, args))
    fun (modes, command, args) st =>
      begin start name (notRun (quoted command)) command args (fun st =>
        { st with bindings := bufferVariables modes st.bindings }) st

/-- Whether a program goes on by itself, and whether it is waited for. -/
structure Apart where
  forks : Bool := false
  waits : Bool := false

/-- What an option adds. -/
def Apart.add (k : Apart) (o : Opt) : Work (Option Apart) :=
  match o.key with
  | "fork" => return some { k with forks := true }
  | "wait" => return some { k with waits := true }
  | _ => return some k

/-- Starts a program that has nothing to do with the others any more. -/
def apart : Host := fun start name args st =>
  plan name args st (do
    match ← asked 1
      [.flag 'c' "ctty", .flag 'f' "fork", .flag 'w' "wait"] args ({} : Apart)
      Apart.add with
    | none => return none
    | some (_, []) => refuseUse 1 "no command specified".toList
    | some (k, command :: args) =>
      return some (k.waits || !k.forks, command, args))
    fun (waits, command, args) st =>
      match start command args { st with alarms := [] } with
      | .ok after =>
        let after := returned st after
        if waits then after else { after with status := 0, clock := st.clock }
      | .error e => complain name (failureStatus e)
          ("failed to execute ".toList ++ command ++ ": ".toList ++
            e.reason.toList) st

end Host

end BitProbe.Bench.Shell

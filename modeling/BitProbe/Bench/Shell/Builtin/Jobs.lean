import BitProbe.Bench.Shell.Builtin.Input

/-!
The commands of the shell's own that deal with processes and signals.

* `Signal.names`, `Signal.number?`: signals and their numbers;
* `stopJob`: ending a process that is not waited for;
* `Builtin.jobOf`: processes named by their places;
* `Builtin.wait`, `Builtin.kill`, `Builtin.jobs`, `Builtin.trap`.
-/

namespace BitProbe.Bench.Shell

namespace Signal

/-- The names of the signals that have numbers up to 31. -/
def lowNames : List String :=
  ["EXIT", "HUP", "INT", "QUIT", "ILL", "TRAP", "ABRT", "BUS", "FPE", "KILL",
   "USR1", "SEGV", "USR2", "PIPE", "ALRM", "TERM", "16", "CHLD", "CONT",
   "STOP", "TSTP", "TTIN", "TTOU", "URG", "XCPU", "XFSZ", "VTALRM", "PROF",
   "WINCH", "IO", "PWR", "SYS"]

/-- The names of all signals, the end of a script being the first. -/
def names : List String :=
  lowNames ++ ["32", "33", "RTMIN"] ++
    ((List.range 15).map fun i => "RTMIN+" ++ toString (i + 1)) ++
    ((List.range 14).map fun i => "RTMAX-" ++ toString (14 - i)) ++ ["RTMAX"]

/-- The name of a signal. -/
def name (n : Nat) : Octets :=
  ((names[n]?).map String.toList).getD (Text.decimal n)

/-- The number of the signal that a name or a number stands for. -/
def number? (o : Octets) : Option Nat :=
  match Text.decimal? o with
  | some n => if n < names.length then some n else none
  | none =>
    names.findIdx? fun s => s.toList = o.map Char.toUpper

/-- The number of the signal that an argument of a program stands for, which
may be a status that a signal has led to. -/
def operand? (o : Octets) : Option Nat :=
  match Text.decimal? o with
  | some n =>
    let n := if n < 255 then n % 128 else n % 256
    if n < names.length then some n else none
  | none =>
    let word := o.map Char.toUpper
    number? (if "SIG".toList.isPrefixOf word then word.drop 3 else word)

end Signal

/-- The state after a signal has been sent to a process that is not waited
for: it has worked up to now. -/
def stopJob (exec : Runner) (signal : Nat) (j : Job) (st : State) : State :=
  let after := runJob exec (st.clock + 1) j st
  match endOf? after j.number with
  | some t =>
    if t ≤ st.clock then after
    else
      { after with
        ended := (j.number, st.clock, 128 + signal) ::
          after.ended.filter (·.1 ≠ j.number) }
  | none => after

namespace Builtin

/-- Waits for a process with a number, whose status is returned. What ended
it is told if it was a signal. -/
def waitFor (exec : Runner) (number : Nat) (st : State) : State :=
  let st := completeJob exec number st
  match st.ended.lookup number with
  | none => ending 127 st
  | some (t, status) =>
    match st.alarmBefore? (t + 1) with
    | some a =>
      let st := { st with clock := a.time }
      ending (128 + a.signal) (if a.time < t || st.isDoomed then st
        else st.tellEnd status)
    | none =>
      let st := { st with clock := max st.clock t }
      ending status (st.tellEnd status)

/-- The processes that this one has started and does not wait for, the last
one first. -/
def ownJobs (st : State) : List Nat :=
  (st.places.filter (· ≠ 0)).mergeSort (· ≥ ·)

/-- The number of the process that an argument names by its place, or why
there is none. -/
def jobOf (o : Octets) (st : State) : Except Octets Nat :=
  let none : Except Octets Nat := .error ("No such job: ".toList ++ o)
  match o with
  | '%' :: cs =>
    if cs.isEmpty || cs = ['+'] || cs = ['%'] then
      (ownJobs st).head?.elim (.error "No current job".toList) .ok
    else if cs = ['-'] then
      (ownJobs st)[1]?.elim (.error "No previous job".toList) .ok
    else
      match (Text.decimal? cs).bind fun k =>
          if k = 0 then Option.none else st.places[k - 1]? with
      | some n => if n = 0 then none else .ok n
      | Option.none => none
  | _ => none

/-- Waits for processes. -/
def wait : Builtin := fun exec args st =>
  let waitOne (n : Nat) (st : State) : State :=
    if st.places.contains n then
      let after := waitFor exec n st
      { after with awaited := n :: after.awaited }
    else ending 127 st
  match args with
  | [] =>
    let own := ownJobs st
    own.reverse.foldl (fun st n =>
      let after := completeJob exec n st
      let t := (endOf? after n).getD 0
      match after.alarmBefore? (t + 1) with
      | some a =>
        { after with clock := a.time, status := max st.status (128 + a.signal) }
      | none => { after with clock := max st.clock t })
      (done { st with awaited := own })
  | args => args.foldl (fun st o =>
    if !st.isRunning then st
    else if o.head? = some '%' then
      match jobOf o st with
      | .ok n => waitOne n st
      | .error m => st.fail m
    else withNumber o waitOne st) st

/-- How signals are to be sent. -/
def killUsage : Octets :=
  ("Usage: kill [-s sigspec | -signum | -sigspec] [pid | job]... or\n" ++
    "kill -l [exitstatus]").toList

/-- Sends a signal to a process. -/
def sendSignal (exec : Runner) (signal number : Nat) (st : State) : State :=
  match st.jobs.find? (·.number = number) with
  | some j =>
    if signal = 0 then st else stopJob exec signal j st
  | none =>
    if number = st.number || st.ancestors.contains number then
      if signal = 0 then st
      else { st with signals := (number, signal) :: st.signals }
    else ending 1 (st.complain "No such process\n".toList)

/-- Whether a signal that is on its way will end the shell. -/
def isDoomed (st : State) : Bool :=
  !st.isChild && st.signals.any fun s =>
    s.1 = st.number && (st.traps.lookup s.2).isNone &&
      !State.harmlessSignals.contains s.2

/-- Sends a signal to the processes that arguments name. -/
def sendSignals (exec : Runner) (signal : Nat) (args : List Octets)
    (st : State) : State :=
  if args.isEmpty then st.fail killUsage
  else args.foldl (fun st o =>
    if !st.isRunning || isDoomed st then st
    else
      match o with
      | '%' :: _ =>
        match jobOf o st with
        | .ok _ => ending 1 (st.complain "No such process\n".toList)
        | .error m => st.fail m
      | '-' :: cs =>
        withNumber cs (fun _ st =>
          ending 1 (st.complain "No such process\n".toList)) st
      | o => withNumber o (sendSignal exec signal) st) (done st)

/-- Lists signals. -/
def listSignals (args : List Octets) (st : State) : State :=
  match args with
  | [] =>
    done (say ("0\n".toList ++ (Signal.names.drop 1).flatMap fun s =>
      s.toList ++ ['\n']) st)
  | o :: _ =>
    withNumber o (fun n st =>
      let n := if 128 < n then n - 128 else n
      if 0 < n && n < Signal.names.length then
        done (sayLine (Signal.name n) st)
      else
        st.fail ("invalid signal number or exit status: ".toList ++ o)) st

/-- Sends signals, or lists them. -/
def kill : Builtin := fun exec args st =>
  match args with
  | [] => st.fail killUsage
  | ('-' :: cs) :: rest =>
    match if cs = "EXIT".toList then none else Signal.number? cs with
    | some n => sendSignals exec n rest st
    | none =>
      withFlags ['l'] ['s'] args (fun fs rest st =>
        if hasFlag fs 'l' then listSignals rest st
        else
          match fs.lookup 's' with
          | none => sendSignals exec 15 rest st
          | some o =>
            match Signal.number? o with
            | some n => sendSignals exec n rest st
            | none =>
              st.fail
                ("invalid signal number or name: ".toList ++ o)) st
  | args => sendSignals exec 15 args st

/-- How it stands with a process that is not waited for. -/
def condition (n : Nat) (st : State) : Octets :=
  match st.ended.lookup n with
  | none => "Running".toList
  | some (_, 0) => "Done".toList
  | some (_, status) =>
    match State.endings.lookup status with
    | some text => text.toList
    | none => "Done(".toList ++ Text.decimal status ++ [')']

/-- Shows a process that is not waited for. One that is over is forgotten. -/
def showJob (fs : List (Char × Octets)) (n : Nat) (st : State) : State :=
  let i := st.places.findIdx (· = n)
  let own := ownJobs st
  let mark := if own[0]? = some n then '+'
    else if own[1]? = some n then '-' else ' '
  let lead := '[' :: Text.decimal (i + 1) ++ "] ".toList ++ [mark, ' '] ++
    (if hasFlag fs 'l' then Text.decimal n ++ [' '] else []) ++
    condition n st
  let line := if hasFlag fs 'p' then Text.decimal n
    else lead ++ List.replicate (33 - lead.length) ' '
  let st := sayLine line st
  if (st.ended.lookup n).isNone then st
  else { st with places := st.places.map fun m => if m = n then 0 else m }

/-- Lists the processes that are not waited for. -/
def jobs : Builtin := fun exec args st =>
  withFlags ['l', 'p'] [] args (fun fs rest st =>
    let st := settle exec st
    if rest.isEmpty then
      done ((ownJobs st).foldl (fun st n => showJob fs n st) st)
    else rest.foldl (fun st o =>
      if !st.isRunning then st
      else
        match jobOf o st with
        | .ok n => showJob fs n st
        | .error m => st.fail m) (done st)) st

/-- Would bring a process before the user or send it back; without a terminal
that is not possible. -/
def bring : Builtin := fun _ args st =>
  withFlags [] [] args (fun _ rest st =>
    let (o, named) : Octets × Octets := match rest with
      | [] => (['%'], "(null)".toList)
      | o :: _ => (o, o)
    match jobOf o st with
    | .ok _ =>
      st.fail ("job ".toList ++ named ++
        " not created under job control".toList)
    | .error m => st.fail m) st

/-- Keeps what is to be run at the end and at signals, or lists it. -/
def trap : Builtin := fun _ args st =>
  withFlags [] [] (if args.head? = some ['-'] then ['-', '-'] :: args
    else args) (fun _ rest st =>
    let set (action : Option Octets) (names : List Octets) (st : State) :
        State :=
      names.foldl (fun (acc : Bool × State) o =>
        match acc.1, Signal.number? o with
        | false, _ => acc
        | true, none =>
          (false, ending 1
            (acc.2.sendOr 2 ("trap: ".toList ++ o ++ ": bad trap\n".toList)))
        | true, some n =>
          let others := acc.2.traps.filter (·.1 ≠ n)
          (true, { acc.2 with traps := match action with
            | some a => (n, a) :: others
            | none => others })) (true, done st) |>.2
    match rest with
    | [] =>
      let sorted := st.traps.mergeSort fun a b => a.1 ≤ b.1
      done (say (sorted.flatMap fun t =>
        "trap -- ".toList ++ quotedValue t.2 ++ ' ' :: Signal.name t.1 ++
          ['\n']) st)
    | [name] => set none [name] st
    | action :: names =>
      set (if action = ['-'] then none else some action) names st) st

/-- The commands that deal with processes. -/
def processes : List (String × Bool × Builtin) :=
  [("wait", false, wait), ("kill", false, kill), ("jobs", false, jobs),
   ("trap", true, trap),
   ("fg", false, bring), ("bg", false, bring)]

end Builtin

end BitProbe.Bench.Shell

import BitProbe.Bench.Shell.Reading
import BitProbe.Bench.Shell.Redirection

/-!
Running texts of commands, and processes beside the shell.

What runs a single command is given here and not yet known. With it the
commands of a text are run line after line, and processes are started: those
whose output is taken, and those that nobody waits for. The latter are run
when somebody needs to know what they have done.

* `Runner`, `runText`: the commands of a text;
* `finish`, `heed`: what is run when a process ends, and because of signals;
* `runJob`, `settle`, `drain`: processes that are not waited for;
* `capture`: the output of a command.
-/

namespace BitProbe.Bench.Shell

/-- What runs a command. -/
abbrev Runner := Command → State → State

/-- Where the text of commands comes from. -/
inductive Origin where
  | text
  | file
  deriving DecidableEq

/-- What has been read from one source up to another one. -/
def readBetween (before after : Source) : Octets :=
  before.rest.take (before.rest.length - after.rest.length)

/-- Whether a command is none at all. -/
def Command.isNothing : Command → Bool
  | .nothing => true
  | _ => false

/-- Runs the commands of a source line after line, and says whether there are
any. -/
def runSource (exec : Runner) (origin : Origin) :
    Nat → Source → State → Bool → State × Bool
  | 0, _, st, ran => (st, ran)
  | fuel + 1, source, st, ran =>
    if !st.isRunning || source.rest.isEmpty then (st, ran)
    else
      let source := { source with
        aliases := st.aliases
        texts := st.texts
        nextText := st.nextText }
      match readLine source with
      | .ok ((c, last), rest) =>
        let st := if origin = .file && st.has 'v' then
            st.sendOr 2 (readBetween source rest)
          else st
        let st := { st with
          texts := rest.texts
          nextText := rest.nextText
          lineRead := rest.line }
        let st := exec c st
        let ran := ran || !c.isNothing
        if last then (st, ran) else runSource exec origin fuel rest st ran
      | .error e =>
        ({ st with line := e.line }.fail
          ("Syntax error: ".toList ++ e.message), true)

/-- Runs the commands of a text. The status is zero if there are none. -/
def runText (exec : Runner) (origin : Origin) (text : Octets) (st : State) :
    State :=
  let line := st.lineRead
  let (after, ran) := runSource exec origin (text.length + 2)
    { rest := text } st false
  { after with
    lineRead := line
    status := if ran then after.status else 0 }

/-- Runs what is to be run at the end of a process. Its status counts only if
the process is ended anew. -/
def finish (exec : Runner) (st : State) : State :=
  match st.flow, st.traps.lookup 0 with
  | .killed _, _ => st
  | _, none => st
  | _, some action =>
    if st.limit ≤ st.clock then st
    else
      let ready := { st with
        flow := .onward
        traps := st.traps.filter (·.1 ≠ 0)
        tested := false }
      let after := runText exec .text action ready
      if after.flow = .onward then { after with status := st.status }
      else after

/-- What a signal leads to: what is to be run for it, or an end. -/
def signalled (exec : Runner) (st : State) (signal : Nat) : State :=
  match st.actionFor? signal with
  | some [] => st
  | some action =>
    let after := runText exec .text action { st with tested := false }
    if after.flow = .onward then { after with status := st.status } else after
  | none => { st with flow := .killed signal }

/-- Heeds the alarms whose time has come. -/
def wake (exec : Runner) (st : State) : State :=
  let (due, later) := st.alarms.partition (·.time ≤ st.clock)
  due.foldl (fun st a => if st.isRunning then signalled exec st a.signal else st)
    { st with alarms := later }

/-- Heeds the signals that are on their way to the shell. -/
def heed (exec : Runner) (st : State) : State :=
  let st := if st.alarms.isEmpty then st else wake exec st
  if st.signals.isEmpty || st.isChild then st
  else
    let (own, others) := st.signals.partition (·.1 = st.number)
    own.reverse.foldl (fun st s => if st.isRunning then signalled exec st s.2
      else st) { st with signals := others }

/-- Runs a command in a child of a process, up to the child's end. -/
def inChild (exec : Runner) (c : Command) (st : State) : State :=
  finish exec (exec c st.child)

/-! ### Processes that are not waited for -/

/-- The state after a process that is not waited for has been run, up to a
time at most. What it has done to the files already is not done again. -/
def runJob (exec : Runner) (limit : Nat) (j : Job) (st : State) : State :=
  let others := st.jobs.filter (·.number ≠ j.number)
  let start : State := match j.earlier with
    | some (t, files) =>
      { st with files, jobs := others, renewal := some (t, st.files) }
    | none => { st with jobs := others, renewal := none }
  let ready := State.resume { j.process with clock := j.start, limit } start
  let after := State.sharing (fun st => finish exec (exec j.command st)) ready
  let files := (after.renewal.map (·.2)).getD after.files
  State.resume st.toProcess { after with
    files
    renewal := st.renewal
    ended := (j.number, after.clock, after.endStatus) :: after.ended }

/-- When a process that is not waited for has ended, if it has been run. -/
def endOf? (st : State) (number : Nat) : Option Nat :=
  (st.ended.lookup number).map (·.1)

/-- Runs a process that is not waited for, up to its end. -/
def completeJob (exec : Runner) (number : Nat) (st : State) : State :=
  match st.jobs.find? (·.number = number) with
  | some j => runJob exec endless j st
  | none => st

/-- A process that has been run up to a time for the sake of the files, which
were others before. -/
def Job.known (j : Job) (t : Nat) (before : FileTree) : Job :=
  { j with earlier := some (t, (j.earlier.map (·.2)).getD before) }

/-- Runs what processes that are not waited for have done by now. Of those
that are still at work only the files are seen; they are run once more
later. -/
def settle (exec : Runner) (st : State) : State :=
  (st.jobs.map (·.number)).foldl (fun st n =>
    match st.jobs.find? (·.number = n) with
    | none => st
    | some j =>
      if st.clock < j.start then st
      else
        let after := runJob exec (st.clock + 1) j st
        match endOf? after n with
        | none => st
        | some t =>
          if t ≤ st.clock then after
          else
            { st with
              files := after.files
              allowance := after.allowance
              jobs := st.jobs.map fun k =>
                if k.number = n then k.known (st.clock + 1) st.files else k })
    st

/-- Waits for every process that may still write to the sink at a
position. -/
def drain (exec : Runner) (k : Nat) (st : State) : State :=
  st.jobs.foldl (fun st j =>
    if j.process.ways.any (·.2 = k) then
      let after := completeJob exec j.number st
      { after with clock := max st.clock ((endOf? after j.number).getD 0) }
    else st) st

/-- Runs every process that is not waited for, however many others those
start. -/
def completeAll (exec : Runner) : Nat → State → State
  | 0, st => st
  | fuel + 1, st =>
    match st.jobs.reverse with
    | [] => st
    | j :: _ => completeAll exec fuel (completeJob exec j.number st)

/-- The places of processes with another one among them. It takes the place
of one that is over. -/
def placed (n : Nat) (st : State) : List Nat :=
  match st.places.findIdx? fun m => m = 0 || st.awaited.contains m with
  | some i => st.places.set i n
  | none => st.places ++ [n]

/-- Starts a process that is not waited for. -/
def detach (c : Command) (st : State) : State :=
  let n := st.nextNumber
  let (k, st) := (st.spend (1 + st.jobs.length / 20)).addChannel .null
  let p : Process := { st.child.toProcess with
    tested := false
    ways := (0, k) :: st.ways.filter (·.1 ≠ 0) }
  { st with
    status := 0
    lastJob := some n
    places := placed n st
    nextNumber := n + 1
    jobs := ⟨n, st.clock + startDelay, c, p, none⟩ :: st.jobs }

/-! ### Output that is taken -/

/-- Runs a command in a child of the shell and takes what it writes. -/
def capture (exec : Runner) : Capture := fun c st =>
  let (k, ready) := st.addChannel (.sink [] [])
  let after := drain exec k
    (inChild exec c ({ ready with tested := false }.aim 1 k))
  let s := after.writtenAt k
  let back := State.resume { st.toProcess with
    outputStatus := after.endStatus
    clock := max st.clock after.clock
    fatal := after.signal? } after
  let back := back.tellFatal.trim st.channels.length
  (s.held, if s.isEndless then back.stuck else back)

end BitProbe.Bench.Shell

import BitProbe.Bench.Shell.Arithmetic
import BitProbe.Bench.Program
import BitProbe.Bench.Shell.Pattern

/-!
What is kept while a script is run.

A shell is a process: it has variables, ways in and out and a clock of its
own. The files, what the ways lead to and the processes that are not waited
for belong to all processes. Times are in microseconds. What is written is
kept with the time it was written at, because a process that is not waited
for is run as late as possible and may have written earlier.

* `Flow`: how a script goes on;
* `Channel`: what a way in or out leads to;
* `Process`, `Machine`, `State`;
* `State.send`, `State.complain`, `State.quit`: writing and ending;
* `State.child`, `State.rejoin`: starting a process, and coming back from
  it.
-/

namespace BitProbe.Bench.Shell

/-- How a script goes on. -/
inductive Flow where
  | onward
  | leaving
  /-- Ends the script unless what failed was a lesser command of the shell's
  own. -/
  | failing
  | returning
  /-- Ends so many loops. -/
  | breaking (n : Nat)
  /-- Ends so many loops but for the last of them, which goes on. -/
  | continuing (n : Nat)
  /-- Ended by a signal. -/
  | killed (signal : Nat)
  deriving DecidableEq

/-- What a way in or out may be used for. -/
inductive Access where
  | reading
  | writing
  /-- Writing at the end, wherever that is. -/
  | adding
  | both
  deriving DecidableEq

/-- What a way in or out leads to. -/
inductive Channel where
  /-- Octets to be read, all of which are there at a certain time. -/
  | source (s : Stream) (ready : Nat)
  /-- What has been written, the last first, with the times; and what is
  written over and over again after that. -/
  | sink (parts : List (Nat × Octets)) (forever : Octets)
  | file (place : List String) (offset : Nat) (access : Access)
  | null
  | zeros
  | full
  | directory

/-- A signal that comes at a certain time. -/
structure Alarm where
  time : Nat
  signal : Nat
  /-- Whether it also comes to what the process starts. -/
  spreads : Bool := true

/-- What a function that is run has to put back at its end. -/
structure Outer where
  /-- What variables held. -/
  bindings : List (Octets × Option Variable) := []
  settings : Option (List Char) := none

/-- What belongs to one shell. -/
structure Process where
  /-- The name that messages start with. -/
  name : Octets
  args : List Octets := []
  bindings : Variables := []
  functions : List (Octets × Command) := []
  aliases : List (Octets × Octets) := []
  /-- What is run at the end, whose number is zero, and at signals. -/
  traps : List (Nat × Octets) := []
  /-- The letters of the settings that are on. -/
  settings : List Char := []
  status : Nat := 0
  flow : Flow := .onward
  /-- Which channel a number leads to. -/
  ways : List (Nat × Nat)
  /-- The channel that commands are traced on while a command's own errors
  go elsewhere. -/
  traceWay : Option Nat := none
  /-- The line that is run. -/
  line : Nat := 1
  /-- The line up to which the script has been read. -/
  lineRead : Nat := 1
  /-- The status of the last output that has been put into a word. -/
  outputStatus : Nat := 0
  clock : Nat := 0
  limit : Nat
  alarms : List Alarm := []
  /-- Whether commands are run to see if they fail. -/
  tested : Bool := false
  /-- How many loops are being run. -/
  loops : Nat := 0
  /-- What was different outside of the function that is run. -/
  outer : Option Outer := none
  /-- How many functions are being run, each by the one before it. -/
  calls : Nat := 0
  /-- The command of the shell's own that is run. -/
  speaker : Option Octets := none
  /-- The number of the shell, which its children keep, and of the last
  process not waited for. -/
  number : Nat
  /-- The numbers of the processes that have started this one. -/
  ancestors : List Nat := []
  lastJob : Option Nat := none
  /-- The processes not waited for that this one has started, each in its
  place; a zero stands for a place that is free. -/
  places : List Nat := []
  /-- Those of them whose end this one has waited for later. -/
  awaited : List Nat := []
  isChild : Bool := false
  /-- The argument at which the reading of options goes on, and the place
  within the one before it. -/
  optionIndex : Nat := 1
  optionPlace : Option Nat := none
  /-- The place of the working directory, and the name by which it was
  reached. -/
  workDir : List String
  directory : Octets
  /-- What may not be done with files that are made. -/
  mask : Nat := usualMask
  /-- How far the process stands back behind others. -/
  niceness : Int := 0
  /-- How much of things processes may use, where that has been said. -/
  limits : List (Char × Octets) := []
  /-- The signal that has ended the program that was run last, if one has. -/
  fatal : Option Nat := none
  /-- Names of programs that have been looked for. -/
  known : List Octets := []

/-- A process that is not waited for and has not been run to its end. -/
structure Job where
  number : Nat
  start : Nat
  command : Command
  process : Process
  /-- The time up to which it has been run for the sake of the files, and the
  files as they were before. -/
  earlier : Option (Nat × FileTree) := none

/-- What belongs to all processes. -/
structure Machine where
  files : FileTree
  channels : List Channel
  jobs : List Job := []
  /-- Processes that are not waited for and have been run: their numbers, the
  times of their ends, and their statuses. -/
  ended : List (Nat × Nat × Nat) := []
  /-- Texts of scripts that commands read. -/
  texts : List (Nat × Phrase) := []
  nextText : Nat := 0
  nextNumber : Nat
  /-- Signals on their way: the number of the process and that of the
  signal. -/
  signals : List (Nat × Nat) := []
  /-- How much may still be done. -/
  allowance : Nat := 500000
  /-- While a process is run once more, the time from which on what it does is
  new, and the files that it works on then. -/
  renewal : Option (Nat × FileTree) := none
  /-- Whether too much has been done. -/
  isStuck : Bool := false

/-- What is kept while a script is run. -/
structure State extends Process, Machine

/-- Microseconds in a millisecond. -/
def millisecond : Nat := 1000

/-- How long it takes to start a process that is not waited for. -/
def startDelay : Nat := 300

namespace State

/-- Whether the script goes on and there is time left. -/
def isRunning (st : State) : Bool :=
  st.flow = .onward && st.clock < st.limit

/-- The state of a script that does not end. -/
def stuck (st : State) : State :=
  { st with clock := max st.clock endless, isStuck := true }

/-- Signals that nobody minds who has not asked for them. -/
def harmlessSignals : List Nat := [0, 17, 18, 23, 28]

/-- The signal that cannot be kept from ending a process. -/
def deadlySignal : Nat := 9

/-- What is to be run when a signal comes, unless that ends the process. -/
def actionFor? (signal : Nat) (st : State) : Option Octets :=
  if signal = deadlySignal then none
  else (st.traps.lookup signal).or
    (if harmlessSignals.contains signal then some [] else none)

/-- The alarm that comes next, if one comes before a time to a process that
does not ignore its signal. -/
def alarmBefore? (t : Nat) (st : State) : Option Alarm :=
  let heard := st.alarms.filter fun a =>
    st.clock < a.time && a.time < t && st.actionFor? a.signal ≠ some []
  heard.foldl (fun found a =>
    match found with
    | some b => if a.time < b.time then some a else some b
    | none => some a) none

/-- The alarm that comes next to a program, which cannot do anything about
it, if one comes before a time. -/
def deadlyAlarm? (t : Nat) (st : State) : Option Alarm :=
  { st with traps := st.traps.filter (·.2.isEmpty) }.alarmBefore? t

/-- How much may be done after a signal to what has been at work up to
then. -/
def lastWork : Nat := 10000

/-- The state after some work has been done; when more has been done than may
be, the script is at work up to the next alarm, and counts as one that does
not end if there is none. -/
def spend (work : Nat) (st : State) : State :=
  if work < st.allowance then { st with allowance := st.allowance - work }
  else
    match st.alarmBefore? endless with
    | some a => { st with clock := a.time, allowance := lastWork }
    | none => { st.stuck with allowance := 0 }

/-- Runs with a share of what may still be done, so that something is left
for what comes after it. -/
def sharing (f : State → State) (st : State) : State :=
  let share := st.allowance / 5
  let after := f { st with allowance := share }
  { after with allowance := st.allowance - (share - after.allowance) }

/-- The state with the files on which a process that is run once more works
from a certain time on. -/
def renewed (st : State) : State :=
  match st.renewal with
  | some (t, files) =>
    if t ≤ st.clock then
      { st with
        files := { files with workDir := st.workDir }
        renewal := none }
    else st
  | none => st

/-- Whether a setting is on. -/
def has (st : State) (letter : Char) : Bool :=
  st.settings.contains letter

/-- The value of a variable. -/
def valueOf (st : State) (name : String) : Option Octets :=
  st.bindings.value? name.toList

/-- The variables that other programs get to know. -/
def environment (st : State) : List (Octets × Octets) :=
  (st.bindings.reverse.filter fun v => v.2.exported).filterMap fun v =>
    v.2.value.map (v.1, ·)

/-- Sets a variable; where a setting says so, other programs get to know
it. -/
def setVariable (st : State) (name value : Octets) : State :=
  let v := (st.bindings.lookup name).getD ⟨none, false, false⟩
  let new := { v with
    value := some value
    exported := v.exported || st.has 'a' }
  let st := { st with bindings := st.bindings.put name new }
  if name = "OPTIND".toList then
    { st with
      optionIndex := max 1 ((Text.decimal? value).getD 1)
      optionPlace := none }
  else st

/-! ### Channels -/

/-- The channel that a number leads to. -/
def channel? (st : State) (way : Nat) : Option Channel :=
  (st.ways.lookup way).bind fun k => st.channels[k]?

/-- Adds a channel, whose position is returned. -/
def addChannel (st : State) (c : Channel) : Nat × State :=
  (st.channels.length, { st with channels := st.channels ++ [c] })

/-- The state with a channel changed. -/
def setChannel (st : State) (k : Nat) (c : Channel) : State :=
  { st with channels := st.channels.set k c }

/-- The state with a number leading to a channel. -/
def aim (st : State) (way k : Nat) : State :=
  { st with ways := (way, k) :: st.ways.filter (·.1 ≠ way) }

/-- The state with a number leading nowhere. -/
def close (st : State) (way : Nat) : State :=
  { st with ways := st.ways.filter (·.1 ≠ way) }

/-- The state without the channels from a position on, unless one of them may
still be used. -/
def trim (st : State) (n : Nat) : State :=
  let used (p : Process) : Bool :=
    p.ways.any (n ≤ ·.2) || p.traceWay.any (n ≤ ·)
  if used st.toProcess || st.jobs.any fun j => used j.process then st
  else { st with channels := st.channels.take n }

/-- The state with the mode of a file that has been made. -/
def created (st : State) (place : List String) : State :=
  if st.mask = usualMask then st
  else
    { st with
      files := st.files.setMode place (0o666 - (0o666 &&& st.mask)) }

/-- Bytes with others written over them from an offset on. -/
def overwritten (bytes new : List UInt8) (offset : Nat) : List UInt8 :=
  bytes.take offset ++ List.replicate (offset - bytes.length) 0 ++ new ++
    bytes.drop (offset + new.length)

/-- Writes octets to the channel at a position. -/
def sendTo (st : State) (k : Nat) (o : Octets) : Except FileError State :=
  match st.channels[k]? with
  | some (.sink parts forever) =>
    if o.isEmpty || !forever.isEmpty then .ok st
    else
      let st := st.spend (o.length / 100)
      .ok (st.setChannel k (.sink ((st.clock, o) :: parts) []))
  | some (.file place offset access) =>
    if access = .reading then .error .noWay
    else
      match st.files.node? place with
      | some (.file bytes) =>
        let offset := if access = .adding then bytes.length else offset
        let new := o.toBytes
        let bytes := overwritten bytes new offset
        let st := st.spend (bytes.length / 100)
        .ok ({ st with files := st.files.setContents place bytes }.setChannel k
          (.file place (offset + new.length) access))
      | _ => .ok st
  | some .full => if o.isEmpty then .ok st else .error .noSpace
  | some .null => .ok st
  | some .zeros => .ok st
  | some (.source _ _) => .error .noWay
  | some .directory => .error .noWay
  | none => .error .noWay

/-- Writes octets to a number. -/
def send (st : State) (way : Nat) (o : Octets) : Except FileError State :=
  match st.ways.lookup way with
  | some k => st.sendTo k o
  | none => if o.isEmpty then .ok st else .error .noWay

/-- Writes octets to a number if that is possible. -/
def sendOr (st : State) (way : Nat) (o : Octets) : State :=
  match st.send way o with
  | .ok st => st
  | .error _ => st

/-- Writes octets over and over again to a number. -/
def sendForever (st : State) (way : Nat) (o : Octets) : State :=
  match st.ways.lookup way with
  | some k =>
    match st.channels[k]? with
    | some (.sink parts forever) =>
      if forever.isEmpty then st.setChannel k (.sink parts o) else st
    | some (.file _ _ _) => st.stuck
    | some .null => st.stuck
    | some .zeros => st.stuck
    | _ => st
  | none => st

/-- What can be read from a channel. -/
def streamOf (st : State) : Channel → Stream
  | .source s _ => s
  | .file place offset _ =>
    match st.files.node? place with
    | some (.file bytes) =>
      { held := Octets.ofBytes (bytes.drop offset)
        fileSize := some bytes.length }
    | _ => .empty
  | .zeros => .endless [Char.ofNat 0]
  | .full => .endless [Char.ofNat 0]
  | .null => .device
  | .sink _ _ => .faulty .noWay
  | .directory => .faulty .isADirectory

/-- What can be read from a number. -/
def streamAt (st : State) (way : Nat) : Stream :=
  match st.channel? way with
  | some c => st.streamOf c
  | none => .faulty .noWay

/-- The state after a part of what could be read from a number has been read,
by what is left of it. -/
def leave (st : State) (way : Nat) (rest : Stream) : State :=
  match st.ways.lookup way with
  | none => st
  | some k =>
    match st.channels[k]? with
    | some (.source s ready) =>
      if rest.held.length = s.held.length && !s.held.isEmpty then st
      else
        { st with clock := max st.clock ready }.setChannel k
          (.source { rest with fileSize := s.fileSize } ready)
    | some (.file place offset access) =>
      let read := (st.streamAt way).held.length - rest.held.length
      st.setChannel k (.file place (offset + read) access)
    | _ => st

/-- What has been written to a sink, in the order of time. -/
def written (parts : List (Nat × Octets)) (forever : Octets) : Stream :=
  let sorted := parts.reverse.mergeSort fun a b => a.1 ≤ b.1
  { held := (sorted.map (·.2)).flatten, forever }

/-- What has been written to the sink at a position. -/
def writtenAt (st : State) (k : Nat) : Stream :=
  match st.channels[k]? with
  | some (.sink parts forever) => written parts forever
  | _ => .empty

/-! ### Messages -/

/-- What stands before every message: the name of the script, the line and
the command of the shell's own that is run. -/
def messageStart (st : State) : Octets :=
  st.name ++ ": ".toList ++ Text.decimal st.line ++ ": ".toList ++
    match st.speaker with
    | some s => s ++ ": ".toList
    | none => []

/-- Writes a message. -/
def complain (st : State) (message : Octets) : State :=
  st.sendOr 2 (st.messageStart ++ message ++ ['\n'])

/-- Ends the script. -/
def quit (st : State) (status : Nat) : State :=
  { st with status, flow := .leaving }

/-- Ends the script because of a failure. -/
def fail (st : State) (message : Octets) : State :=
  { st.complain message with status := 2, flow := .failing }

/-- What is told about statuses that signals lead to. -/
def endings : List (Nat × String) :=
  [(129, "Hangup"), (131, "Quit"), (132, "Illegal instruction"),
   (133, "Trace/breakpoint trap"), (134, "Aborted"), (135, "Bus error"),
   (136, "Floating point exception"), (137, "Killed"),
   (138, "User defined signal 1"), (139, "Segmentation fault"),
   (140, "User defined signal 2"), (142, "Alarm clock"),
   (143, "Terminated")]

/-- Tells which signal has ended a process, if the status says so. -/
def tellEnd (status : Nat) (st : State) : State :=
  match endings.lookup status with
  | some text => st.sendOr 2 (text.toList ++ ['\n'])
  | none => st

/-! ### Ways to run -/

/-- Runs to see whether it fails. -/
def testing (f : State → State) (st : State) : State :=
  { f { st with tested := true } with tested := st.tested }

/-- Runs, and ends the script if that fails and is not only tested. -/
def checking (f : State → State) (st : State) : State :=
  let after := f st
  if after.status ≠ 0 && after.has 'e' && !after.tested && after.isRunning then
    after.quit after.status
  else after

/-- What a child of a process starts as. -/
def child (st : State) : State :=
  { st with
    alarms := st.alarms.filter (·.spreads)
    traps := st.traps.filter (·.2.isEmpty)
    places := []
    awaited := []
    isChild := true }

/-- The signal that has ended a process, if one has. -/
def signal? (st : State) : Option Nat :=
  match st.flow with
  | .killed s => some s
  | _ => none

/-- The status that a process has ended with. -/
def endStatus (st : State) : Nat :=
  match st.flow with
  | .killed s => 128 + s
  | _ => st.status % 256

/-- The state in which a process goes on with what others have left
behind. -/
def resume (p : Process) (after : State) : State :=
  { after with
    toProcess := p
    files := { after.files with workDir := p.workDir } }

/-- The state of a process after a child of it has ended. -/
def rejoin (st after : State) : State :=
  resume { st.toProcess with
    status := after.endStatus
    clock := max st.clock after.clock
    fatal := after.signal? } after

/-- Whether an alarm whose time has come ends the process. -/
def isDoomed (st : State) : Bool :=
  st.alarms.any fun a => a.time ≤ st.clock && st.actionFor? a.signal = none

/-- Tells which signal has ended the program that was run last, unless a
signal ends the process as well. -/
def tellFatal (st : State) : State :=
  match st.fatal with
  | some s =>
    { (if st.isDoomed then st else st.tellEnd (128 + s)) with fatal := none }
  | none => st

/-- What the value of a name or a sign after a dollar sign is, arguments
apart. -/
def value? (st : State) (name : Octets) : Option Octets :=
  match name with
  | ['#'] => some (Text.decimal st.args.length)
  | ['?'] => some (Text.decimal st.status)
  | ['$'] => some (Text.decimal st.number)
  | ['-'] => some (settingOrder.filter st.has)
  | ['!'] => st.lastJob.map Text.decimal
  | ['0'] => some st.name
  | _ =>
    match Text.decimal? name with
    | some 0 => some st.name
    | some n => st.args[n - 1]?
    | none => st.bindings.value? name
where
  /-- The letters of settings in the order in which they are shown. -/
  settingOrder : List Char :=
    ['p', 'u', 'b', 'a', 'C', 'E', 'V', 'v', 'x', 's', 'n', 'm', 'i', 'I', 'f',
     'e']

end State

end BitProbe.Bench.Shell

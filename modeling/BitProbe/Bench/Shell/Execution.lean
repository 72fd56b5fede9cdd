import BitProbe.Bench.Shell.Starting

/-!
Running commands.

A command is run by a step that runs the commands within it by what it is
given; so many steps may be nested. A shell that nests them deeper is ended
for the memory it uses. A script that does too much counts as one that does
not end.

* `runSimple`, `runPipe`, `runLoop`, `runEach`, `runArms`: commands of one
  kind;
* `turns_add`: more turns change nothing in what has ended;
* `step`, `run`: any command.
-/

namespace BitProbe.Bench.Shell

/-! ### Simple commands -/

/-- The commands whose arguments may be assignments. -/
def assigners : List Octets :=
  ["export", "readonly", "local", "alias"].map String.toList

/-- Whether arguments that have been found so far call one of them. -/
def isAssigner (args : List Octets) : Bool :=
  match args.dropWhile (· = "command".toList) with
  | a :: _ => assigners.contains a
  | [] => false

/-- The arguments that the words of a command make. -/
def commandArguments (capture : Capture) :
    List Phrase → List Octets → State → List Octets × State
  | [], found, st => (found, st)
  | w :: ws, found, st =>
    if !st.isRunning then (found, st)
    else
      let (new, st) :=
        if isAssigner found && (assignment? w).isSome then
          assignmentArgument capture w st
        else wordArguments capture w st
      commandArguments capture ws (found ++ new) st

/-- A text in which values and outputs are put in place. -/
def expandedText (capture : Capture) (o : Octets) (st : State) :
    Octets × State :=
  let source : Source := { rest := o, nextText := st.nextText }
  match (inText (40 * (o.length + 10))).run source with
  | .ok (p, _) => textOf capture (.quotes :: p) st
  | .error _ => (o, st)

/-- Writes a command that is about to be run to where commands are traced. -/
def trace (exec : Runner) (assigned : List Octets) (args : List Octets)
    (st : State) : State :=
  if !st.has 'x' then st
  else
    let (lead, _) := expandedText (capture exec)
      ((st.valueOf "PS4").getD []) { st with settings := [] }
    let line := lead ++ [' '].intercalate (assigned ++ args) ++ ['\n']
    match st.traceWay with
    | some k => (st.sendTo k line).toOption.getD st
    | none => st.sendOr 2 line

/-- Sets variables to what words stand for; for a command alone, which then
gets to know them, or for good. What has been set is returned as it is
written. -/
def assign (exec : Runner) (passing : Bool) :
    List (Octets × Phrase) → State → List Octets × State
  | [], st => ([], st)
  | (name, p) :: as, st =>
    let (o, st) := assignedText (capture exec) p st
    let st := st.spend (o.length / 100)
    if !st.isRunning then ([], st)
    else
      let st := if st.bindings.isFixed name then
          st.fail (name ++ ": is read only".toList)
        else st.setVariable name o
      let st := if passing && st.isRunning then
          { st with bindings := st.bindings.put name ⟨some o, true, false⟩ }
        else st
      if !st.isRunning then ([], st)
      else
        let r := assign exec passing as st
        ((name ++ '=' :: o) :: r.1, r.2)

/-- Variables with those that were set for a command as they were before. -/
def unassigned (as : List (Octets × Phrase)) (before after : Variables) :
    Variables :=
  as.foldl (fun vs a =>
    match before.lookup a.1 with
    | some old => vs.put a.1 old
    | none => vs.drop a.1) after

/-- Replaces the shell by a program. -/
def replace (exec : Runner) (args : List Octets) (st : State) : State :=
  let args := if args.head? = some ['-', '-'] then args.tail else args
  match args with
  | [] => { st with status := 0 }
  | name :: args =>
    let ready := { st with speaker := some "exec".toList }
    match findProgram name st with
    | .error _ => (runExternal exec name args ready).quit 127
    | .ok path =>
      match startFile exec startLimit path name args st with
      | .ok after =>
        let flow : Flow := match after.fatal with
          | some s => .killed s
          | none => .leaving
        { after with traps := [], flow }
      | .error e =>
        { runExternal exec name args ready with
          status := refusalStatus e
          flow := .leaving }

/-- Runs a command of words whose ways in and out are made. -/
def runWords (exec : Runner) (as : List (Octets × Phrase))
    (args : List Octets) (st : State) : State :=
  match args with
  | [] =>
    let (assigned, after) := assign exec false as st
    if !after.isRunning then after
    else
      let after := trace exec assigned [] after
      { after with status := after.outputStatus }
  | name :: rest =>
    let replaces := name = "exec".toList
    let lasting := isSpecial name
    let (assigned, ready) := assign exec (!lasting || replaces) as st
    if !ready.isRunning then ready
    else
      let ready := trace exec assigned args ready
      let after := if replaces then replace exec rest ready
        else call exec name rest ready
      if lasting then after
      else
        { after with
          bindings := unassigned as st.bindings after.bindings }

/-- How much work it is to run a command with certain arguments. -/
def workOf (args : List Octets) : Nat :=
  1 + args.length / 20 + (args.map (·.length)).sum / 100

/-- Runs a simple command. -/
def runSimple (exec : Runner) (line : Nat) (as : List (Octets × Phrase))
    (ws : List Phrase) (rs : List Redirect) (before : State) : State :=
  let st := { before with line, outputStatus := 0 }
  let (args, st) := commandArguments (capture exec) ws [] st
  let st := st.spend (workOf args)
  if !st.isRunning then st
  else
    let (ts, st) := targets (capture exec) rs st
    if !st.isRunning then st
    else
      let special := args.head?.any isSpecial
      let (done, ready) := redirectAll (capture exec) ts { st with
        traceWay := if ts.isEmpty then none else st.ways.lookup 2 }
      if !done then
        let after := restored st { ready with status := redirectFailure }
        if special then { after with flow := .failing } else after
      else
        let after := runWords exec as args { ready with line }
        if args.head? = some "exec".toList && args.length < 2 then
          { after with traceWay := st.traceWay }
        else if ts.isEmpty then after
        else restored st after

/-! ### Commands made of commands -/

/-- What has been written to a sink by something that does not end: it may be
that it writes for ever. -/
def endlessStream (s : Stream) (parts : List (Nat × Octets)) : Stream :=
  match parts with
  | (_, o) :: _ => if s.isEndless then s else { s with forever := o }
  | [] => s

/-- Runs commands each of which reads what the one before it writes. They
start at the same time, and all of them are waited for. -/
def runStages (exec : Runner) (start : Nat) :
    Option Nat → List Command → State → State
  | _, [], st => st
  | source, [c], st =>
    let child := { st with clock := start }
    let child := match source with
      | some k => child.aim 0 k
      | none => child
    (st.rejoin (inChild exec c child)).tellFatal
  | source, c :: cs, st =>
    let (k, ready) := st.addChannel (.sink [] [])
    let child := { ready with clock := start }.aim 1 k
    let child := match source with
      | some j => child.aim 0 j
      | none => child
    let after := State.sharing (fun st => drain exec k (inChild exec c st))
      child
    let s := after.writtenAt k
    let (s, after) := match after.isStuck && !st.isStuck, after.channels[k]? with
      | true, some (.sink parts _) =>
        if parts.isEmpty then (s, after)
        else (endlessStream s parts,
          { after with clock := start, isStuck := st.isStuck })
      | _, _ => (s, after)
    let ready := if s.isEndless then start else after.clock
    let back := (State.resume { st.toProcess with
      clock := max st.clock ready
      fatal := after.signal? } after).tellFatal
    let (j, back) := back.addChannel (.source s ready)
    runStages exec start (some j) cs back

/-- Runs commands each of which reads what the one before it writes. -/
def runPipe (exec : Runner) (cs : List Command) (st : State) : State :=
  (runStages exec st.clock none cs st).trim st.channels.length

/-- The state after a turn of a loop, and whether there is another one. -/
def afterTurn (st : State) : State × Bool :=
  match st.flow with
  | .breaking n =>
    ({ st with flow := if n ≤ 1 then .onward else .breaking (n - 1) }, false)
  | .continuing n =>
    if n ≤ 1 then ({ st with flow := .onward }, st.clock < st.limit)
    else ({ st with flow := .continuing (n - 1) }, false)
  | _ => (st, st.isRunning)

/-- One turn of a loop with a test: the state, whether there is another turn,
and the status if there is none. -/
def turn (exec : Runner) (positive : Bool) (test body : Command)
    (s : State × Nat) : (State × Nat) × Bool :=
  let tested := State.testing (exec test) s.1
  if tested.isRunning then
    if (tested.status = 0) = positive then
      let r := afterTurn (exec body tested)
      ((r.1, r.1.status), r.2)
    else (({ tested with status := s.2 }, s.2), false)
  else
    let r := afterTurn tested
    let status := if tested.flow = .returning then tested.status else s.2
    ((if r.1.isRunning then { r.1 with status } else r.1, s.2), r.2)

/-- Takes turns as long as there is another one; none if there are too
many. -/
def turns {α : Type} (f : α → α × Bool) : Nat → α → Option α
  | 0, _ => none
  | n + 1, a =>
    match f a with
    | (b, true) => turns f n b
    | (b, false) => some b

/-- What ends within some turns ends alike if more of them are allowed. -/
theorem turns_add {α : Type} {f : α → α × Bool} {n : Nat} {a b : α} (k : Nat)
    (h : turns f n a = some b) : turns f (n + k) a = some b := by
  induction n generalizing a with
  | zero => cases h
  | succ n ih =>
    rw [Nat.add_right_comm]
    simp only [turns] at h ⊢
    split at h <;> simp_all

/-- Runs a loop with a test. A turn of it is some work, so there are no more
turns than may be done. -/
def runLoop (exec : Runner) (positive : Bool) (test body : Command)
    (st : State) : State :=
  let taken := turns (fun s => turn exec positive test body (s.1.spend 1, s.2))
    (st.allowance + 1) ({ st with loops := st.loops + 1 }, 0)
  match taken with
  | some s => { s.1 with loops := st.loops }
  | none => st.stuck

/-- Runs a command for each of some values of a variable. -/
def runEach (exec : Runner) (name : Octets) (body : Command) :
    List Octets → State → State
  | [], st => st
  | v :: vs, st =>
    if st.bindings.isFixed name then
      st.fail (name ++ ": is read only".toList)
    else
      let (after, more) := afterTurn (exec body (st.setVariable name v))
      if more then runEach exec name body vs after else after

/-- Whether one of some patterns covers a text. -/
def coversAny (capture : Capture) (subject : Octets) :
    List Phrase → State → Bool × State
  | [], st => (false, st)
  | p :: ps, st =>
    let (cells, st) := cellsOf capture p st
    if !st.isRunning then (false, st)
    else if (Pattern.ofCells cells).covers subject then (true, st)
    else coversAny capture subject ps st

/-- Runs the commands of the first pattern that covers a text. -/
def runArms (exec : Runner) (subject : Octets) :
    List (List Phrase × Command) → State → State
  | [], st => { st with status := 0 }
  | (ps, c) :: arms, st =>
    let (found, st) := coversAny (capture exec) subject ps st
    if !st.isRunning then st
    else if found then
      if c.isNothing then { st with status := 0 } else exec c st
    else runArms exec subject arms st

/-- Runs a command with its ways in and out led elsewhere. -/
def runRedirected (exec : Runner) (line : Nat) (rs : List Redirect)
    (f : State → State) (st : State) : State :=
  let (ts, st) := targets (capture exec) rs { st with line }
  if st.isRunning then redirected (capture exec) ts f st else st

/-- Runs a command, and the commands within it by what is given. -/
def stepPlain (exec : Runner) (c : Command) (st : State) : State :=
  match c with
  | .nothing => st
  | .simple line as ws rs =>
    State.checking (fun st =>
      let after := heed exec (runSimple exec line as ws rs st)
      if st.clock < after.clock && !after.jobs.isEmpty && after.isRunning then
        heed exec (settle exec after)
      else after) st
  | .pipe cs => State.checking (fun st => heed exec (runPipe exec cs st)) st
  | .negated c =>
    let after := State.testing (exec c) st
    if after.isRunning then
      { after with status := if after.status = 0 then 1 else 0 }
    else after
  | .both a b =>
    let after := State.testing (exec a) st
    if after.status = 0 then exec b after else after
  | .either a b =>
    let after := State.testing (exec a) st
    if after.status = 0 then after else exec b after
  | .sequence a b => exec b (exec a st)
  | .detached c => detach c st
  | .branch test yes no =>
    let after := State.testing (exec test) st
    if !after.isRunning then after
    else if after.status = 0 then exec yes after
    else if no.isNothing then { after with status := 0 }
    else exec no after
  | .choose line subject arms =>
    let (o, st) := textOf (capture exec) subject { st with line }
    if st.isRunning then runArms exec o arms st else st
  | .loop positive test body => runLoop exec positive test body st
  | .each line name items body =>
    let (vs, st) := match items with
      | some ws => arguments (capture exec) ws { st with line }
      | none => (st.args, st)
    if !st.isRunning then st
    else
      let after := runEach exec name body vs { st with
        loops := st.loops + 1
        status := if vs.isEmpty then 0 else st.status }
      { after with loops := st.loops }
  | .separate line c rs =>
    State.checking (fun st =>
      let (ts, st) := targets (capture exec) rs { st with line }
      if !st.isRunning then st
      else
        let after := finish exec (redirected (capture exec) ts (exec c)
          st.child)
        heed exec (st.rejoin after).tellFatal) st
  | .redirected line c rs => runRedirected exec line rs (exec c) st
  | .define _ name body =>
    { st with
      status := 0
      functions := (name, body) :: st.functions.filter (·.1 ≠ name) }

/-- Runs a command if the script goes on. -/
def step (exec : Runner) (c : Command) (st : State) : State :=
  if st.isRunning && !st.has 'n' then stepPlain exec c st.renewed else st

/-- The signal that ends a process which uses memory it has not got. -/
def overflow : Nat := 11

/-- Runs a command, as deep as commands may nest. -/
def run : Nat → Runner
  | 0 => fun _ st => { st with flow := .killed overflow }
  | depth + 1 => step (run depth)

/-- How deep commands may nest. -/
def depthLimit : Nat := 25000

end BitProbe.Bench.Shell

import BitProbe.Bench.Rules.Composing
import BitProbe.Bench.Rules.Records
import BitProbe.Bench.Rules.Script
import BitProbe.Bench.Rules.Table
import BitProbe.Bench.Shell.Hosting

/-!
What rules work with.

Rules share cells and tables, and each function that is run has its own. They
work on a record, which is cut into fields when one of them is asked for, and
is put together again when one of them has changed. What they write waits
until there is enough of it.

* `Inlet`, `Outlet`: what records are read from and texts are written to;
* `Stop`, `Machine`, `Running`: the steps of rules, and how they end early;
* `fail`, `failAt`: ending because something is wrong;
* `cellOf`, `setCell`, `tableOf`, `fieldAt`, `setField`: what variables hold;
* `put`, `putTo`, `flushAll`: writing;
* `runCommand`: starting other programs;
* `takeRecord`, `nextRecord`: reading.
-/

namespace BitProbe.Bench.Rules

open Shell (State Start)

/-- Where octets come from: the input of the program, or what is known. -/
inductive Supply where
  | input
  | stream (s : Stream)

/-- What records are read from. -/
structure Inlet where
  name : Octets
  supply : Supply
  /-- What has been read and not been used. -/
  held : Octets := []
  /-- Whether no record has been asked for, and whether there is nothing more
  to be read. -/
  isFresh : Bool := true
  isOver : Bool := false
  isCommand : Bool := false
  /-- The status that the command has ended with. -/
  status : Nat := 0

/-- Where texts go. -/
inductive Sink where
  | output
  | messages
  | channel (k : Nat)
  | command
  deriving DecidableEq

/-- What texts are written to. -/
structure Outlet where
  name : Octets
  sink : Sink
  /-- What waits, the last first, and how much that is. -/
  waiting : List Octets := []
  size : Nat := 0

/-- What a name of a function's own stands for. -/
inductive Local where
  | cell (c : Cell)
  | table (i : Nat)
  deriving Inhabited

/-- Why rules are left. -/
inductive Stop where
  | next | nextFile | finish | leave | again
  | giveBack (c : Cell)
  /-- Something is wrong. -/
  | failure
  /-- It would not end, or a signal has ended it. -/
  | endless | doomed

/-- How many turns may be taken. -/
def turnsAllowed : Nat := 2000000

/-- What rules work with. -/
structure Machine where
  host : State
  start : Start
  name : Octets
  script : Script
  /-- What shared names hold; the tables of functions come after theirs. -/
  cells : Array Cell
  tables : Array Table
  frame : Array Local := #[]
  /-- How many names of their own the functions have that are run, and how
  many functions there are. -/
  depth : Nat := 0
  calls : Nat := 0
  /-- The record, its fields, and whether it has been cut into them. -/
  record : Cell := .unset
  fields : Array Cell := #[]
  isCut : Bool := false
  fieldSeparator : Separator := .blanks
  recordSeparator : Separator := .octet '\n'
  /-- What records come from, the argument after it, and whether an argument
  has named a file. -/
  main : Option Inlet := none
  argument : Nat := 1
  isNamed : Bool := false
  inlets : List Inlet := []
  outlets : List Outlet := []
  /-- What waits to be written to the output, the last first. -/
  waiting : List Octets := []
  size : Nat := 0
  /-- Whether nothing more can be written to the output. -/
  isClosed : Bool := false
  /-- The ranges that have been entered. -/
  ranges : Array Bool
  engines : List (Octets × Engine) := []
  status : Nat := 0
  /-- How many more turns may be taken. -/
  patience : Nat := turnsAllowed
  /-- Where random numbers have come to, and where they have started. -/
  random : Nat := 1
  seed : Cell := .number 1

/-- The steps of rules. -/
abbrev Running := ExceptT Stop (StateM Machine)

namespace Machine

/-- A text in which numbers are written in a format. -/
def textBy (m : Machine) (format : Nat) (c : Cell) : Octets :=
  match c with
  | .unset => []
  | .text o => o
  | .input o => o
  | .number x =>
    match wholeText? x with
    | some o => o
    | none =>
      let f := match m.cells.getD format .unset with
        | .text o => o
        | .input o => o
        | _ => []
      Composing.numberText f x

/-- A cell as a text. -/
def text (m : Machine) (c : Cell) : Octets := m.textBy Special.textFormat c

/-- A special variable as a text. -/
def special (m : Machine) (i : Nat) : Octets := m.text (m.cells.getD i .unset)

/-- What is told about where in the input something has gone wrong. -/
def whereabouts (m : Machine) : Octets :=
  "\tFILENAME=\x22".toList ++ m.special Special.fileName ++
    "\x22 FNR=".toList ++ m.special Special.fileRecords ++
    " NR=".toList ++ m.special Special.records ++ ['\n']

end Machine

/-! ### Messages -/

/-- Writes a message. -/
def tell (message : Octets) : Running Unit :=
  modify fun m => { m with
    host := m.host.sendOr 2 (m.name ++ ": ".toList ++ message ++ ['\n']) }

/-- Ends because something is wrong. -/
def fail {α : Type} (message : Octets) : Running α := do
  tell message
  throw .failure

/-- Ends because something is wrong with a record. -/
def failAt {α : Type} (message : Octets) : Running α := do
  tell ("run time error: ".toList ++ message)
  modify fun m => { m with host := m.host.sendOr 2 m.whereabouts }
  throw .failure

/-- Ends because of a limit. -/
def overflow {α : Type} : Running α :=
  fail "program limit exceeded: eval stack size=1024".toList

/-- What has a reason, in a message. -/
def reasoned (what : String) (e : FileError) : Octets :=
  what.toList ++ " (".toList ++ e.reason.toList ++ [')']

/-- One more turn. -/
def tick : Running Unit := do
  let left ← modifyGet fun m => (m.patience, { m with patience := m.patience - 1 })
  if left = 0 then throw .endless

/-- A cell as a text. -/
def shown (c : Cell) : Running Octets := do
  match c with
  | .text o => return o
  | .input o => return o
  | .unset => return []
  | .number _ => return (← get).text c

/-- An expression that is ready to search with. Those that have been used are
kept. -/
def engineBy (o : Octets) : Running Engine := do
  let m ← get
  match m.engines.lookup o with
  | some e => return e
  | none =>
    match Pattern.engine o with
    | .ok e =>
      modify fun m => { m with engines := (o, e) :: m.engines.take 31 }
      return e
    | .error f =>
      failAt ("regular expression compile failed (".toList ++
        f.message.toList ++ ")\n".toList ++ o)

/-- What stands between parts, unless it is no expression. -/
def separatorOf (s : Except Pattern.Fault Separator) (o : Octets) :
    Running Separator := do
  match s with
  | .ok s => return s
  | .error f =>
    failAt ("regular expression compile failed (".toList ++
      f.message.toList ++ ")\n".toList ++ o)

/-! ### Records and fields -/

/-- The record as a text. -/
def recordText : Running Octets := do
  let m ← get
  return m.text m.record

/-- Puts another record in place of the one there is. -/
def setRecord (c : Cell) : Running Unit :=
  modify fun m => { m with record := c, isCut := false }

/-- Cuts the record into fields. -/
def cutRecord : Running Unit :=
  modify fun m =>
    if m.isCut then m
    else
      let parts := m.fieldSeparator.cut (m.text m.record)
      let fields := (parts.map Cell.input).toArray
      { m with
        fields
        isCut := true
        cells := m.cells.setIfInBounds Special.fields (.ofNat fields.size) }

/-- Puts the fields together to a record. -/
def joinFields : Running Unit :=
  modify fun m =>
    let parts := m.fields.toList.map m.text
    { m with record :=
        .text ((m.special Special.outputSeparator).intercalate parts) }

/-- The largest number of fields. -/
def mostFields : Int := 100000

/-- The field with a number, which is the whole record if that is zero. -/
def fieldAt (n : Nat) : Running Cell := do
  if n = 0 then return (← get).record
  else
    cutRecord
    return (← get).fields.getD (n - 1) .unset

/-- Makes a record have so many fields. -/
def setFieldCount (c : Cell) : Running Unit := do
  cutRecord
  let n := clamped leastWhole greatestWhole c.toFloat
  if n < 0 then failAt "negative value assigned to NF".toList
  if mostFields < n then overflow
  let n := n.toNat
  modify fun m =>
    { m with
      fields := if n ≤ m.fields.size then m.fields.take n
        else m.fields ++ Array.replicate (n - m.fields.size) (Cell.text [])
      cells := m.cells.setIfInBounds Special.fields c }
  joinFields

/-- Sets a field. -/
def setField (n : Nat) (c : Cell) : Running Unit := do
  if n = 0 then setRecord c
  else
    cutRecord
    if mostFields < n then overflow
    modify fun m =>
      if n ≤ m.fields.size then
        { m with fields := m.fields.setIfInBounds (n - 1) c }
      else
        let more := Array.replicate (n - 1 - m.fields.size) (Cell.text [])
        { m with
          fields := (m.fields ++ more).push c
          cells := m.cells.setIfInBounds Special.fields (.ofNat n) }
    joinFields

/-- The number of a field. -/
def fieldNumber (c : Cell) : Running Nat := do
  let n := clamped leastWhole greatestWhole c.toFloat
  if n < 0 then
    failAt ("negative field index $".toList ++ (toString n).toList)
  else return n.toNat

/-! ### Variables -/

/-- The cell of a name. -/
def cellOf (n : Name) : Running Cell := do
  match n with
  | .shared i =>
    if i = Special.fields then cutRecord
    return (← get).cells.getD i .unset
  | .own i =>
    match (← get).frame.getD i (.cell .unset) with
    | .cell c => return c
    | .table _ => return .unset

/-- Sets the cell of a name. Some of them have a meaning of their own. -/
def setCell (n : Name) (c : Cell) : Running Unit := do
  match n with
  | .own i => modify fun m => { m with frame := m.frame.setIfInBounds i (.cell c) }
  | .shared i =>
    let plain : Running Unit :=
      modify fun m => { m with cells := m.cells.setIfInBounds i c }
    if Special.arguments < i then plain
    else if i = Special.fields then setFieldCount c
    else if i = Special.fieldSeparator then
      cutRecord
      plain
      let o ← shown c
      let s ← separatorOf (Separator.ofFields o) o
      modify fun m => { m with fieldSeparator := s }
    else if i = Special.recordSeparator then
      plain
      let o ← shown c
      let s ← separatorOf (Separator.ofRecords o) o
      modify fun m => { m with recordSeparator := s }
    else plain

/-- The table of a name, if it stands for one. -/
def tableOf? (n : Name) : Running (Option Nat) := do
  let m ← get
  match n with
  | .shared i => return if m.script.tables.getD i false then some i else none
  | .own i =>
    match m.frame.getD i (.cell .unset) with
    | .cell _ => return none
    | .table t => return some t

/-- The table of a name. -/
def tableOf (n : Name) : Running Nat := do
  return (← tableOf? n).getD 0

/-- What becomes of a table, with what is found out about it. -/
def withTable {α : Type} (t : Nat) (f : Table → α × Table) : Running α :=
  modifyGet fun m =>
    let table := m.tables.getD t .empty
    let tables := m.tables.setIfInBounds t .empty
    let r := f table
    (r.1, { m with tables := tables.setIfInBounds t r.2 })

/-- The cell of a key, which is made if there is none. -/
def element (t : Nat) (k : Table.Key) : Running Cell :=
  withTable t fun table =>
    match table.find k true with
    | (table, some i) => (table.cellAt i, table)
    | (table, none) => (.unset, table)

/-- Sets the cell of a key. -/
def setElement (t : Nat) (k : Table.Key) (c : Cell) : Running Unit :=
  withTable t fun table =>
    match table.find k true with
    | (table, some i) => ((), table.setAt i c)
    | (table, none) => ((), table)

/-- Whether a table has a key. -/
def hasKey (t : Nat) (k : Table.Key) : Running Bool :=
  withTable t fun table =>
    let r := table.find k false
    (r.2.isSome, r.1)

/-- The whole numbers that keys are kept by. -/
def keyLimit : Float := 2147483647.0

/-- The key that a cell stands for. -/
def keyOf (c : Cell) : Running Table.Key := do
  match c with
  | .number x =>
    if x.floor == x && x.abs ≤ keyLimit then
      return .number (clamped leastWhole greatestWhole x)
    else return .name (← shown c)
  | c => return .name (← shown c)

/-! ### Writing -/

/-- How much is written at once. -/
def blockSize : Nat := 4096

/-- Says that nothing can be written any more, and ends. -/
def failToWrite {α : Type} (e : FileError) : Running α :=
  fail (reasoned "write failure" e)

/-- Writes octets to the output of the program. -/
def deliver (o : Octets) : Running (Except FileError Unit) :=
  modifyGet fun m =>
    if m.isClosed then (.error .noWay, m)
    else
      match m.host.send 1 o with
      | .ok host => (.ok (), { m with host })
      | .error e => (.error e, m)

/-- Writes what waits for the output, or only what fills blocks. -/
def flushOutput (isWhole : Bool) : Running (Except FileError Unit) := do
  let m ← get
  if m.size = 0 then return .ok ()
  let o := m.waiting.reverse.flatten
  let n := if isWhole then o.length else o.length / blockSize * blockSize
  let rest := o.drop n
  match ← deliver (o.take n) with
  | .ok _ =>
    modify fun m => { m with waiting := [rest], size := rest.length }
    return .ok ()
  | .error e => return .error e

/-- Writes octets to the output, where they may wait. -/
def put (o : Octets) : Running Unit := do
  let size ← modifyGet fun m =>
    let size := m.size + o.length
    (size, { m with waiting := o :: m.waiting, size })
  if blockSize ≤ size then
    match ← flushOutput false with
    | .ok _ => return ()
    | .error e => failToWrite e

/-- Writes what waits for a file. -/
def flushOutlet (p : Outlet) : Running (Except FileError Unit × Outlet) := do
  match p.sink with
  | .output => return (← flushOutput true, p)
  | .messages => return (.ok (), p)
  | .command => return (.ok (), p)
  | .channel k =>
    let o := p.waiting.reverse.flatten
    let r ← modifyGet fun m =>
      match m.host.sendTo k o with
      | .ok host => (Except.ok (), { m with host })
      | .error e => (.error e, m)
    return (r, { p with waiting := [], size := 0 })

/-- Does a step with each outlet, and says what went wrong first. -/
def flushEach : List Outlet → List Outlet → Option FileError →
    Running (List Outlet × Option FileError)
  | [], done, fault => return (done.reverse, fault)
  | p :: ps, done, fault => do
    let (r, p) ← flushOutlet p
    let fault := match r with
      | .ok _ => fault
      | .error e => fault.or (some e)
    flushEach ps (p :: done) fault

/-- Writes all that waits, before other programs are started. -/
def flushAll : Running Unit := do
  let r ← flushOutput true
  let m ← get
  let (outlets, fault) ← flushEach m.outlets [] none
  modify fun m => { m with outlets }
  let fault := match r with
    | .ok _ => fault
    | .error e => some e
  match fault with
  | some e =>
    modify fun m => { m with waiting := [], size := 0 }
    tell (reasoned "unexpected write error" e)
  | none => return ()

/-- Opens a file that texts are written to. -/
def openOutlet (name : Octets) (isCommand isAdding : Bool) :
    Running Outlet := do
  if isCommand then return { name, sink := .command }
  else if name = "/dev/stdout".toList then return { name, sink := .output }
  else if name = "/dev/stderr".toList then return { name, sink := .messages }
  else
    let m ← get
    let way := m.host.ways.foldl (fun n w => max n (w.1 + 1)) 3
    let opened := Shell.openToWrite way name.toText
      (if isAdding then .adding else .writing) (!isAdding) false m.host
    match opened with
    | .ok host =>
      match host.ways.lookup way with
      | some k =>
        set { m with host := host.close way }
        return { name, sink := .channel k }
      | none => return { name, sink := .messages }
    | .error e =>
      fail (reasoned ("cannot open \x22" ++ String.ofList name ++
        "\x22 for output") e)

/-- Takes what has a name out of a list. -/
def takeOut {α : Type} (p : α → Bool) (xs : List α) : Option α × List α :=
  (xs.find? p, xs.eraseP p)

/-- Whether a name belongs to an outlet. -/
def Outlet.is (p : Outlet) (name : Octets) (isCommand : Bool) : Bool :=
  p.name = name && (p.sink == Sink.command) == isCommand

/-- Writes octets to what has a name. -/
def putTo (name : Octets) (isCommand isAdding : Bool) (o : Octets) :
    Running Unit := do
  let m ← get
  let (found, others) := takeOut (·.is name isCommand) m.outlets
  let p ← match found with
    | some p => pure p
    | none => do
      if isCommand then flushAll
      openOutlet name isCommand isAdding
  let others ← match found with
    | some _ => pure others
    | none => do pure (← get).outlets
  let keep (p : Outlet) : Running Unit :=
    modify fun m => { m with outlets := p :: others }
  match p.sink with
  | .output =>
    keep p
    put o
  | .messages =>
    keep p
    modify fun m => { m with host := m.host.sendOr 2 o }
  | _ =>
    let p := { p with waiting := o :: p.waiting, size := p.size + o.length }
    if blockSize ≤ p.size && p.sink ≠ .command then
      let (r, p) ← flushOutlet p
      keep p
      match r with
      | .ok _ => return ()
      | .error e => failToWrite e
    else keep p

/-! ### Other programs -/

/-- The status of a program that has ended, which a signal may have done. -/
def endStatus (after : State) : Nat :=
  match after.fatal with
  | some s => 256 + s
  | none => after.status

/-- Runs a command with some ways of its own, and leads to its status and the
state after it. -/
def runCommand (shell : String) (command : Octets) (change : State → State) :
    Running (Nat × State) := do
  let m ← get
  match m.start shell.toList [['-', 'c'], command] (change m.host) with
  | .ok after =>
    let back := Shell.Host.returned m.host after
    let host := { back with fatal := none, status := m.host.status }
    set { m with host }
    if back.isDoomed then
      set { m with host := back }
      throw .doomed
    if !back.isRunning then throw .doomed
    return (endStatus after, after)
  | .error _ => return (127, m.host)

/-- Forgets channels that have served. -/
def trimTo (n : Nat) : Running Unit :=
  modify fun m =>
    let used := m.outlets.any fun p =>
      match p.sink with
      | .channel k => n ≤ k
      | _ => false
    if used then m else { m with host := m.host.trim n }

/-- Runs a command whose output is read. -/
def commandInlet (command : Octets) : Running Inlet := do
  flushAll
  let n := (← get).host.channels.length
  let (status, after) ← runCommand "/bin/sh" command fun st =>
    let (k, st) := st.addChannel (.sink [] [])
    st.aim 1 k
  trimTo n
  return { name := command, supply := .stream (after.writtenAt n)
           isCommand := true, status }

/-- Runs a command with what has been written for it. -/
def closeCommand (p : Outlet) : Running Nat := do
  let o := p.waiting.reverse.flatten
  let n := (← get).host.channels.length
  let (status, _) ← runCommand "/bin/sh" p.name fun st =>
    let (k, st) := st.addChannel (.source (.ofOctets o) st.clock)
    st.aim 0 k
  trimTo n
  return status

/-- Runs a command by itself. -/
def system (command : Octets) : Running Nat := do
  flushAll
  return (← runCommand "sh" command fun st => st).1

/-- Closes what texts have been written to: a command is run with them. -/
def closeOutlet (p : Outlet) : Running Int := do
  match p.sink with
  | .command => return (← closeCommand p)
  | _ =>
    let (r, _) ← flushOutlet p
    match r with
    | .ok _ =>
      if p.sink = .output then modify fun m => { m with isClosed := true }
      return 0
    | .error e =>
      fail (reasoned ("close failed on file \x22" ++ String.ofList p.name ++
        "\x22") e)

/-- Closes what has a name; less than nothing if there is none. -/
def close (name : Octets) : Running Int := do
  let m ← get
  let (inlet, inlets) := takeOut (·.name = name) m.inlets
  let (outlet, outlets) := takeOut (·.name = name) m.outlets
  set { m with inlets, outlets }
  let status : Int := match inlet with
    | some i => i.status
    | none => -1
  match outlet with
  | some p => closeOutlet p
  | none =>
    if name = "/dev/stdout".toList && !m.isClosed then
      closeOutlet { name, sink := .output }
    else return status

/-- Closes outlets one after another. -/
def closeEach : List Outlet → Running Unit
  | [] => return ()
  | p :: ps => do
    let _ ← closeOutlet p
    closeEach ps

/-- Ends all writing: commands come first, and the output after them. -/
def closeAll : Running Unit := do
  let m ← get
  set { m with outlets := m.outlets.filter (·.sink ≠ Sink.command) }
  closeEach (m.outlets.filter (·.sink = Sink.command))
  match ← flushOutput true with
  | .ok _ =>
    let m ← get
    set { m with outlets := [] }
    closeEach m.outlets
  | .error e =>
    fail (reasoned "close failed on file \x22/dev/stdout\x22" e)

/-! ### Reading -/

/-- How much is read at once. -/
def readSize : Nat := 262144

/-- An inlet with more octets, if there are any. -/
def refill (i : Inlet) : Running Inlet := do
  let m ← get
  let s := match i.supply with
    | .input => m.host.streamAt 0
    | .stream s => s
  match s.fault with
  | some e => fail (reasoned "read error" e)
  | none =>
    let (block, rest) := s.split (if s.isEndless then blockSize else readSize)
    let i := if block.isEmpty then { i with isOver := true }
      else { i with held := i.held ++ block }
    match i.supply with
    | .input =>
      set { m with host := m.host.leave 0 rest }
      return i
    | .stream _ => return { i with supply := .stream rest }

/-- The next record of an inlet, and the inlet after that. -/
def takeRecord : Nat → Inlet → Running (Option Octets × Inlet)
  | 0, _ => throw .endless
  | fuel + 1, i => do
    let s := (← get).recordSeparator
    let isBlock := match s with
      | .emptyLines => true
      | _ => false
    let held := if i.isFresh && isBlock then i.held.dropWhile (· = '\n')
      else i.held
    let i := { i with held }
    if held.isEmpty && !i.isOver then takeRecord fuel (← refill i)
    else
      let i := { i with isFresh := false }
      match s.portion i.isOver held with
      | .record o rest => return (some o, { i with held := rest })
      | .none => return (none, { i with held := [] })
      | .unknown => takeRecord fuel (← refill i)

/-- How often an inlet is filled for one record. -/
def refills : Nat := 1000

/-- Opens a file that records are read from. -/
def openInlet (name : Octets) : Running (Except FileError Inlet) := do
  let m ← get
  if name = ['-'] || name = "/dev/stdin".toList then
    return .ok { name, supply := .input }
  else
    match m.host.files.lookup name.toText with
    | .error e => return .error e
    | .ok (.way 0) => return .ok { name, supply := .input }
    | .ok (.way n) =>
      if (m.host.channel? n).isNone then return .error .notFound
      else return .ok { name, supply := .stream (m.host.streamAt n) }
    | .ok .directory =>
      return .ok { name, supply := .stream (.faulty .isADirectory) }
    | .ok (.file bytes) =>
      return .ok { name, supply := .stream (.ofFile (Octets.ofBytes bytes)) }
    | .ok .zeros =>
      return .ok { name, supply := .stream (.endless [Char.ofNat 0]) }
    | .ok .full =>
      return .ok { name, supply := .stream (.endless [Char.ofNat 0]) }
    | .ok _ => return .ok { name, supply := .stream .empty }

/-- Whether a text can be a name. -/
def isName (o : Octets) : Bool :=
  let isStart (c : Char) : Bool := c.isAlpha || c = '_'
  o.head?.any isStart && o.all fun c => isStart c || c.isDigit

/-- The setting of a variable that an argument makes, if it makes one. -/
def setting? (o : Octets) : Option (Octets × Octets) :=
  let name := o.takeWhile (· ≠ '=')
  if o.contains '=' && isName name then some (name, o.drop (name.length + 1))
  else none

/-- Makes the input come from a file. -/
def startFile (name : Octets) : Running Unit := do
  match ← openInlet name with
  | .error e =>
    fail (reasoned ("cannot open \x22" ++ String.ofList name ++ "\x22") e)
  | .ok i =>
    modify fun m => { m with main := some i, isNamed := true }
    setCell (.shared Special.fileName) (.text name)
    setCell (.shared Special.fileRecords) (.ofNat 0)

/-- Opens the next file of the arguments, with settings of variables done that
stand before it; `set_` does one. Without any file the input is read. -/
def startNext (set_ : Octets → Octets → Running Unit) :
    Nat → Running Bool
  | 0 => return false
  | fuel + 1 => do
    let m ← get
    let count := (m.cells.getD Special.argumentCount .unset).toFloat
    if count ≤ Float.ofNat m.argument then
      if m.isNamed then return false
      else
        startFile ['-']
        return true
    else
      set { m with argument := m.argument + 1 }
      let k := Table.Key.number m.argument
      let isThere ← hasKey Special.arguments k
      if !isThere then startNext set_ fuel
      else
        let o ← shown (← element Special.arguments k)
        match setting? o with
        | some (name, value) =>
          set_ name value
          startNext set_ fuel
        | none =>
          if o.isEmpty then startNext set_ fuel
          else
            startFile o
            return true

/-- The next record of the input, if there is one. -/
def nextRecord (set_ : Octets → Octets → Running Unit) :
    Nat → Running (Option Octets)
  | 0 => return none
  | fuel + 1 => do
    let m ← get
    match m.main with
    | none =>
      let count := m.tables.getD Special.arguments .empty
      let found ← startNext set_ (m.argument + count.size + 1000)
      if found then nextRecord set_ fuel else return none
    | some i =>
      let (found, i) ← takeRecord refills i
      match found with
      | some o =>
        modify fun m =>
          let up (cells : Array Cell) (k : Nat) : Array Cell :=
            cells.modify k fun c => .number (c.toFloat + 1)
          { m with
            main := some i
            cells := up (up m.cells Special.records) Special.fileRecords }
        return some o
      | none =>
        modify fun m => { m with main := none }
        nextRecord set_ fuel

/-- How many files are opened for one record. -/
def fileLimit : Nat := 10000

/-- A name that can be set has letters. -/
theorem isName_nil : isName [] = false := rfl

end BitProbe.Bench.Rules

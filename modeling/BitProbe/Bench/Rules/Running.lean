import BitProbe.Bench.Calendar
import BitProbe.Bench.Rules.Machine
import BitProbe.Bench.Rules.Tokens

/-!
Carrying out rules.

For each record the actions of those rules are carried out that choose it,
between what is done before the first record and after the last one. What is
worked out and what is done call each other, and all of that is nested so deep
at most.

* `Task`, `Runner`: what is worked out or done, and what does it;
* `Place`: what can be set;
* `substring`, `replaced`, `told`: what texts and times become;
* `evaluate`: what an expression leads to;
* `carryOut`: what a statement does;
* `applyRules`, `runScript`: the rules for a record, and a whole script.
-/

namespace BitProbe.Bench.Rules

/-- What is worked out or done. -/
inductive Task where
  | value (e : Expr)
  | work (s : Statement)

/-- What works something out or does it. -/
abbrev Runner := Task → Running Cell

/-! ### Places -/

/-- What can be set. -/
inductive Place where
  | name (n : Name)
  | element (table : Nat) (key : Table.Key)
  | field (n : Nat)

/-- The key that expressions lead to. -/
def keyFrom (run : Runner) (es : List Expr) : Running Table.Key := do
  match es with
  | [e] => keyOf (← run (.value e))
  | es =>
    let parts ← es.mapM fun e => do shown (← run (.value e))
    return .name (((← get).special Special.keySeparator).intercalate parts)

/-- The place that an expression stands for. -/
def placeOf (run : Runner) (e : Expr) : Running Place := do
  match e with
  | .value n => return .name n
  | .element n keys =>
    let k ← keyFrom run keys
    let t ← tableOf n
    let _ ← element t k
    return .element t k
  | .field e => return .field (← fieldNumber (← run (.value e)))
  | _ => return .field 0

/-- What stands in a place. -/
def Place.held : Place → Running Cell
  | name n => cellOf n
  | element t k => Rules.element t k
  | field n => fieldAt n

/-- Sets what stands in a place. -/
def Place.set : Place → Cell → Running Unit
  | name n, c => setCell n c
  | element t k, c => setElement t k c
  | field n, c => setField n c

/-! ### Numbers and texts -/

/-- What is worked out of two numbers. -/
def Arithmetic.result : Arithmetic → Float → Float → Float
  | add, x, y => x + y
  | subtract, x, y => x - y
  | multiply, x, y => x * y
  | divide, x, y => x / y
  | remainder, x, y => Rules.remainder x y
  | power, x, y => Float.pow x y

/-- Where one text stands in another one, counted from one on. -/
def positionOf (part : Octets) : Nat → Octets → Nat
  | n, [] => if part.isEmpty then n else 0
  | n, c :: cs =>
    if part.isPrefixOf (c :: cs) then n else positionOf part (n + 1) cs

/-- A part of a text from a place on, and so long if a length is given. -/
def substring (o : Octets) (start : Float) (size : Option Float) : Octets :=
  let from_ := clamped leastWhole greatestWhole start
  let rest := o.drop (from_ - 1).toNat
  match size with
  | none => rest
  | some l =>
    let n := clamped leastWhole greatestWhole l
    rest.take (if from_ < 0 then n - from_ else n).toNat

/-- A part of a text that takes the place of what is found. -/
inductive Part where
  | text (o : Octets)
  /-- What has been found. -/
  | found

/-- The parts of a new text. A sign stands for what has been found unless a
backslash is before it, which may itself have one before it. -/
def partsOf : Nat → Octets → List Part
  | 0, _ => []
  | _, [] => []
  | fuel + 1, o@(c :: cs) =>
    let marks := (o.takeWhile (· = '\\')).length
    match o.drop marks with
    | '&' :: rest =>
      let kept := List.replicate (marks / 2) '\\'
      if marks % 2 = 1 then .text (kept ++ ['&']) :: partsOf fuel rest
      else .text kept :: .found :: partsOf fuel rest
    | rest =>
      if marks = 0 then .text [c] :: partsOf fuel cs
      else .text (List.replicate marks '\\') :: partsOf fuel rest

/-- What takes the place of what has been found. -/
def filledParts (ps : List Part) (found : Octets) : Octets :=
  ps.flatMap fun p =>
    match p with
    | .text o => o
    | .found => found

/-- A text with something else in place of matches, and how many there are:
`done` is the text before a place, and `isBehind` says whether a match ends
there. -/
def replacedFrom (e : Engine) (t : Subject) (o : Octets) (ps : List Part)
    (isGlobal : Bool) :
    Nat → Nat → Bool → Nat → List Octets → Nat × List Octets
  | 0, _, _, n, done => (n, done)
  | fuel + 1, i, isBehind, n, done =>
    let slice (a b : Nat) : Octets := (o.drop a).take (b - a)
    match e.search? t i with
    | none => (n, o.drop i :: done)
    | some m =>
      if m.isEmpty && m.start = i && isBehind then
        if i < t.size then
          replacedFrom e t o ps isGlobal fuel (i + 1) false n
            (slice i (i + 1) :: done)
        else (n, done)
      else
        let new := filledParts ps (slice m.start m.finish)
        let done := new :: slice i m.start :: done
        if !isGlobal then (n + 1, o.drop m.finish :: done)
        else if !m.isEmpty then
          replacedFrom e t o ps isGlobal fuel m.finish true (n + 1) done
        else if m.start < t.size then
          replacedFrom e t o ps isGlobal fuel (m.start + 1) false (n + 1)
            (slice m.start (m.start + 1) :: done)
        else (n + 1, done)

/-- A text with a new one in place of matches, and how many there are. -/
def replaced (e : Engine) (new o : Octets) (isGlobal : Bool) : Nat × Octets :=
  let ps := partsOf (new.length + 1) new
  let r := replacedFrom e (Subject.ofOctets true o) o ps isGlobal
    (2 * o.length + 2) 0 false 0 []
  (r.1, r.2.reverse.flatten)

/-- A time in seconds as a format tells it. -/
def told (zone : Zone) (format : Octets) (time : Float) : Octets :=
  let n := clamped leastWhole greatestWhole time
  let format := if format.isEmpty then "%c".toList else format
  (Moment.of zone (n * Moment.perSecond)).text format

/-- The time that numbers tell, from the year down to seconds, unless there
are too few. -/
def timeOf (zone : Zone) (o : Octets) : Int :=
  let numbers := (Separator.cut .blanks o).map fun p =>
    clamped leastWhole greatestWhole (leadingFloat p).1
  match numbers with
  | year :: month :: day :: hour :: minute :: second :: rest =>
    let months := month - 1
    let year := year + Int.fdiv months 12
    let days := Calendar.dayNumber year (Int.fmod months 12 + 1) 1 + day - 1
    let shift := match rest with
      | s :: _ => if 0 < s then 3600 else 0
      | [] => 0
    days * 86400 + hour * 3600 + minute * 60 + second - shift - zone.offset
  | _ => -1

/-! ### Expressions -/

/-- The engine that an expression stands for. -/
def engineFrom (run : Runner) (e : Expr) : Running Engine := do
  match e with
  | .regex e => return e
  | e => engineBy (← shown (← run (.value e)))

/-- The number that an expression leads to. -/
def numberFrom (run : Runner) (e : Expr) : Running Float := do
  return (← run (.value e)).toFloat

/-- The text that an expression leads to. -/
def textFrom (run : Runner) (e : Expr) : Running Octets := do
  shown (← run (.value e))

/-- What arguments are for a function, by which of its names hold tables. -/
def localsOf (run : Runner) (tables : Array Bool) :
    Nat → List Expr → Array Local → Running (Array Local)
  | _, [], done => return done
  | i, e :: es, done => do
    let l ← match e, tables.getD i false with
      | .value n, true => do
        match ← tableOf? n with
        | some t => pure (Local.table t)
        | none => pure (.cell .unset)
      | e, _ => do pure (.cell (← run (.value e)))
    localsOf run tables (i + 1) es (done.push l)

/-- How many names of their own functions may have together, and how many
functions may be run by each other. -/
def localLimit : Nat := 1006

@[inherit_doc localLimit]
def callLimit : Nat := 1000

/-- Does steps, and leads to how they end. -/
def outcome {α : Type} (r : Running α) : Running (Except Stop α) :=
  ExceptT.lift r.run

/-- Runs a function. -/
def callFunction (run : Runner) (f : Nat) (args : List Expr) :
    Running Cell := do
  let function := (← get).script.functions.getD f default
  let size := function.tables.size
  let given ← localsOf run function.tables 0 args #[]
  tick
  let m ← get
  if localLimit < m.depth + size || callLimit ≤ m.calls then overflow
  let outer := m.frame
  let kept := m.tables.size
  let depth := m.depth
  let calls := m.calls
  let (frame, tables) := (List.range (size - given.size)).foldl
    (fun (s : Array Local × Array Table) k =>
      if function.tables.getD (given.size + k) false then
        (s.1.push (.table s.2.size), s.2.push .empty)
      else (s.1.push (.cell .unset), s.2)) (given, m.tables)
  set { m with frame, tables, depth := depth + size, calls := calls + 1 }
  let r ← outcome (run (.work function.body))
  modify fun m => { m with
    frame := outer
    tables := m.tables.take kept
    depth
    calls }
  match r with
  | .ok _ => return .unset
  | .error (.giveBack c) => return c
  | .error s => throw s

/-- A text that cells compose by a format, the first of them. -/
def composed (who : String) (cells : List Cell) :
    Running (Octets × Option Octets) := do
  let format ← shown (cells.headD .unset)
  let m ← get
  let (o, fault) := Composing.compose m.text format (cells.drop 1)
  return (o, fault.map fun f => f.message who format)

/-- The number of a length. -/
def sized (n : Nat) : Cell := .ofNat n

/-- The time zone. -/
def zoneHere : Running Zone := do
  return .ofVariables (← get).host.environment

/-- The time in seconds. -/
def secondsNow : Running Float := do
  let m ← get
  let now := m.host.files.now + m.host.clock * 1000
  return (Cell.ofInt (now / Moment.perSecond)).toFloat

/-- The next number of a series in which any number may come next. -/
def nextRandom (n : Nat) : Nat := (n * 6364136223846793005 + 1442695040888963407) % 2 ^ 64

/-- A number between zero and one. -/
def randomNumber : Running Float :=
  modifyGet fun m =>
    let n := nextRandom m.random
    (Float.ofNat (n / 2 ^ 11) / 9007199254740992.0, { m with random := n })

/-- Starts the random numbers anew, and leads to what they started with. -/
def reseed (c : Cell) : Running Cell :=
  modifyGet fun m =>
    let o := m.text c
    let start := o.foldl (fun n d => nextRandom (n + d.toNat)) 1
    (m.seed, { m with seed := c, random := start })

/-- What a call by a fixed name leads to. -/
def callBuiltin (run : Runner) (b : Builtin) (args : List Expr) :
    Running Cell := do
  let number (i : Nat) : Running Float :=
    numberFrom run (args.getD i (.number 0))
  let text (i : Nat) : Running Octets := textFrom run (args.getD i (.text []))
  let ofFloat (f : Float → Float) : Running Cell := do
    return .number (f (← number 0))
  match b with
  | .length =>
    let o ← if args.isEmpty then recordText else text 0
    return sized o.length
  | .index =>
    let o ← text 0
    let part ← text 1
    return sized (positionOf part 1 o)
  | .substring =>
    let o ← text 0
    let start ← number 1
    let size ← if args.length < 3 then pure none
      else do pure (some (← number 2))
    return .text (substring o start size)
  | .search =>
    let o ← text 0
    let e ← engineFrom run (args.getD 1 (.text []))
    let (start, size) : Cell × Cell :=
      match e.search? (Subject.ofOctets true o) 0 with
      | some m => (sized (m.start + 1), sized (m.finish - m.start))
      | none => (.number 0, .number (-1))
    setCell (.shared Special.matchStart) start
    setCell (.shared Special.matchLength) size
    return start
  | .compose =>
    let cells ← args.mapM fun e => run (.value e)
    match ← composed "sprintf" cells with
    | (o, none) => return .text o
    | (_, some m) => failAt m
  | .lower => return .text ((← text 0).map Char.toLower)
  | .upper => return .text ((← text 0).map Char.toUpper)
  | .sin => ofFloat Float.sin
  | .cos => ofFloat Float.cos
  | .arctangent =>
    let y ← number 0
    return .number (Float.atan2 y (← number 1))
  | .exp => ofFloat Float.exp
  | .log => ofFloat Float.log
  | .root => ofFloat Float.sqrt
  | .whole => ofFloat Rules.whole
  | .random => return .number (← randomNumber)
  | .seed =>
    let c ← if args.isEmpty then do pure (.number (← secondsNow))
      else run (.value (args.getD 0 (.number 0)))
    reseed c
  | .system => return sized (← system (← text 0))
  | .close => return .ofInt (← close (← text 0))
  | .flush =>
    let o ← text 0
    if o.isEmpty || o = "/dev/stdout".toList then
      match ← flushOutput true with
      | .ok _ => return .number 0
      | .error e => failToWrite e
    else
      let m ← get
      match takeOut (·.name = o) m.outlets with
      | (none, _) => return .number (-1)
      | (some p, others) =>
        let (_, p) ← flushOutlet p
        modify fun m => { m with outlets := p :: others }
        return .number 0
  | .now => return .number (← secondsNow)
  | .timeOf => return .ofInt (timeOf (← zoneHere) (← text 0))
  | .date =>
    let format ← text 0
    let time ← if args.length < 2 then secondsNow else number 1
    let utc ← number 2
    let here ← zoneHere
    return .text (told (if utc != 0 then Zone.universal else here) format time)

/-- Where the next record is read from, with what is left of it. -/
def recordFrom (run : Runner) (set_ : Octets → Octets → Running Unit)
    (origin : Origin) (source : Option Expr) (target : Option Expr) :
    Running Cell := do
  let place (_ : Unit) : Running (Option Place) := do
    match target with
    | some e => return some (← placeOf run e)
    | none => return none
  let keep (p : Option Place) (o : Octets) : Running Unit :=
    match p with
    | some p => p.set (.input o)
    | none => setRecord (.input o)
  let sourceText : Running Octets := textFrom run (source.getD (.text []))
  tick
  match origin with
  | .input =>
    let p ← place ()
    match ← nextRecord set_ fileLimit with
    | some o =>
      keep p o
      return .number 1
    | none => return .number 0
  | _ =>
    let isCommand := origin = .command
    let early ← if isCommand then pure none else place ()
    let name ← sourceText
    let p ← if isCommand then place () else pure early
    let m ← get
    let opened : Except FileError Inlet ←
      match m.inlets.find? fun i => i.name = name && i.isCommand = isCommand with
      | some i => pure (.ok i)
      | none =>
        if isCommand then do pure (.ok (← commandInlet name))
        else openInlet name
    match opened with
    | .error _ => return .number (-1)
    | .ok i =>
      let (found, i) ← takeRecord refills i
      modify fun m => { m with
        inlets := i :: m.inlets.filter fun j =>
          j.name ≠ name || j.isCommand ≠ isCommand }
      match found with
      | some o =>
        keep p o
        return .number 1
      | none => return .number 0

/-- Sets a variable as an argument asks for it. -/
def setByName (name value : Octets) : Running Unit := do
  let m ← get
  match m.script.names.idxOf? name with
  | some i =>
    if m.script.tables.getD i false then return ()
    else setCell (.shared i) (.input (unescaped value))
  | none => return ()

/-- What an expression leads to. -/
def evaluate (run : Runner) (e : Expr) : Running Cell := do
  match e with
  | .number x => return .number x
  | .text o => return .text o
  | .regex e => return .ofBool (e.isIn true (← recordText))
  | .value n => cellOf n
  | .element n keys =>
    let k ← keyFrom run keys
    element (← tableOf n) k
  | .field e =>
    match e with
    | .number x => fieldAt x.toUInt64.toNat
    | e => fieldAt (← fieldNumber (← run (.value e)))
  | .set target e =>
    let p ← placeOf run target
    let c ← run (.value e)
    p.set c
    return c
  | .change a target e =>
    let p ← placeOf run target
    let y ← numberFrom run e
    let x ← p.held
    let c := Cell.number (a.result x.toFloat y)
    p.set c
    return c
  | .step target isUp isAfter =>
    let p ← placeOf run target
    let x := (← p.held).toFloat
    let y := if isUp then x + 1 else x - 1
    p.set (.number y)
    return .number (if isAfter then x else y)
  | .not e => return .ofBool !(← run (.value e)).isTrue
  | .negative e => return .number (-(← numberFrom run e))
  | .positive e => return .number (← numberFrom run e)
  | .calculate a e f =>
    let x ← numberFrom run e
    let y ← numberFrom run f
    return .number (a.result x y)
  | .compare r e f =>
    let a ← run (.value e)
    let b ← run (.value f)
    let m ← get
    return .ofBool (r.holds (a.compare b m.text))
  | .isLike isNegated e f =>
    let o ← textFrom run e
    let engine ← engineFrom run f
    return .ofBool (engine.isIn true o != isNegated)
  | .both e f =>
    let a ← run (.value e)
    if !a.isTrue then return .number 0
    else return .ofBool (← run (.value f)).isTrue
  | .either e f =>
    let a ← run (.value e)
    if a.isTrue then return .number 1
    else return .ofBool (← run (.value f)).isTrue
  | .joined e f =>
    let a ← textFrom run e
    let b ← textFrom run f
    return .text (a ++ b)
  | .has keys n =>
    let k ← keyFrom run keys
    return .ofBool (← hasKey (← tableOf n) k)
  | .choose test yes no =>
    let c ← run (.value test)
    if c.isTrue then run (.value yes) else run (.value no)
  | .call f args => callFunction run f args
  | .builtin b args => callBuiltin run b args
  | .replace isGlobal pattern new target =>
    let engine ← engineFrom run pattern
    let new ← textFrom run new
    let p ← placeOf run target
    let o ← shown (← p.held)
    let (n, o) := replaced engine new o isGlobal
    if 0 < n then p.set (.text o)
    return sized n
  | .cut e n separator =>
    let o ← textFrom run e
    let s ← match separator with
      | none => do pure (← get).fieldSeparator
      | some (.regex e) => pure (.expression e)
      | some e => do
        let o ← textFrom run e
        separatorOf (Separator.ofFields o) o
    let cells := (s.cut o).toArray.map Cell.input
    withTable (← tableOf n) fun _ =>
      ((), if cells.isEmpty then .empty else .row cells)
    return sized cells.size
  | .size n =>
    match ← tableOf? n with
    | some t => return sized (← withTable t fun t => (t.size, t))
    | none => return sized (← shown (← cellOf n)).length
  | .read origin source target =>
    recordFrom run setByName origin source target

/-! ### Statements -/

/-- Writes to the output, or to what a direction leads to. -/
def write (run : Runner) (target : Option (Direction × Expr)) (o : Octets) :
    Running Unit := do
  match target with
  | none => put o
  | some (d, e) =>
    let name ← textFrom run e
    putTo name (d = .command) (d = .fileEnd) o

/-- A text of what is to be written as a line. -/
def lineOf (run : Runner) (args : List Expr) : Running Octets := do
  match args with
  | [] =>
    let m ← get
    return m.textBy Special.outputFormat m.record ++
      m.special Special.outputEnd
  | args =>
    let cells ← args.mapM fun e => run (.value e)
    let m ← get
    let parts := cells.map (m.textBy Special.outputFormat)
    return (m.special Special.outputSeparator).intercalate parts ++
      m.special Special.outputEnd

/-- Does turns of a loop as long as they ask for another one. -/
def turns (once : Running Bool) : Nat → Running Unit
  | 0 => throw .endless
  | fuel + 1 => do
    let more ← once
    if more then turns once fuel else return ()

/-- How many turns a loop has at most. -/
def turnLimit : Nat := 2 ^ 62

/-- Carries out the body of a loop, and says whether the loop goes on. -/
def bodyOnce (run : Runner) (s : Statement) : Running Bool := do
  match ← outcome (run (.work s)) with
  | .ok _ => return true
  | .error .again => return true
  | .error .leave => return false
  | .error s => throw s

/-- Carries out the body of a loop for each key. -/
def eachKey (run : Runner) (n : Name) (body : Statement) :
    List Octets → Running Unit
  | [] => return ()
  | k :: ks => do
    tick
    setCell n (.text k)
    let more ← bodyOnce run body
    if more then eachKey run n body ks else return ()

/-- Carries out statements one after another. -/
def inSequence (run : Runner) : List Statement → Running Unit
  | [] => return ()
  | s :: ss => do
    let _ ← run (.work s)
    inSequence run ss

/-- What a statement does. -/
def carryOut (run : Runner) (s : Statement) : Running Unit := do
  match s with
  | .nothing => return ()
  | .work e =>
    let _ ← run (.value e)
    return ()
  | .print args target =>
    let o ← lineOf run args
    write run target o
  | .compose args target =>
    let cells ← args.mapM fun e => run (.value e)
    let (o, fault) ← composed "printf" cells
    write run target o
    match fault with
    | some m => failAt m
    | none => return ()
  | .sequence ss => inSequence run ss
  | .branch test yes no =>
    let c ← run (.value test)
    let _ ← run (.work (if c.isTrue then yes else no))
    return ()
  | .loop isFirst test step body =>
    let holds : Running Bool := do
      match test with
      | none => return true
      | some e => return (← run (.value e)).isTrue
    let once : Running Bool := do
      tick
      let more ← bodyOnce run body
      if more then
        let _ ← run (.work step)
        holds
      else return false
    let begins ← if isFirst then holds else pure true
    if begins then turns once turnLimit else return ()
  | .each n table body =>
    let keys ← withTable (← tableOf table) fun t =>
      let r := t.keys
      (r.2, r.1)
    eachKey run n body keys
  | .next => throw .next
  | .nextFile => throw .nextFile
  | .finish e =>
    match e with
    | some e =>
      let x ← numberFrom run e
      let n := clamped leastWhole greatestWhole x
      modify fun m => { m with status := (Int.emod n 256).toNat }
    | none => pure ()
    throw .finish
  | .giveBack e =>
    match e with
    | some e =>
      let c ← run (.value e)
      throw (.giveBack c)
    | none => throw (.giveBack .unset)
  | .leave => throw .leave
  | .again => throw .again
  | .remove table keys =>
    let k ← keyFrom run keys
    withTable (← tableOf table) fun t => ((), t.remove k)
  | .clear table => withTable (← tableOf table) fun _ => ((), .empty)

/-- Works something out or does it, with so much nested in it at most. -/
def run : Nat → Runner
  | 0, _ => overflow
  | fuel + 1, t =>
    match t with
    | .value e => evaluate (run fuel) e
    | .work s => do
      carryOut (run fuel) s
      return .unset

/-- How deep everything may be nested. -/
def nestingLimit : Nat := 20000

/-! ### Rules -/

/-- Whether a rule is for the record. -/
def isChosen (c : Choice) : Running Bool := do
  let holds (e : Expr) : Running Bool := do
    return (← run nestingLimit (.value e)).isTrue
  let mark (n : Nat) (isEntered : Bool) : Running Unit :=
    modify fun m => { m with ranges := m.ranges.setIfInBounds n isEntered }
  match c with
  | .all => return true
  | .those e => holds e
  | .range n first last =>
    let isEntered := (← get).ranges.getD n false
    let begins ← if isEntered then pure true else holds first
    if !begins then return false
    else
      let ends ← holds last
      mark n !ends
      return true

/-- Carries out the actions of the rules that are for the record. -/
def applyRules : List Rule → Running Unit
  | [] => return ()
  | r :: rs => do
    let chosen ← isChosen r.choice
    if chosen then
      let _ ← run nestingLimit (.work r.action)
      applyRules rs
    else applyRules rs

/-- Reads a record and applies the rules to it, and says whether there has
been one. -/
def oneRecord (rules : List Rule) : Running Bool := do
  match ← nextRecord setByName fileLimit with
  | none => return false
  | some o =>
    tick
    setRecord (.input o)
    match ← outcome (applyRules rules) with
    | .ok _ => return true
    | .error .next => return true
    | .error .nextFile =>
      modify fun m => { m with main := none }
      return true
    | .error s => throw s

/-- Does what a script asks for: what comes before the first record, the rules
for the records, and what comes after the last one. -/
def runScript : Running Unit := do
  let s := (← get).script
  let work (actions : List Statement) : Running Unit :=
    inSequence (run nestingLimit) actions
  let first : Running Unit := do
    work s.beginnings
    if s.readsRecords then turns (oneRecord s.rules) turnLimit else return ()
  let finishing (r : Running Unit) : Running Unit := do
    match ← outcome r with
    | .error .finish => return ()
    | .ok _ => return ()
    | .error s => throw s
  finishing first
  finishing (work s.endings)

/-- No turns are none. -/
theorem inSequence_nil (run : Runner) : inSequence run [] = return () := rfl

end BitProbe.Bench.Rules

import BitProbe.Bench.Editor.Reading
import BitProbe.Bench.Program

/-!
Carrying out scripts that edit lines.

Lines are read one after another. The commands of a script are carried out
for the line that is worked on, which is then written unless it is dropped.

* `Editor.Style`: how lines are edited, whatever the script says;
* `Editor.Line`, `Editor.Supply`, `Editor.Desk`: what is worked on;
* `Editor.Stop`, `Editor.Editing`: the steps of editing, and how they end
  early;
* `Editor.Substitution.apply`: what a line becomes by a substitution;
* `Editor.listed`: a line with every octet to be seen;
* `Editor.carryOut`, `Editor.turns`: one command, and all of them;
* `Editor.edit`: the lines of files edited.
-/

namespace BitProbe.Bench.Editor

/-- How lines are edited, whatever the script says. -/
structure Style where
  isSilent : Bool := false
  ending : Char := '\n'
  /-- How wide lines are when they are listed. -/
  width : Nat := 70
  /-- Whether each file is a text of its own. -/
  isSeparate : Bool := false
  /-- Whether files are edited where they stand, and what the old ones are
  called then: a star stands for the name. -/
  keepsAs : Option Octets := none
  followsLinks : Bool := false
  isUnbuffered : Bool := false

/-- A line without its end, and whether it has had one. -/
structure Line where
  text : Octets := []
  isEnded : Bool := true

/-- Where lines are written to: where all lines go, or what a script names. -/
inductive Sink where
  | main
  | target (t : Target)
  deriving DecidableEq

/-- Whether a range has been entered, and the number of its last line if that
is known. -/
inductive Reach where
  | outside
  | inside (upTo : Option Nat)

/-- What is written when the line that is worked on is done with. -/
inductive Later where
  | text (o : Octets)
  | file (path : Octets)

/-- A file that lines are read from. -/
structure Supply where
  name : Octets
  stream : Stream
  /-- How much has been read. -/
  used : Nat := 0

/-- What is worked on. -/
structure Desk where
  style : Style
  script : Script
  plain : Bool
  /-- The files that have not been read yet. -/
  paths : List Octets
  supply : Option Supply := none
  name : Octets := ['-']
  /-- Whether the next file starts a text of its own. -/
  startsAnew : Bool := false
  number : Nat := 0
  line : Line := {}
  held : Line := {}
  later : List Later := []
  hasReplaced : Bool := false
  reaches : Array Reach
  lastEngine : Option Engine := none
  /-- Where the last line lacks its end. -/
  lacking : List Sink := []
  /-- What is left of the files that are read line by line. -/
  sources : List (Octets × Octets) := []
  /-- What has been written to the file that is edited, the last first. -/
  edited : List Octets := []
  /-- What has been written to the output and still waits, the last first. -/
  waiting : List Octets := []
  /-- What has been written to files that the script names, the last first. -/
  written : List (Octets × List Octets) := []
  /-- Whether a file could not be read. -/
  hasMissed : Bool := false

/-- Why editing ends early. -/
inductive Stop where
  /-- The script asks for it, with a status. -/
  | quit (status : Nat)
  /-- Something has gone wrong. -/
  | failure (status : Nat)

/-- The steps of editing. -/
abbrev Editing := ExceptT Stop (StateT Desk Work)

namespace Desk

/-- The ranges of a script before the first line: those that start there have
been entered. -/
def reachesOf (s : Script) : Array Reach :=
  s.commands.map fun k =>
    if k.choice.bound.isSome && k.choice.first.any Address.isZero then
      .inside none
    else .outside

/-- What is worked on at the start. -/
def start (style : Style) (script : Script) (plain : Bool)
    (paths : List Octets) : Desk :=
  { style, script, plain, paths, reaches := reachesOf script }

/-- Whether files are edited where they stand. -/
def isInPlace (d : Desk) : Bool := d.style.keepsAs.isSome

end Desk

/-! ### Writing -/

/-- How much is written at once. -/
def blockSize : Nat := 4096

/-- Writes what fills blocks; the rest waits. -/
def settle : Editing Unit := do
  let d ← get
  let o := d.waiting.reverse.flatten
  let n := o.length / blockSize * blockSize
  (Work.say (o.take n) : Work Unit)
  set { d with waiting := [o.drop n] }

/-- Says that something is wrong. -/
def tell (status : Nat) (message : Octets) : Editing Unit := do
  settle
  (Work.complain status message : Work Unit)

/-- Ends because something is wrong. -/
def fail {α : Type} (status : Nat) (message : Octets) : Editing α := do
  tell status message
  throw (.failure status)

/-- Files with octets at the end of one of them. -/
def extend (path o : Octets) :
    List (Octets × List Octets) → List (Octets × List Octets)
  | [] => [(path, [o])]
  | (p, os) :: rest =>
    if p = path then (p, o :: os) :: rest else (p, os) :: extend path o rest

/-- Writes octets. -/
def put (s : Sink) (o : Octets) : Editing Unit := do
  let d ← get
  let output : Editing Unit :=
    if d.style.isUnbuffered then (Work.say o : Work Unit)
    else set { d with waiting := o :: d.waiting }
  match s with
  | .main =>
    if d.isInPlace then set { d with edited := o :: d.edited } else output
  | .target .output => output
  | .target .messages => (Work.sayOn 2 o : Work Unit)
  | .target (.file path) => set { d with written := extend path o d.written }

/-- Ends the last line if it lacks its end. -/
def complete (s : Sink) : Editing Unit := do
  let d ← get
  if d.lacking.contains s then
    put s [d.style.ending]
    modify fun d => { d with lacking := d.lacking.filter (· ≠ s) }

/-- Writes a line. -/
def putLine (s : Sink) (l : Line) : Editing Unit := do
  complete s
  let d ← get
  if l.isEnded then put s (l.text ++ [d.style.ending])
  else
    put s l.text
    modify fun d => { d with lacking := s :: d.lacking }

/-- Writes octets after whole lines. -/
def putText (o : Octets) : Editing Unit := do
  complete .main
  put .main o

/-- Writes the line that is worked on, unless all is to be silent. -/
def putDone : Editing Unit := do
  let d ← get
  if !d.style.isSilent then putLine .main d.line

/-- Writes what has waited for the line to be done with. -/
def putLater : Editing Unit := do
  let d ← get
  set { d with later := [] }
  if !d.later.isEmpty then complete .main
  d.later.reverse.forM fun l =>
    match l with
    | .text o => put .main o
    | .file path => do
      match ← (Work.fileAt path : Work _) with
      | .ok s => put .main s.held
      | .error _ => return ()

/-! ### Files -/

/-- What the old file is called when a file is edited where it stands. -/
def keptName (pattern name : Octets) : Octets :=
  if pattern.contains '*' then
    pattern.flatMap fun c => if c = '*' then name else [c]
  else name ++ pattern

/-- Puts what has been written in place of the file that has been edited. -/
def replaceFile (name pattern : Octets) : Editing Unit := do
  let d ← get
  set { d with edited := [] }
  let files := (← (get : Work Ended)).files
  let found := if d.style.followsLinks then files.locate name.toText
    else files.locateEntry name.toText
  match found with
  | .error _ => return ()
  | .ok place =>
    let mode := files.mode ((files.locate name.toText).toOption.getD place)
    let kept : Except FileError FileTree := if pattern.isEmpty then .ok files
      else
        match files.locateEntry (keptName pattern name).toText with
        | .ok old =>
          if (files.node? old.dropLast).isNone then .error FileError.notFound
          else .ok (files.move place old)
        | .error e => .error e
    match kept with
    | .error e =>
      fail 4 ("cannot rename ".toList ++ name ++ ": ".toList ++
        e.reason.toList)
    | .ok files =>
      let files := if pattern.isEmpty then files.remove place else files
      let bytes := Octets.toBytes d.edited.reverse.flatten
      let files := files.put place (.file bytes)
      (Work.setFiles (files.setMode place mode) : Work Unit)

/-- Closes the file that lines are read from. -/
def closeFile : Editing Unit := do
  let d ← get
  match d.supply with
  | none => return ()
  | some s =>
    set { d with
      supply := none
      startsAnew := d.style.isSeparate }
    match d.style.keepsAs with
    | some pattern =>
      modify fun d => { d with lacking := d.lacking.filter (· ≠ .main) }
      replaceFile s.name pattern
    | none => return ()

/-- Says that a file cannot be read. -/
def missed (name : Octets) (e : FileError) : Editing Unit := do
  tell 2 ("can\x27t read ".toList ++ name ++ ": ".toList ++ e.reason.toList)
  modify fun d => { d with hasMissed := true }

/-- Makes lines be read from a file, unless it cannot be opened. -/
def openFile (name : Octets) : Editing Unit := do
  let d ← get
  if d.startsAnew then
    complete .main
    modify fun d => { d with
      startsAnew := false
      number := 0
      reaches := Desk.reachesOf d.script
      sources := [] }
  let from_ (s : Stream) : Editing Unit :=
    modify fun d => { d with supply := some { name, stream := s }, name }
  let files := (← (get : Work Ended)).files
  if d.isInPlace then
    match files.lookup name.toText with
    | .ok (.file bytes) => from_ (.ofFile (Octets.ofBytes bytes))
    | .ok _ =>
      fail 4 ("couldn\x27t edit ".toList ++ name ++
        ": not a regular file".toList)
    | .error e => missed name e
  else
    match ← (Work.source name : Work _) with
    | .ok s => from_ s
    | .error .isADirectory => from_ (.faulty .isADirectory)
    | .error e =>
      if name = ['-'] then from_ (.faulty e) else missed name e

/-- The first line of a stream, and the rest. One that never ends may have no
line. -/
def Supply.next? (s : Supply) (ending : Char) : Option (Line × Supply) :=
  let held := s.stream.held
  let text := held.takeWhile (· ≠ ending)
  let rest := held.drop text.length
  match rest with
  | c :: cs =>
    some (⟨text, true⟩,
      { s with
        stream := { s.stream with held := cs }
        used := s.used + text.length + (if c = ending then 1 else 0) })
  | [] =>
    if s.stream.isEndless then
      let more := s.stream.forever.takeWhile (· ≠ ending)
      if more.length = s.stream.forever.length then none
      else
        some (⟨text ++ more, true⟩,
          { s with
            stream := { s.stream with
              held := s.stream.forever.drop (more.length + 1) }
            used := s.used + text.length + more.length + 1 })
    else if text.isEmpty then none
    else
      some (⟨text, false⟩,
        { s with
          stream := { s.stream with held := [] }
          used := s.used + text.length })

/-- Whether there is something left of a file. -/
def Supply.hasMore (s : Supply) : Bool :=
  s.stream.fault.isNone && (!s.stream.held.isEmpty || s.stream.isEndless)

/-- The next line, for which more files are opened if need be. -/
def nextLine? : Nat → Editing (Option Line)
  | 0 => return none
  | fuel + 1 => do
    let d ← get
    match d.supply, d.paths with
    | none, [] => return none
    | none, p :: ps =>
      set { d with paths := ps }
      openFile p
      nextLine? fuel
    | some s, _ =>
      match s.stream.fault with
      | some e =>
        fail 4 ("read error on ".toList ++
          (if s.name = ['-'] then "stdin".toList else s.name) ++
          ": ".toList ++ e.reason.toList)
      | none =>
        match s.next? d.style.ending with
        | some (l, s) =>
          set { d with supply := some s, number := d.number + 1 }
          return some l
        | none =>
          if s.stream.isEndless then
            settle
            (Work.hang : Work Unit)
            throw (.failure 0)
          closeFile
          nextLine? fuel

/-- How many times files are opened and closed at most. -/
def Desk.patience (d : Desk) : Nat := 2 * d.paths.length + 2

/-- Whether no file that is left has something to read. -/
def hasNoMore : Nat → Editing Bool
  | 0 => return true
  | fuel + 1 => do
    closeFile
    let d ← get
    match d.paths with
    | [] => return true
    | p :: ps =>
      set { d with paths := ps }
      openFile p
      if (← get).supply.any Supply.hasMore then return false
      else hasNoMore fuel

/-- Whether the line that is worked on is the last one. -/
def isLast : Editing Bool := do
  let d ← get
  if d.supply.any Supply.hasMore then return false
  else if d.style.isSeparate then return true
  else hasNoMore d.patience

/-- Reads the next line in place of the one that is worked on, or after it;
whether there is one. -/
def readLine (isAfter : Bool) : Editing Bool := do
  putLater
  modify fun d => { d with hasReplaced := false }
  match ← nextLine? (← get).patience with
  | none => return false
  | some l =>
    modify fun d => { d with
      line := if isAfter then
          { l with text := d.line.text ++ d.style.ending :: l.text }
        else l }
    return true

/-! ### Choosing lines -/

/-- An expression, or the one that was looked for last. -/
def engineOf (e : Option Engine) : Editing Engine := do
  let d ← get
  match e, d.lastEngine with
  | some e, _ =>
    set { d with lastEngine := some e }
    return e
  | none, some e => return e
  | none, none =>
    let place := match d.script.origin with
      | .argument _ => 0
      | .file _ => d.script.lastLine
    let fault : Fault := ⟨.noRegex, d.script.origin, place⟩
    fail fault.status fault.message

/-- Whether an address stands for the line that is worked on. -/
def meets (a : Address) : Editing Bool := do
  let d ← get
  match a with
  | .line n => return d.number = n
  | .every first step =>
    return first ≤ d.number && (d.number - first) % step = 0
  | .last => isLast
  | .matching e =>
    let e ← engineOf e
    return e.isIn d.plain d.line.text

/-- The reach of a range from a line on, if it is more than that line. -/
def Bound.reach (n : Nat) : Bound → Reach
  | .at_ (.line m) => if m ≤ n then .outside else .inside (some m)
  | .at_ _ => .inside none
  | .after k => if k = 0 then .outside else .inside (some (n + k))
  | .multiple k =>
    if k = 0 then .outside
    else .inside (some (n / k * k + k))

/-- Whether a command is for the line that is worked on, apart from a
negation. -/
def isWithin (i : Nat) (c : Choice) : Editing Bool := do
  let setReach (r : Reach) : Editing Unit :=
    modify fun d => { d with reaches := d.reaches.setIfInBounds i r }
  match c.first, c.bound with
  | none, _ => return true
  | some a, none => meets a
  | some a, some b =>
    let d ← get
    match d.reaches.getD i .outside with
    | .outside =>
      let isFirst ← meets a
      if !isFirst then return false
      let isOver ← match b with
        | .at_ .last => isLast
        | _ => pure false
      setReach (if isOver then .outside else b.reach d.number)
      return true
    | .inside (some n) =>
      if n ≤ d.number then setReach .outside
      return d.number ≤ n
    | .inside none =>
      match b with
      | .at_ e =>
        if ← meets e then setReach .outside
        return true
      | _ => return true

/-! ### Changing a line -/

/-- What a match is replaced by. Letters that were to be changed in a group
that has matched nothing are changed in the next piece. -/
def replacement (t : Subject) (m : Match) :
    List Piece → Option Bool → List Octets → Octets
  | [], _, done => done.reverse.flatten
  | p :: ps, first, done =>
    let letters : Letters := if p.letters.first.isSome then p.letters
      else { p.letters with first }
    let before := letters.apply t.plain p.text
    let letters := if p.text.isEmpty then letters
      else { letters with first := none }
    match p.group with
    | none => replacement t m ps none (before :: done)
    | some g =>
      let o := match m.group? g with
        | some (a, b) => t.slice a b
        | none => []
      if o.isEmpty then
        replacement t m ps
          (if p.letters.first.isSome then letters.first else none)
          (before :: done)
      else replacement t m ps none (letters.apply t.plain o :: before :: done)

namespace Substitution

/-- What a text becomes from a place on, where some matches have been found
before it, the last of which ends at a place; nothing if no match is
replaced. What has been made is given in pieces, the last first. -/
def applyFrom (s : Substitution) (e : Engine) (t : Subject) :
    Nat → (start found : Nat) → (last : Option Nat) → (isDone : Bool) →
    List Octets → Option Octets
  | 0, _, _, _, _, _ => none
  | fuel + 1, i, found, last, isDone, done =>
    let finish (isDone : Bool) (i : Nat) (done : List Octets) :
        Option Octets :=
      if isDone then some ((t.slice i t.size :: done).reverse.flatten) else none
    match if i ≤ t.size then e.search? t i else none with
    | none => finish isDone i done
    | some m =>
      let before := t.slice i m.start
      let step := if m.start < t.size then t.width m.start else 1
      let skipped := t.slice m.start (m.start + step)
      if m.isEmpty && last = some m.start then
        applyFrom s e t fuel (m.start + step) found none isDone
          (skipped :: before :: done)
      else
        let found := found + 1
        if found < s.number then
          let (o, next) := if m.isEmpty then (skipped, m.start + step)
            else (t.slice m.start m.finish, m.finish)
          applyFrom s e t fuel next found (some m.finish) isDone
            (o :: before :: done)
        else
          let o := replacement t m s.pieces none []
          if !s.isGlobal then finish true m.finish (o :: before :: done)
          else if m.isEmpty then
            applyFrom s e t fuel (m.start + step) found (some m.finish) true
              (skipped :: o :: before :: done)
          else
            applyFrom s e t fuel m.finish found (some m.finish) true
              (o :: before :: done)

/-- What a text becomes, if a match in it is replaced. -/
def apply (s : Substitution) (e : Engine) (plain : Bool) (o : Octets) :
    Option Octets :=
  s.applyFrom e (Subject.ofOctets plain o) (o.length + 2) 0 0 none false []

end Substitution

/-- A text with characters replaced by others. -/
def translated (plain : Bool) (pairs : List (Octets × Octets)) (o : Octets) :
    Octets :=
  let pairs := if plain then pairs.reverse else pairs
  (shownParts plain (o.length + 1) o).flatMap fun p =>
    (pairs.lookup p.1).getD p.1

/-- An octet as it is seen in a list. -/
def shownOctet (c : Char) : Octets :=
  match c with
  | '\\' => "\\\\".toList
  | '\x07' => "\\a".toList
  | '\x08' => "\\b".toList
  | '\x0c' => "\\f".toList
  | '\n' => "\\n".toList
  | '\x0d' => "\\r".toList
  | '\t' => "\\t".toList
  | '\x0b' => "\\v".toList
  | c =>
    if isPrintable c then [c]
    else '\\' :: (Nat.toDigits 8 c.toNat).leftpad 3 '0'

/-- A line with every octet to be seen, which goes on in other lines where it
is wider than it may be; zero stands for any width. -/
def listed (width : Nat) (ending : Char) (o : Octets) : Octets :=
  let room := width - 1
  let add (r : Nat × List Octets) (c : Char) : Nat × List Octets :=
    let s := shownOctet c
    if 0 < width && room < r.1 + s.length then
      (s.length, s :: "\\\n".toList :: r.2)
    else (r.1 + s.length, s :: r.2)
  (o.foldl add (0, [])).2.reverse.flatten ++ ['$', ending]

/-- A line without anything is listed as its end. -/
theorem listed_nil (width : Nat) (ending : Char) :
    listed width ending [] = ['$', ending] := rfl

/-! ### Commands -/

/-- How it goes on after a command. -/
inductive Flow where
  | next
  | jump (goal : Nat)
  /-- The line is done with, and is written or dropped. -/
  | done (isWritten : Bool)
  /-- What is left of the line is worked on. -/
  | rest

/-- The next line of a file that is read line by line. -/
def sourceLine (path : Octets) : Editing Unit := do
  let d ← get
  let rest ← match d.sources.lookup path with
    | some o => pure o
    | none => do
      match ← (Work.fileAt path : Work _) with
      | .ok s => pure s.held
      | .error _ => pure []
  let ls := Octets.linesBy d.style.ending rest
  let others := d.sources.filter (·.1 ≠ path)
  modify fun d => { d with sources := (path, ls.tail.flatten) :: others }
  match ls with
  | l :: _ => modify fun d => { d with later := .text l :: d.later }
  | [] => return ()

/-- The first part of a line, if it has several. -/
def firstPart (ending : Char) (l : Line) : Line :=
  if l.text.contains ending then ⟨l.text.takeWhile (· ≠ ending), true⟩ else l

/-- A line after another one. -/
def joined (ending : Char) (l m : Line) : Line :=
  ⟨l.text ++ ending :: m.text, m.isEnded⟩

/-- Carries out a substitution. -/
def substitute (s : Substitution) : Editing Unit := do
  let e ← engineOf s.engine
  let d ← get
  match s.apply e d.plain d.line.text with
  | none => return ()
  | some o =>
    let line := { d.line with text := o }
    modify fun d => { d with line, hasReplaced := true }
    if s.prints then putLine .main line
    match s.target with
    | some t => putLine (.target t) line
    | none => return ()

/-- Carries out a command that does nothing but change the line that is worked
on and the one that is held. -/
def Action.change (ending : Char) (a : Action) (line held : Line) :
    Line × Line :=
  match a with
  | .hold => (line, line)
  | .holdMore => (line, joined ending held line)
  | .recall => (held, held)
  | .recallMore => (joined ending line held, held)
  | .exchange => (held, line)
  | .empty => ({ line with text := [] }, held)
  | _ => (line, held)

/-- Lines that change places twice are where they were. -/
theorem change_exchange (ending : Char) (l h : Line) :
    let r := Action.exchange.change ending l h
    Action.exchange.change ending r.1 r.2 = (l, h) := rfl

/-- Carries out the command of a number. -/
def carryOut (i : Nat) (a : Action) : Editing Flow := do
  let d ← get
  let ending := d.style.ending
  match a with
  | .block _ => return .next
  | .nothing => return .next
  | .text .append o =>
    set { d with later := .text o :: d.later }
    return .next
  | .text .insert o =>
    putText o
    return .next
  | .text .change o =>
    match d.reaches.getD i .outside with
    | .inside _ => return .done false
    | .outside =>
      putText o
      return .done false
  | .jump .always _ goal => return .jump goal
  | .jump .replaced _ goal =>
    set { d with hasReplaced := false }
    return if d.hasReplaced then .jump goal else .next
  | .jump .unreplaced _ goal =>
    set { d with hasReplaced := false }
    return if d.hasReplaced then .next else .jump goal
  | .delete => return .done false
  | .deleteFirst =>
    match d.line.text.dropWhile (· ≠ ending) with
    | [] => return .done false
    | _ :: rest =>
      set { d with line := { d.line with text := rest } }
      return .rest
  | .print =>
    putLine .main d.line
    return .next
  | .printFirst =>
    putLine .main (firstPart ending d.line)
    return .next
  | .number =>
    putText (Nat.toDigits 10 d.number ++ [ending])
    return .next
  | .name =>
    putText (d.name ++ [ending])
    return .next
  | .list width =>
    putText (listed (width.getD d.style.width) ending d.line.text)
    return .next
  | .next =>
    if ← isLast then return .done true
    putDone
    let more ← readLine false
    return if more then .next else .done false
  | .append =>
    if ← isLast then return .done true
    let more ← readLine true
    return if more then .next else .done true
  | .quit status silently =>
    if !silently then
      putDone
      putLater
    throw (.quit status)
  | .readFile path =>
    set { d with later := .file path :: d.later }
    return .next
  | .readLine path =>
    sourceLine path
    return .next
  | .write t =>
    putLine (.target t) d.line
    return .next
  | .writeFirst t =>
    putLine (.target t) (firstPart ending d.line)
    return .next
  | .substitute s =>
    substitute s
    return .next
  | .translate pairs =>
    let text := translated d.plain pairs d.line.text
    set { d with line := { d.line with text } }
    return .next
  | .unknown c => fail 4 ("INTERNAL ERROR: Bad cmd ".toList ++ [c])
  | a =>
    let (line, held) := a.change ending d.line d.held
    set { d with line, held }
    return .next

/-- Carries out commands from one on, and then all of them for every line
that follows. -/
def turns : Nat → Nat → Editing Unit
  | 0, _ => do
    let d ← get
    let o := d.waiting.reverse.flatten
    if o.isEmpty then (Work.hang : Work Unit)
    else (Work.pour { held := o, forever := o } : Work Unit)
    throw (.failure 0)
  | fuel + 1, i => do
    let d ← get
    let finish (isWritten : Bool) : Editing Unit := do
      if isWritten then putDone
      let more ← readLine false
      if more then turns fuel 0
    match d.script.commands[i]? with
    | none => finish true
    | some k =>
      let chosen ← isWithin i k.choice
      if chosen = k.choice.isNegated then
        match k.action with
        | .block goal => turns fuel goal
        | _ => turns fuel (i + 1)
      else
        match ← carryOut i k.action with
        | .next => turns fuel (i + 1)
        | .jump goal => turns fuel goal
        | .done isWritten => finish isWritten
        | .rest =>
          putLater
          turns fuel 0

/-- How many commands are carried out before they are taken never to end. -/
def endurance : Nat := 400000

/-- Leaves what has not been read of the input: what has been read into a
block that has not been used up is lost, unless reading can go back. -/
def leaveInput (canGoBack : Bool) (s : Supply) : Work Unit :=
  let lost := if canGoBack then 0
    else (blockSize - s.used % blockSize) % blockSize
  Work.leave { s.stream with held := s.stream.held.drop lost }

/-- Edits the lines of files. -/
def edit (style : Style) (script : Script) (canGoBack : Bool)
    (paths : List Octets) : Work Unit := do
  let plain := (← get).plain
  let desk := Desk.start style script plain paths
  let work : Editing Unit := do
    let more ← readLine false
    if more then turns endurance 0
  let (result, d) ← work.run.run desk
  d.written.forM fun w => do
    let _ ← Work.write w.1 w.2.reverse.flatten
  let leaveRest : Work Unit :=
    match d.supply with
    | some s => if s.name = ['-'] && !d.isInPlace then leaveInput canGoBack s
      else return ()
    | none => return ()
  match result with
  | .error (.failure status) =>
    Work.say d.waiting.reverse.flatten
    Work.setStatus status
  | .error (.quit status) =>
    let (_, d) ← (closeFile : Editing Unit).run.run d
    Work.say d.waiting.reverse.flatten
    leaveRest
    Work.setStatus (if d.hasMissed then 2 else status)
  | .ok () =>
    Work.say d.waiting.reverse.flatten
    Work.setStatus (if d.hasMissed then 2 else 0)

end BitProbe.Bench.Editor

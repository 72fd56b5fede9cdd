import BitProbe.Bench.Shell.Pattern
import BitProbe.Bench.Shell.State

/-!
What the words of a script stand for.

Values, outputs and numbers take the place of the pieces that name them. Of a
word that may become several arguments, what comes from outside quotes is
split where a variable says so, and names of files take the place of
patterns.

* `Part`, `fieldsFrom`: a word while it is expanded, and the fields it makes;
* `withHome`: a word with directories in place of tildes;
* `expand`: the parts of a word;
* `arguments`, `cellsOf`, `textOf`: words as arguments, and a word as one
  text.
-/

namespace BitProbe.Bench.Shell

/-- A part of a word that is expanded. -/
inductive Part where
  | fixed (c : Cell)
  /-- An octet at which the word may be split. -/
  | loose (c : Char)
  /-- Quotes, which make a field even if it is empty. -/
  | quotes
  /-- The start of one of all the arguments, which makes a field even if it is
  empty, unless a value that may be split comes next. -/
  | item
  /-- Where a value starts: what separates fields before it does not count
  together with what separates them in it. -/
  | edge
  /-- The end of a field, and a blank that does not depend on a variable. -/
  | boundary
  | gap

/-- How a word is used: as arguments or as one text, which may be an
assignment. -/
inductive Use where
  | arguments
  | text
  | assignment
  deriving DecidableEq

/-- What runs a command and returns what it has written. -/
abbrev Capture := Command → State → Octets × State

/-! ### Fields -/

/-- Octets at which words are split if nothing else is said. -/
def usualSeparators : Octets := [' ', '\t', '\n']

/-- The name of the variable that holds the octets at which words are
split. -/
def separatorsName : Octets := "IFS".toList

/-- The octets at which words are split. -/
def State.separators (st : State) : Octets :=
  (st.bindings.value? separatorsName).getD usualSeparators

/-- What a list of arguments is put together with. -/
def State.joint (st : State) : Octets :=
  st.separators.take 1

/-- What stands before the place where a field may start. -/
inductive Before where
  | start
  /-- Blanks after a field, with which one other separator counts together. -/
  | blanks

/-- The fields that parts make, the cells of the field that has begun in
reverse order. -/
def fieldsFrom (seps : Octets) :
    Option (List Cell) → Before → List Part → List (List Cell)
  | begun, _, [] => (begun.map List.reverse).toList
  | begun, b, .fixed c :: ps =>
    fieldsFrom seps (some (c :: begun.getD [])) b ps
  | begun, b, .quotes :: ps => fieldsFrom seps (some (begun.getD [])) b ps
  | begun, b, .item :: .edge :: ps => fieldsFrom seps begun b (.edge :: ps)
  | begun, b, .item :: ps => fieldsFrom seps (some (begun.getD [])) b ps
  | begun, _, .edge :: ps => fieldsFrom seps begun .start ps
  | begun, _, .boundary :: ps =>
    (begun.map List.reverse).toList ++ fieldsFrom seps none .start ps
  | some cs, _, .gap :: ps => cs.reverse :: fieldsFrom seps none .blanks ps
  | none, b, .gap :: ps => fieldsFrom seps none b ps
  | begun, b, .loose c :: ps =>
    if !seps.contains c then
      fieldsFrom seps (some (⟨c, false⟩ :: begun.getD [])) b ps
    else
      match begun, usualSeparators.contains c, b with
      | some cs, true, _ => cs.reverse :: fieldsFrom seps none .blanks ps
      | some cs, false, _ => cs.reverse :: fieldsFrom seps none .start ps
      | none, true, b => fieldsFrom seps none b ps
      | none, false, .blanks => fieldsFrom seps none .start ps
      | none, false, .start => [] :: fieldsFrom seps none .start ps

/-- Parts as cells of one text. -/
def cellsOfParts (ps : List Part) : List Cell :=
  ps.filterMap fun
    | .fixed c => some c
    | .loose c => some ⟨c, false⟩
    | .boundary => some ⟨' ', false⟩
    | .gap => some ⟨' ', false⟩
    | .quotes => none
    | .item => none
    | .edge => none

/-- Parts as octets of one text. -/
def octetsOfParts (ps : List Part) : Octets :=
  octetsOf (cellsOfParts ps)

/-! ### Tildes -/

/-- The directories of the users that every machine has. -/
def userHomes : List (String × String) :=
  [("root", "/root"), ("daemon", "/usr/sbin"), ("bin", "/bin"),
   ("sys", "/dev"), ("sync", "/bin"), ("games", "/usr/games"),
   ("man", "/var/cache/man"), ("lp", "/var/spool/lpd"),
   ("mail", "/var/mail"), ("news", "/var/spool/news"),
   ("uucp", "/var/spool/uucp"), ("proxy", "/bin"), ("www-data", "/var/www"),
   ("backup", "/var/backups"), ("list", "/var/list"), ("irc", "/run/ircd"),
   ("_apt", "/nonexistent"), ("nobody", "/nonexistent")]

/-- The directory that a user's name after a tilde stands for. -/
def homeOf? (st : State) (user : Octets) : Option Octets :=
  if user.isEmpty then st.valueOf "HOME"
  else (userHomes.lookup (String.ofList user)).map String.toList

/-- The octets outside quotes up to the next one of some octets, if only such
octets come before it. -/
def plainUntil (stops : List Char) : Phrase → Option Octets
  | [] => some []
  | .octet c false :: p =>
    if stops.contains c then some [] else (plainUntil stops p).map (c :: ·)
  | _ :: _ => none

/-- A word with directories in place of tildes: at its start, and in an
assignment also after colons. -/
def withHomeFrom (st : State) (assignment : Bool) : Bool → Phrase → Phrase
  | _, [] => []
  | start, piece :: p =>
    match piece with
    | .octet c false =>
      let stops := if assignment then ['/', ':'] else ['/']
      let rest := withHomeFrom st assignment (assignment && c = ':') p
      match start && c = '~', plainUntil stops p with
      | true, some user =>
        match homeOf? st user with
        | some home =>
          home.map (Piece.octet · true) ++
            (withHomeFrom st assignment false p).drop user.length
        | none => piece :: rest
      | _, _ => piece :: rest
    | piece => piece :: withHomeFrom st assignment false p

@[inherit_doc withHomeFrom]
def withHome (st : State) (p : Phrase) : Phrase :=
  withHomeFrom st false true p

/-! ### Pieces -/

/-- A value as parts. -/
def valueParts (quoted : Bool) (o : Octets) : List Part :=
  if quoted then o.map fun c => .fixed ⟨c, true⟩ else .edge :: o.map .loose

/-- Whether all arguments become fields of their own where they are used. -/
def areFields (use : Use) (quoted each : Bool) : Bool :=
  use = .arguments && (!quoted || each)

/-- Fields as parts: quoted ones, or ones that are split. -/
def fieldParts (quoted : Bool) (fields : List Octets) : List Part :=
  if quoted then
    [Part.boundary].intercalate (fields.map fun a => .item :: valueParts true a)
  else .edge :: [Part.gap].intercalate (fields.map (valueParts false))

/-- The arguments as parts: as one text with something between them, or as
fields. -/
def argumentParts (use : Use) (quoted each : Bool) (st : State) : List Part :=
  if areFields use quoted each then fieldParts quoted st.args
  else valueParts quoted (st.joint.intercalate st.args)

/-- Whether a name stands for all arguments. -/
def isAll (name : Octets) : Bool :=
  name = ['@'] || name = ['*']

/-- Whether an edit asks for a value without a word for its absence. -/
def Edit.asks : Edit → Bool
  | .whole => true
  | .size => true
  | .cut _ _ _ => true
  | _ => false

/-- Parts that stand within an unquoted piece, which may be split. -/
def loosened (ps : List Part) : List Part :=
  .edge :: ps.map fun
    | .fixed c => if c.quoted then .fixed c else .loose c.octet
    | p => p

/-- What expands a word. -/
abbrev Expander := Use → Phrase → State → List Part × State

/-- The parts of a word that stands within a piece. -/
def operandParts (inner : Expander) (use : Use) (quoted : Bool) (p : Phrase)
    (st : State) : List Part × State :=
  let p := if quoted then p else withHome st p
  let (ps, st) := inner use p st
  (if quoted then ps else loosened ps, st)

/-- The value of a variable that is asked for, as octets. -/
def valueText (name : Octets) (st : State) : Option Octets :=
  if isAll name then
    if st.args.isEmpty then none else some (st.joint.intercalate st.args)
  else st.value? name

/-- Sets a variable from within a word, if that is possible. -/
def setWithin (name o : Octets) (st : State) : State :=
  if !isName name then
    st.fail (name ++ ": bad variable name".toList)
  else if st.bindings.isFixed name then
    st.fail (name ++ ": is read only".toList)
  else st.setVariable name o

/-- The parts of an edited value. -/
def editedParts (inner : Expander) (use : Use) (quoted : Bool)
    (name : Octets) (edit : Edit) (st : State) : List Part × State :=
  let value := valueText name st
  let present (emptyToo : Bool) : Bool :=
    value.any fun o => !(emptyToo && o.isEmpty)
  let whole : List Part :=
    if isAll name then argumentParts use quoted (name = ['@']) st
    else valueParts quoted (value.getD [])
  if st.has 'u' && value.isNone && edit.asks && !isAll name then
    ([], st.fail (name ++ ": parameter not set".toList))
  else match edit with
  | .whole => (whole, st)
  | .size => (valueParts quoted (Text.decimal (value.getD []).length), st)
  | .fallback e p =>
    if present e then (whole, st) else operandParts inner use quoted p st
  | .setting e p =>
    if present e then (whole, st)
    else
      let (ps, st) := operandParts inner .text quoted p st
      let o := octetsOfParts ps
      if st.isRunning then (valueParts quoted o, setWithin name o st)
      else ([], st)
  | .alternative e p =>
    if present e then operandParts inner use quoted p st else ([], st)
  | .demand e p =>
    if present e then (whole, st)
    else
      let (ps, st) := operandParts inner .text quoted p st
      let o := if !p.isEmpty then octetsOfParts ps
        else if e then "parameter not set or null".toList
        else "parameter not set".toList
      ([], if st.isRunning then st.fail (name ++ ": ".toList ++ o) else st)
  | .cut atEnd longest p =>
    match value with
    | none => ([], st)
    | some o =>
      let (ps, st) := inner .text (withHome st p) st
      let cells := cellsOfParts ps
      let pattern := Pattern.ofCells cells
      let cut (o : Octets) : Octets :=
        if atEnd then pattern.dropEnd longest o else pattern.dropStart longest o
      if isAll name && areFields use quoted (name = ['@']) then
        let fields := if atEnd = longest then
            (cut ([wordEnd].intercalate st.args)).splitOn wordEnd
          else dropShared quoted atEnd cells st.args
        (fieldParts quoted fields, st)
      else (valueParts quoted (cut o), st)
  | .wrong => ([], st.fail "Bad substitution".toList)

/-- The signal that ends a process whose numbers get out of range. -/
def faultyNumber : Nat := 8

/-- The parts of a number. -/
def numberParts (inner : Expander) (quoted : Bool) (expression : Phrase)
    (st : State) : List Part × State :=
  let (ps, st) := inner .text expression st
  let o := octetsOfParts ps
  if !st.isRunning then ([], st)
  else
    match Arithmetic.evaluate o st.bindings with
    | .ok (n, bindings) =>
      (valueParts quoted (toString n).toList, { st with bindings })
    | .error (.form m) =>
      ([], st.fail ("arithmetic expression: ".toList ++ m.toList ++
        ": \x22".toList ++ o ++ ['\x22']))
    | .error (.noNumber v) => ([], st.fail ("Illegal number: ".toList ++ v))
    | .error (.fixed n) => ([], st.fail (n ++ ": is read only".toList))
    | .error .overflow => ([], { st with flow := .killed faultyNumber })

/-- The parts of a piece. -/
def pieceParts (capture : Capture) (inner : Expander) (use : Use)
    (p : Piece) (st : State) : List Part × State :=
  match p with
  | .octet c quoted => ([.fixed ⟨c, quoted⟩], st)
  | .quotes => ([.quotes], st)
  | .value quoted name edit => editedParts inner use quoted name edit st
  | .output quoted c =>
    let (o, st) := capture c st
    (valueParts quoted (Text.dropRight (· = '\n')
      (o.filter (· ≠ Char.ofNat 0))), st)
  | .number quoted e => numberParts inner quoted e st

/-- A word without the quotes around nothing but all the arguments: those
make fields themselves, and none if there are none. -/
def withoutVoid : Phrase → Phrase
  | .quotes :: .value true ['@'] .whole :: p =>
    let inside := match p with
      | .value true _ _ :: _ => true
      | .output true _ :: _ => true
      | .number true _ :: _ => true
      | _ => false
    let rest := .value true ['@'] .whole :: withoutVoid p
    if inside then .quotes :: rest else rest
  | piece :: p => piece :: withoutVoid p
  | [] => []

/-- The parts of a word, as deep as its pieces can nest. -/
def expand (capture : Capture) : Nat → Expander
  | 0, _, _, st => ([], st)
  | fuel + 1, use, p, st =>
    let (parts, st) := (withoutVoid p).foldl
      (fun (acc : List (List Part) × State) piece =>
        if !acc.2.isRunning then acc
        else
          let r := pieceParts capture (expand capture fuel) use piece acc.2
          (r.1 :: acc.1, r.2)) ([], st)
    (parts.reverse.flatten, st)

/-- How deep the pieces of a word may nest. -/
def nestingLimit : Nat := 200

/-! ### Words -/

/-- The arguments that a word makes. -/
def wordArguments (capture : Capture) (p : Phrase) (st : State) :
    List Octets × State :=
  let (ps, st) := expand capture nestingLimit .arguments
    (withHome st p) st
  let fields := fieldsFrom st.separators none .start ps
  (if st.has 'f' then fields.map octetsOf
    else fields.flatMap (Pattern.names st.files), st)

/-- The arguments that words make. -/
def arguments (capture : Capture) (ws : List Phrase) (st : State) :
    List Octets × State :=
  let (found, st) := ws.foldl (fun (acc : List (List Octets) × State) w =>
    if !acc.2.isRunning then acc
    else
      let r := wordArguments capture w acc.2
      (r.1 :: acc.1, r.2)) ([], st)
  (found.reverse.flatten, st)

/-- A word as the cells of one text. -/
def cellsOf (capture : Capture) (p : Phrase) (st : State) :
    List Cell × State :=
  let (ps, st) := expand capture nestingLimit .text
    (withHome st p) st
  (cellsOfParts ps, st)

/-- A word as one text. -/
def textOf (capture : Capture) (p : Phrase) (st : State) : Octets × State :=
  let (cells, st) := cellsOf capture p st
  (octetsOf cells, st)

/-- The value in an assignment as one text. -/
def assignedText (capture : Capture) (p : Phrase) (st : State) :
    Octets × State :=
  let (ps, st) := expand capture nestingLimit .assignment
    (withHomeFrom st true true p) st
  (octetsOfParts ps, st)

/-- The argument that a word makes which is an assignment itself. -/
def assignmentArgument (capture : Capture) (p : Phrase) (st : State) :
    List Octets × State :=
  let name := p.takeWhile fun
    | .octet c _ => c ≠ '='
    | _ => false
  let (o, st) := assignedText capture (p.drop (name.length + 1)) st
  ([Phrase.octets name ++ '=' :: o], st)

end BitProbe.Bench.Shell

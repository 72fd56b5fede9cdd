import BitProbe.Bench.Rules.Reading
import BitProbe.Bench.Rules.Running

/-!
Calling rules.

The arguments give the script, or the files that it stands in, and variables
that are set before it is read. What is left of them is for the script.

* `Calling`: what arguments ask for;
* `Calling.read`: the options, and the arguments after them;
* `Calling.text`: the text of a script;
* `Machine.first`: what rules work with at first;
* `Host.rules`: the program.
-/

namespace BitProbe.Bench.Rules

open Shell (State Host)

/-- What arguments ask for: the variables that are set, and the files of the
script, the last first. -/
structure Calling where
  settings : List (Octets × Octets) := []
  files : List Octets := []

/-- How the program is called, to be read. -/
def usage : Octets :=
  "Usage: mawk [Options] [Program] [file ...]

Program:
    The -f option value is the name of a file containing program text.
    If no -f option is given, a \"--\" ends option processing; the following
    parameters are the program text.

Options:
    -f program-file  Program  text is read from file instead of from the
                     command-line.  Multiple -f options are accepted.
    -F value         sets the field separator, FS, to value.
    -v var=value     assigns value to program variable var.
    --               unambiguous end of options.

    Implementation-specific options are prefixed with \"-W\".  They can be
    abbreviated:

    -W version       show version information and exit.
    -W compat        pre-POSIX 2001.
    -W dump          show assembler-like listing of program and exit.
    -W help          show this message and exit.
    -W interactive   set unbuffered output, line-buffered input.
    -W exec file     use file as program as well as last option.
    -W posix         stricter POSIX checking.
    -W random=number set initial random seed.
    -W sprintf=number adjust size of sprintf buffer.
    -W usage         show this message and exit.
".toList

namespace Calling

/-- Words that ask for something special. -/
def special : List String :=
  ["version", "compat", "dump", "help", "interactive", "exec", "posix",
   "random", "sprintf", "usage"]

/-- What arguments lead to: what they ask for and the arguments that are left,
unless everything ends with them. -/
abbrev Reading := Work (Option (Calling × List Octets))

/-- Ends everything with a message. -/
def refuse (message : Octets) : Reading := do
  Work.complain 2 message
  return none

/-- What one of the special words asks for, by what is done with options
after it. -/
def addSpecial (k : Calling) (word : Octets) (rest : List Octets)
    (onward : Calling → List Octets → Reading) : Reading := do
  let name := word.takeWhile (· ≠ '=')
  match special.find? fun w => !name.isEmpty && name.isPrefixOf w.toList with
  | none =>
    Work.complain 0 ("vacuous option: -W \x22".toList ++ word ++ ['\x22'])
    onward k rest
  | some "version" =>
    Work.sayLine "mawk 1.3.4 20240123".toList
    return none
  | some "help" =>
    Work.say usage
    return none
  | some "usage" =>
    Work.say usage
    return none
  | some "dump" => return none
  | some "exec" =>
    match rest with
    | file :: rest => return some ({ k with files := file :: k.files }, rest)
    | [] => refuse "option -W lacks argument".toList
  | some _ => onward k rest

/-- What an option with a value asks for, by what is done with options after
it. -/
def addValue (k : Calling) (letter : Char) (value : Octets)
    (rest : List Octets) (onward : Calling → List Octets → Reading) :
    Reading := do
  if letter = 'f' then onward { k with files := value :: k.files } rest
  else if letter = 'F' then
    onward { k with settings := ("FS".toList, value) :: k.settings } rest
  else if letter = 'v' then
    match setting? value with
    | some s => onward { k with settings := s :: k.settings } rest
    | none => refuse ("improper assignment: -v ".toList ++ value)
  else addSpecial k value rest onward

/-- The options among arguments, and the arguments after them. -/
def options : Nat → Calling → List Octets → Reading
  | 0, k, args => return some (k, args)
  | _, k, [] => return some (k, [])
  | fuel + 1, k, arg :: rest => do
    let onward : Calling → List Octets → Reading := options fuel
    match arg with
    | ['-', '-'] => return some (k, rest)
    | '-' :: '-' :: word =>
      if special.any fun w => word.isPrefixOf w.toList then
        addSpecial k word rest onward
      else refuse ("not an option: ".toList ++ arg)
    | '-' :: c :: cs =>
      if c ∈ ['W', 'F', 'v', 'f'] then
        match cs, rest with
        | [], [] => refuse ("option ".toList ++ arg ++
            " lacks argument".toList)
        | [], value :: rest => addValue k c value rest onward
        | value, rest => addValue k c value rest onward
      else refuse ("not an option: ".toList ++ arg)
    | _ => return some (k, arg :: rest)

/-- The text of a script in files, one after another, with the names of the
files and how many lines they have. -/
def filesText : List Octets → Work (Option (Octets × List (Octets × Nat)))
  | [] => return some ([], [])
  | p :: ps => do
    match ← Work.source p with
    | .ok s =>
      match ← filesText ps with
      | some (o, names) =>
        let text := if s.held.getLast? = some '\n' || ps.isEmpty then s.held
          else s.held ++ ['\n']
        return some (text ++ o, (p, text.count '\n') :: names)
      | none => return none
    | .error .isADirectory =>
      Work.complain 2 (reasoned "read error" .isADirectory)
      return none
    | .error e =>
      Work.complain 2 (reasoned ("cannot open \x22" ++ String.ofList p ++
        "\x22") e)
      return none

/-- The file that a line stands in, and its number there. -/
def fileOf : List (Octets × Nat) → Nat → Option (Octets × Nat)
  | [], _ => none
  | [(p, _)], line => some (p, line)
  | (p, n) :: rest, line =>
    if line ≤ n then some (p, line) else fileOf rest (line - n)

/-- Says why a script cannot be read. -/
def explain (names : List (Octets × Nat)) (m : Misreading) : Work Unit := do
  let (place, line) : Octets × Nat := match fileOf names m.line with
    | some (p, line) => (p ++ ": ".toList, line)
    | none => ([], m.line)
  let lead := place ++ (if m.isBare then [] else "line ".toList) ++
    Text.decimal line ++ ": ".toList
  Work.complain 2 (lead ++ m.message)

/-- The first setting of a separator that is no expression. -/
def badSeparator? (k : Calling) : Option (Pattern.Fault × Octets) :=
  k.settings.reverse.findSome? fun s =>
    if s.1 = "FS".toList || s.1 = "RS".toList then
      let o := unescaped s.2
      match Separator.ofFields o with
      | .ok _ => none
      | .error f => some (f, o)
    else none

/-- What is asked for, with a script and the arguments for it. -/
def read (args : List Octets) :
    Work (Option (Calling × Script × List Octets)) := do
  match ← options (args.length + 1) {} args with
  | none => return none
  | some (k, rest) =>
  match k.badSeparator? with
  | some (f, o) =>
    Work.complain 2 ("line 0: regular expression compile failed (".toList ++
      f.message.toList ++ ")\n".toList ++ o)
    return none
  | none =>
  let found ← match k.files, rest with
    | [], [] => do
      Work.sayOn 2 usage
      pure none
    | [], text :: rest => pure (some (text, [], rest))
    | files, rest => do
      match ← filesText files.reverse with
      | some (text, names) => pure (some (text, names, rest))
      | none => pure none
  match found with
  | none => return none
  | some (text, names, rest) =>
    match readScript text with
    | .ok s => return some (k, s, rest)
    | .error ms =>
      ms.forM (explain names)
      return none

end Calling

namespace Machine

/-- A table of texts that have been read, by keys. -/
def tableFrom (entries : List (Table.Key × Octets)) : Table :=
  entries.foldl (fun t (e : Table.Key × Octets) =>
    match t.find e.1 true with
    | (t, some i) => t.setAt i (.input e.2)
    | (t, none) => t) .empty

/-- The special variables at first. -/
def firstCells : List (Nat × Cell) :=
  [(Special.records, .number 0), (Special.fileRecords, .number 0),
   (Special.fields, .number 0), (Special.fieldSeparator, .text [' ']),
   (Special.outputSeparator, .text [' ']),
   (Special.recordSeparator, .text ['\n']),
   (Special.outputEnd, .text ['\n']), (Special.fileName, .text []),
   (Special.keySeparator, .text ['\x1c']),
   (Special.textFormat, .text "%.6g".toList),
   (Special.outputFormat, .text "%.6g".toList)]

/-- What rules work with at first. -/
def first (host : State) (begin_ : Shell.Start) (name : Octets)
    (script : Script) (args : List Octets) : Machine :=
  let size := script.names.size
  let cells := firstCells.foldl (fun (cs : Array Cell) c =>
    cs.setIfInBounds c.1 c.2) (Array.replicate size .unset)
  let arguments := (plainName name :: args).zipIdx.map fun a =>
    (Table.Key.number a.2, a.1)
  let bindings := host.environment.map fun v => (Table.Key.name v.1, v.2)
  let tables := (Array.replicate size Table.empty).setIfInBounds
    Special.arguments (tableFrom arguments)
  { host
    start := begin_
    name := plainName name
    script
    cells := cells.setIfInBounds Special.argumentCount
      (.ofNat (args.length + 1))
    tables := tables.setIfInBounds Special.environment (tableFrom bindings)
    record := .text []
    ranges := Array.replicate script.ranges false }

/-- The state after rules that do not end by themselves: what they have
written last is written over and over again. -/
def unending (m : Machine) : State :=
  let o := m.waiting.reverse.flatten
  let last := m.waiting.headD []
  if !last.isEmpty then (m.host.sendOr 1 o).sendForever 1 last
  else
    match m.host.deadlyAlarm? endless with
    | some a =>
      { m.host with
        clock := a.time
        status := 128 + a.signal
        fatal := some a.signal }
    | none => m.host.stuck

/-- How many turns count as a step of a shell. -/
def turnsEach : Nat := 10

end Machine

/-- Carries out a whole script with variables set, and ends all writing. -/
def wholeRun (settings : List (Octets × Octets)) : Running Unit := do
  settings.forM fun s => setByName s.1 s.2
  match ← outcome runScript with
  | .ok _ => closeAll
  | .error .failure =>
    let _ ← outcome closeAll
    throw .failure
  | .error s => throw s

end Rules

namespace Shell.Host

open Rules in
/-- Applies rules to records. -/
def rules : Host := fun start name args st =>
  let name := plainName name
  plan name args st (Calling.read args) fun (k, script, rest) st =>
    let ready := if k.files.contains ['-'] ||
        k.files.contains "/dev/stdin".toList then
        st.leave 0 (st.streamAt 0).spent
      else st
    let m := Machine.first ready start name script rest
    let (r, m) := (wholeRun k.settings.reverse).run.run m
    let work := (turnsAllowed - m.patience) / Machine.turnsEach
    let ended (status : Nat) : State :=
      { m.host.spend work with status, fatal := none }
    match r with
    | .ok _ => restored st (ended m.status)
    | .error .failure => restored st (ended 2)
    | .error .endless => restored st m.unending
    | .error _ => restored st m.host

end Shell.Host

end BitProbe.Bench

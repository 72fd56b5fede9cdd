import BitProbe.Bench.Shell.Script

/-!
The commands of the shell's own: what they have in common, and those that
steer a script.

* `Builtin`: what such a command does to the state;
* `Builtin.flags`, `Builtin.withNumber`: arguments;
* `Builtin.quotedValue`: values as a script would write them;
* `Builtin.control`: commands that end something or run texts;
* `Builtin.settings`: commands that change settings and arguments.
-/

namespace BitProbe.Bench.Shell

/-- What a command does to the state, given what runs commands and its
arguments. -/
abbrev Builtin := Runner → List Octets → State → State

namespace Builtin

/-- The state after a good end. -/
def done (st : State) : State := { st with status := 0 }

/-- The state after an end with a status. -/
def ending (status : Nat) (st : State) : State := { st with status }

/-- Writes to the output. -/
def say (o : Octets) (st : State) : State :=
  match st.send 1 o with
  | .ok st => st
  | .error _ =>
    ending 1 (st.complain ((st.speaker.getD []) ++ ": I/O error".toList))

/-- Writes a line to the output. -/
def sayLine (o : Octets) (st : State) : State := say (o ++ ['\n']) st

/-- A number that is no larger than a command can take. -/
def number? (o : Octets) : Option Nat :=
  match leadingInteger? false o with
  | some (n, rest) =>
    if rest.all isSpace && 0 ≤ n && n < 2 ^ 31 then some n.toNat else none
  | none => none

/-- Goes on with the number that an argument is. -/
def withNumber (o : Octets) (f : Nat → State → State) (st : State) : State :=
  match number? o with
  | some n => f n st
  | none => st.fail ("Illegal number: ".toList ++ o)

/-- The letters at the start of arguments, with values for those that take
one, and the other arguments; or a message. -/
def flags (plain valued : List Char) :
    Nat → List Octets → Except Octets (List (Char × Octets) × List Octets)
  | 0, args => .ok ([], args)
  | _, ['-', '-'] :: rest => .ok ([], rest)
  | fuel + 1, ('-' :: c :: cs) :: rest =>
    if plain.contains c then
      let rest := if cs.isEmpty then rest else ('-' :: cs) :: rest
      (flags plain valued fuel rest).map fun r => ((c, []) :: r.1, r.2)
    else if valued.contains c then
      match cs, rest with
      | [], [] => .error ("No arg for -".toList ++ c :: " option".toList)
      | [], v :: rest =>
        (flags plain valued fuel rest).map fun r => ((c, v) :: r.1, r.2)
      | cs, rest =>
        (flags plain valued fuel rest).map fun r => ((c, cs) :: r.1, r.2)
    else .error ("Illegal option -".toList ++ [c])
  | _, args => .ok ([], args)

/-- Goes on with the letters among arguments and the other arguments. -/
def withFlags (plain valued : List Char) (args : List Octets)
    (f : List (Char × Octets) → List Octets → State → State) (st : State) :
    State :=
  let size := (args.map (·.length + 1)).sum + 1
  match flags plain valued size args with
  | .ok (fs, rest) => f fs rest st
  | .error m => st.fail m

/-- Whether a letter is among flags. -/
def hasFlag (fs : List (Char × Octets)) (c : Char) : Bool :=
  fs.any (·.1 = c)

/-- A value between quotes; quotes in it stand between quotes of another
kind. -/
def quotedValue (o : Octets) : Octets :=
  quotedFrom o.length o
where
  /-- The same, with fuel. -/
  quotedFrom : Nat → Octets → Octets
    | 0, o => '\x27' :: o ++ ['\x27']
    | fuel + 1, o =>
      let plain := o.takeWhile (· ≠ '\x27')
      let rest := o.drop plain.length
      let marks := rest.takeWhile (· = '\x27')
      '\x27' :: plain ++ ['\x27'] ++
        (if marks.isEmpty then []
          else
            let after := rest.drop marks.length
            '\x22' :: marks ++ ['\x22'] ++
              if after.isEmpty then [] else quotedFrom fuel after)

/-- Does nothing. -/
def nothing : Builtin := fun _ _ st => done st

/-! ### Control -/

/-- Ends the script. -/
def exit : Builtin := fun _ args st =>
  match args with
  | [] => st.quit st.status
  | o :: _ => withNumber o (fun n st => st.quit n) st

/-- Ends a function, or a text of commands. -/
def leave : Builtin := fun _ args st =>
  let go (n : Nat) (st : State) : State :=
    { st with status := n, flow := .returning }
  match args with
  | [] => go st.status st
  | o :: _ => withNumber o go st

/-- Ends loops, or goes on with their next turn. -/
def leaveLoops (flow : Nat → Flow) : Builtin := fun _ args st =>
  let o := args.headD ['1']
  withNumber o (fun n st =>
    if n = 0 then st.fail ("Illegal number: ".toList ++ o)
    else if st.loops = 0 then done st
    else { done st with flow := flow (min n st.loops) }) st

/-- Runs its arguments as commands. -/
def eval : Builtin := fun exec args st =>
  let args := if args.head? = some ['-', '-'] then args.tail else args
  runText exec .text ([' '].intercalate args) st

/-- The directories in which programs are looked for, with a slash after
each. -/
def searched (st : State) : List Octets :=
  match st.valueOf "PATH" with
  | none => [[]]
  | some p => (p.splitOn ':').map fun d => if d.isEmpty then [] else d ++ ['/']

/-- The path of a file of commands: a name without slashes is looked for. -/
def sourcePath (name : Octets) (st : State) : Option Octets :=
  if name.contains '/' then some name
  else
    ((searched st).map (· ++ name)).find? fun p =>
      match st.files.lookup p.toText with
      | .ok (.file _) => true
      | _ => false

/-- Runs the commands in a file. -/
def source : Builtin := fun exec args st =>
  withFlags [] [] args (fun _ rest st =>
    match rest with
    | [] => done st
    | name :: _ =>
      match sourcePath name st with
      | none => st.fail (name ++ ": not found".toList)
      | some path =>
        match st.files.lookup path.toText with
        | .error e =>
          st.fail ("cannot open ".toList ++ path ++ ": ".toList ++
            openReason e "No such file")
        | .ok node =>
          let text :=
            Octets.ofBytes ((FileTree.contents node).toOption.getD [])
          let ready := { st with speaker := some path, tested := false }
          let after := runText exec .file text ready
          { after with
            tested := st.tested
            speaker := st.speaker
            flow := if after.flow = .returning then .onward else after.flow })
    st

/-! ### Settings -/

/-- The names of settings and their signs. Those whose sign is no letter can
be asked for by name only. -/
def settingNames : List (String × Char) :=
  [("errexit", 'e'), ("noglob", 'f'), ("ignoreeof", 'I'),
   ("interactive", 'i'), ("monitor", 'm'), ("noexec", 'n'),
   ("stdin", 's'), ("xtrace", 'x'), ("verbose", 'v'), ("vi", 'V'),
   ("emacs", 'E'), ("noclobber", 'C'), ("allexport", 'a'),
   ("notify", 'b'), ("nounset", 'u'), ("privileged", 'p'),
   ("nolog", '1'), ("debug", '2')]

/-- Whether a letter stands for a setting. -/
def isSettingLetter (c : Char) : Bool :=
  c.isAlpha && settingNames.any (·.2 = c)

/-- What is said when processes are to be controlled from a terminal, which
there is none of. -/
def noTerminal : Octets :=
  "can't access tty; job control turned off".toList

/-- Sets one option of the shell, or takes it back. -/
def setOne (on : Bool) (c : Char) (st : State) : State :=
  if on && c = 'm' then st.complain noTerminal
  else
    { st with
      settings := if on then c :: st.settings.filter (· ≠ c)
        else st.settings.filter (· ≠ c) }

/-- Every setting and whether it is on, as a table or as commands. -/
def settingTable (table : Bool) (st : State) : Octets :=
  if table then
    "Current option settings\n".toList ++ settingNames.flatMap fun n =>
      n.1.toList ++ List.replicate (16 - n.1.length) ' ' ++
        (if st.has n.2 then "on\n" else "off\n").toList
  else settingNames.flatMap fun n =>
    (if st.has n.2 then "set -o " else "set +o ").toList ++ n.1.toList ++ ['\n']

/-- Sets the option with a name. -/
def setNamed (on : Bool) (name : Octets) (st : State) : State :=
  match settingNames.find? (·.1.toList = name) with
  | some (_, c) => setOne on c st
  | none => st.fail ("Illegal option -o ".toList ++ name)

/-- Sets the options that the letters of an argument ask for; those that are
asked for by name take further arguments, and what is left is returned. -/
def setLetters (on : Bool) :
    Octets → List Octets → State → List Octets × State
  | [], rest, st => (rest, st)
  | c :: cs, rest, st =>
    if !st.isRunning then (rest, st)
    else if c = 'o' then
      match rest with
      | [] => setLetters on cs [] (say (settingTable on st) st)
      | name :: rest => setLetters on cs rest (setNamed on name st)
    else if isSettingLetter c then setLetters on cs rest (setOne on c st)
    else (rest, st.fail ("Illegal option -".toList ++ [c]))

/-- Sets the options at the start of arguments: the arguments left, and
whether they take the place of those there were. -/
def setFrom : Nat → List Octets → State → Option (List Octets) × State
  | 0, _, st => (none, st)
  | _, [], st => (none, st)
  | fuel + 1, arg :: rest, st =>
    match arg with
    | ['-'] =>
      let st := setOne false 'x' (setOne false 'v' st)
      (if rest.isEmpty then none else some rest, st)
    | ['-', '-'] => (some rest, st)
    | '-' :: cs =>
      let r := setLetters true cs rest st
      setFrom fuel r.1 r.2
    | '+' :: cs =>
      let r := setLetters false cs rest st
      setFrom fuel r.1 r.2
    | arg => (some (arg :: rest), st)

/-- The variables that satisfy a test, as commands that set them. -/
def listing (lead : Octets) (p : Variable → Bool) (st : State) : Octets :=
  let vs := (st.bindings.filter fun v => p v.2).mergeSort
    fun a b => a.1 ≤ b.1
  vs.flatMap fun v =>
    (if lead.isEmpty then [] else lead ++ [' ']) ++ v.1 ++
      (match v.2.value with
        | some o => '=' :: quotedValue o
        | none => []) ++ ['\n']

/-- Sets options of the shell, and replaces the arguments of the script. -/
def set : Builtin := fun _ args st =>
  if args.isEmpty then
    done (say (listing [] (fun v => v.value.isSome) st) st)
  else
    let (rest, st) := setFrom (args.length + 1) args st
    if !st.isRunning then st
    else
      match rest with
      | some rest => { done st with args := rest, optionPlace := none }
      | none => done st

/-- Drops arguments of the script. -/
def shift : Builtin := fun _ args st =>
  withNumber (args.headD ['1']) (fun n st =>
    if st.args.length < n then
      st.fail "can\x27t shift that many".toList
    else
      { done st with args := st.args.drop n, optionPlace := none }) st

/-- What may not be done with files that are made, by letters. -/
def maskLetters (mask : Nat) : Octets :=
  let part (c : Char) (shift : Nat) : Octets :=
    let m := (0o777 - mask) / 8 ^ shift % 8
    c :: '=' :: ((if m &&& 4 ≠ 0 then ['r'] else []) ++
      (if m &&& 2 ≠ 0 then ['w'] else []) ++
      (if m &&& 1 ≠ 0 then ['x'] else []))
  part 'u' 2 ++ ',' :: part 'g' 1 ++ ',' :: part 'o' 0

/-- Shows or sets what may not be done with files that are made. -/
def umask : Builtin := fun _ args st =>
  withFlags ['S'] [] args (fun fs rest st =>
    match rest with
    | [] =>
      done (sayLine (if hasFlag fs 'S' then maskLetters st.mask
        else (Nat.toDigits 8 st.mask).leftpad 4 '0') st)
    | o :: _ =>
      if o.head?.any Char.isDigit then
        let ds := digitsIn 8 o
        if ds.length = o.length then
          { done st with mask := ofDigits 8 o % 512 }
        else st.fail ("Illegal number: ".toList ++ o)
      else
        match letters st.mask o with
        | some m => { done st with mask := m }
        | none => st.fail ("Illegal mode: ".toList ++ o)) st
where
  /-- The mask that letters make of another one. -/
  letters (mask : Nat) (o : Octets) : Option Nat :=
    (o.splitOn ',').foldlM (fun mask part =>
      let who := part.takeWhile fun c => c ∈ ['u', 'g', 'o', 'a']
      match part.drop who.length with
      | op :: what =>
        if !(op ∈ ['=', '+', '-']) ||
            !(what.all fun c => c ∈ ['r', 'w', 'x', 'X']) then none
        else
          let who := if who.isEmpty || who.contains 'a' then ['u', 'g', 'o']
            else who
          let bits := (if what.contains 'r' then 4 else 0) |||
            (if what.contains 'w' then 2 else 0) |||
            (if what.contains 'x' then 1 else 0)
          some (who.foldl (fun mask w =>
            let place := if w = 'u' then 64 else if w = 'g' then 8 else 1
            let old := 7 - mask / place % 8
            let new := if op = '=' then bits
              else if op = '+' then old ||| bits
              else old &&& (7 - bits)
            mask - (mask / place % 8) * place + (7 - new) * place) mask)
      | [] => none) mask

/-- What processes may use, by letters: the words for it, and how much of it
there is. -/
def limits : List (Char × String × String) :=
  [('t', "time(seconds)", "unlimited"), ('f', "file(blocks)", "unlimited"),
   ('d', "data(kbytes)", "unlimited"), ('s', "stack(kbytes)", "8192"),
   ('c', "coredump(blocks)", "0"), ('m', "memory(kbytes)", "unlimited"),
   ('l', "locked memory(kbytes)", "8192"), ('p', "process", "128604"),
   ('n', "nofiles", "20000"), ('v', "vmemory(kbytes)", "unlimited"),
   ('w', "locks", "unlimited"), ('r', "rtprio", "0")]

/-- Shows or sets how much of something processes may use. -/
def ulimit : Builtin := fun _ args st =>
  withFlags (['H', 'S', 'a'] ++ limits.map (·.1)) [] args (fun fs rest st =>
    let asked := (fs.reverse.find? fun f => (limits.lookup f.1).isSome).map
      (·.1) |>.getD 'f'
    let value (c : Char) : Octets :=
      (st.limits.lookup c).getD
        (((limits.lookup c).map (·.2.toList)).getD [])
    match rest with
    | [] =>
      if hasFlag fs 'a' then
        done (say (limits.flatMap fun l =>
          l.2.1.toList ++ List.replicate (20 - l.2.1.length) ' ' ++
            ' ' :: value l.1 ++ ['
']) st)
      else done (sayLine (value asked) st)
    | [o] =>
      if hasFlag fs 'a' then st.fail "too many arguments".toList
      else if o.all Char.isDigit || o = "unlimited".toList then
        { done st with limits := (asked, o) :: st.limits }
      else st.fail "bad number".toList
    | _ => st.fail "too many arguments".toList) st

/-- Commands that end something or run texts. The flag says whether their
failures end the script. -/
def control : List (String × Bool × Builtin) :=
  [(":", true, nothing), ("true", false, nothing),
   ("false", false, fun _ _ st => ending 1 st), ("exit", true, exit),
   ("return", true, leave), ("break", true, leaveLoops .breaking),
   ("continue", true, leaveLoops .continuing), ("eval", true, eval),
   (".", true, source)]

/-- Commands that change settings and arguments. -/
def settings : List (String × Bool × Builtin) :=
  [("set", true, set), ("shift", true, shift), ("umask", false, umask),
   ("times", true, fun _ _ st =>
    let line := "0m0.000000s 0m0.000000s".toList
    done (sayLine line (sayLine line st))),
   ("ulimit", false, ulimit)]

end Builtin

end BitProbe.Bench.Shell

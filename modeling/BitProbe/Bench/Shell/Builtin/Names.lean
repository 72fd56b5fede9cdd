import BitProbe.Bench.Shell.Builtin

/-!
The commands of the shell's own that deal with names: variables, aliases,
programs and directories.

* `Builtin.publish`, `Builtin.fix`, `Builtin.localize`, `Builtin.unset`:
  variables;
* `findProgram`: the path of the program that a name stands for;
* `Builtin.describe`: what a name stands for;
* `Builtin.changeDirectory`, `logicalPath`: directories;
* `Builtin.naming`: all of them by their names.
-/

namespace BitProbe.Bench.Shell

namespace Builtin

/-! ### Variables -/

/-- Sets a variable, if it has the name of one and may be set. -/
def setChecked (name value : Octets) (st : State) : State :=
  if !isName name then st.fail (name ++ ": bad variable name".toList)
  else if st.bindings.isFixed name then
    st.fail (name ++ ": is read only".toList)
  else st.setVariable name value

/-- The name in an argument that may go on with an equals sign and a value,
and the value. -/
def assignmentOf (a : Octets) : Octets × Option Octets :=
  let n := a.takeWhile (· ≠ '=')
  (n, if n.length = a.length then none else some (a.drop (n.length + 1)))

/-- Marks variables, after setting those that have a value. -/
def mark (f : Variable → Variable) (args : List Octets) (st : State) :
    State :=
  args.foldl (fun st a =>
    let (n, value) := assignmentOf a
    let st := match st.isRunning, value with
      | false, _ => st
      | true, some o => setChecked n o st
      | true, none =>
        if isName n then st
        else st.fail (n ++ ": bad variable name".toList)
    if !st.isRunning then st
    else
      let v := (st.bindings.lookup n).getD ⟨none, false, false⟩
      { st with bindings := st.bindings.put n (f v) }) (done st)

/-- Marks variables, or lists those that are marked. -/
def marking (name : String) (f : Variable → Variable)
    (p : Variable → Bool) : Builtin := fun _ args st =>
  withFlags ['p'] [] args (fun fs rest st =>
    if rest.isEmpty || hasFlag fs 'p' then
      done (say (listing name.toList p st) st)
    else mark f rest st) st

/-- Lets other programs know variables. -/
def publish : Builtin :=
  marking "export" (fun v => { v with exported := true }) (·.exported)

/-- Keeps variables from being set. -/
def fix : Builtin :=
  marking "readonly" (fun v => { v with fixed := true }) (·.fixed)

/-- Keeps what a variable holds for the end of the function that is run. -/
def keepOuter (name : Octets) (st : State) : State :=
  match st.outer with
  | none => st
  | some kept =>
    if kept.bindings.any (·.1 = name) then st
    else
      let old := (name, st.bindings.lookup name)
      { st with outer := some { kept with bindings := old :: kept.bindings } }

/-- Keeps the settings for the end of the function that is run. -/
def keepSettings (st : State) : State :=
  { st with
    outer := st.outer.map fun kept =>
      { kept with settings := kept.settings.or (some st.settings) } }

/-- The state with what was kept for the end of a function put back. -/
def restoreOuter (kept : Outer) (st : State) : State :=
  { st with
    settings := kept.settings.getD st.settings
    bindings := kept.bindings.foldl (fun vs v =>
      match v.2 with
      | some old => vs.put v.1 old
      | none => vs.drop v.1) st.bindings }

/-- Sets variables for as long as a function runs. A dash stands for the
settings. -/
def localize : Builtin := fun _ args st =>
  if st.outer.isNone then st.fail "not in a function".toList
  else args.foldl (fun st a =>
    let (n, value) := assignmentOf a
    if !st.isRunning then st
    else if a = ['-'] then keepSettings st
    else if !isName n then st.fail (n ++ ": bad variable name".toList)
    else
      let st := keepOuter n st
      match value with
      | some o => setChecked n o st
      | none => st) (done st)

/-- Forgets variables or functions. -/
def unset : Builtin := fun _ args st =>
  withFlags ['v', 'f'] [] args (fun fs rest st =>
    rest.foldl (fun st n =>
      if !st.isRunning then st
      else if hasFlag fs 'f' then
        { st with functions := st.functions.filter (·.1 ≠ n) }
      else if !isName n then st.fail (n ++ ": bad variable name".toList)
      else if st.bindings.isFixed n then
        st.fail (n ++ ": is read only".toList)
      else { st with bindings := st.bindings.drop n }) (done st)) st

/-! ### Aliases -/

/-- An alias as a command that sets it. -/
def aliasLine (a : Octets × Octets) : Octets :=
  a.1 ++ '=' :: quotedValue a.2 ++ ['\n']

/-- Writes a message without the name of the script. -/
def mutter (o : Octets) (st : State) : State :=
  ending 1 (st.sendOr 2 (o ++ ['\n']))

/-- Sets or lists aliases. -/
def shorthand : Builtin := fun _ args st =>
  if args.isEmpty then
    done (say ((st.aliases.mergeSort fun a b => a.1 ≤ b.1).flatMap aliasLine)
      st)
  else args.foldl (fun st a =>
    let (n, value) := assignmentOf a
    match value, st.aliases.lookup a with
    | some o, _ =>
      { st with aliases := (n, o) :: st.aliases.filter (·.1 ≠ n) }
    | none, some o => say (aliasLine (a, o)) st
    | none, none => mutter ("alias: ".toList ++ a ++ " not found".toList) st)
    (done st)

/-- Forgets aliases. -/
def unalias : Builtin := fun _ args st =>
  withFlags ['a'] [] args (fun fs rest st =>
    if hasFlag fs 'a' then { done st with aliases := [] }
    else rest.foldl (fun st n =>
      if (st.aliases.lookup n).isSome then
        { st with aliases := st.aliases.filter (·.1 ≠ n) }
      else mutter ("unalias: ".toList ++ n ++ " not found".toList) st)
      (done st)) st

end Builtin

/-! ### Programs -/

/-- The path of the program that a name stands for. A name with a slash is a
path itself; others are looked for. -/
def findProgram (name : Octets) (st : State) : Except FileError Octets :=
  if name.contains '/' then
    match st.files.lookup name.toText with
    | .ok _ => .ok name
    | .error e => .error e
  else
    search FileError.notFound ((Builtin.searched st).map (· ++ name))
where
  /-- The first path under which a file stands, or the last reason why there
  is none. -/
  search (e : FileError) : List Octets → Except FileError Octets
    | [] => .error e
    | p :: ps =>
      match st.files.lookup p.toText with
      | .ok (.file _) =>
        if st.files.isRunnableAt p.toText then .ok p
        else search .permissionDenied ps
      | .ok (.program _) => .ok p
      | .ok _ => search .permissionDenied ps
      | .error .notFound => search e ps
      | .error .notADirectory => search e ps
      | .error f => search f ps

/-- The commands of the shell's own whose failures end a script, and the
others. -/
structure OwnNames where
  special : List String
  plain : List String

namespace Builtin

/-- What a name stands for: in words, or as it would be called. Nothing is
returned if it stands for nothing. -/
def describe (own : OwnNames) (inWords : Bool) (name : Octets)
    (st : State) : Option Octets :=
  let text := name.toText
  let say (words : String) (short : Octets) : Option Octets :=
    some (if inWords then name ++ words.toList else short)
  if reservedWords.contains text then say " is a shell keyword" name
  else
    match st.aliases.lookup name, st.functions.lookup name with
    | some o, _ =>
      if inWords then some (name ++ " is an alias for ".toList ++ o)
      else some ("alias ".toList ++ (aliasLine (name, o)).dropLast)
    | none, some _ => say " is a shell function" name
    | none, none =>
      if own.special.contains text then
        say " is a special shell builtin" name
      else if own.plain.contains text then say " is a shell builtin" name
      else
        match findProgram name st with
        | .error _ => none
        | .ok path =>
          let tracked := if st.known.contains name then " a tracked alias for"
            else ""
          some (if inWords then
            name ++ " is".toList ++ tracked.toList ++ ' ' :: path else path)

/-- Writes what names stand for. -/
def describeAll (own : OwnNames) (inWords : Bool) (names : List Octets)
    (st : State) : State :=
  names.foldl (fun st n =>
    match describe own inWords n st with
    | some o => sayLine o st
    | none =>
      ending 127 (if inWords then sayLine (n ++ ": not found".toList) st
        else st)) (done st)

/-- Shows or forgets the programs that have been looked for. -/
def hash : Builtin := fun _ args st =>
  withFlags ['r', 'v'] [] args (fun fs rest st =>
    if hasFlag fs 'r' then { done st with known := [] }
    else if rest.isEmpty then
      done (st.known.reverse.foldl (fun st n =>
        match findProgram n st with
        | .ok p => sayLine p st
        | .error _ => st) st)
    else rest.foldl (fun st n =>
      match findProgram n st with
      | .ok _ => { st with known := n :: st.known.filter (· ≠ n) }
      | .error _ => ending 1 (st.complain (n ++ ": not found".toList)))
      (done st)) st

end Builtin

/-! ### Directories -/

/-- A path from the root without dots and without needless slashes, in a
directory that has such a path itself. Two dots take the name before them
away, whatever it leads to. -/
def logicalPath (here path : Octets) : Octets :=
  let absolute := path.head? = some '/'
  let whole := if absolute then path else here ++ '/' :: path
  let double := whole.take 2 = ['/', '/'] && (whole.drop 2).head? ≠ some '/' &&
    (absolute || here.take 2 = ['/', '/'])
  let names := (whole.splitOn '/').foldl (fun (ns : List Octets) n =>
    if n.isEmpty || n = ['.'] then ns
    else if n = ['.', '.'] then ns.drop 1
    else n :: ns) []
  (if double then ['/', '/'] else ['/']) ++ ['/'].intercalate names.reverse

/-- The path of a place. -/
def placePath (place : List String) : Octets :=
  '/' :: ['/'].intercalate (place.map Octets.ofString)

namespace Builtin

/-- Goes to a directory that has a name and a path. -/
def goTo (shown path : Octets) (physical tells : Bool) (st : State) : State :=
  let target := if physical then path else logicalPath st.directory path
  match st.files.lookup target.toText, st.files.locate target.toText with
  | .ok .directory, .ok place =>
    let directory := if physical then placePath place else target
    let st := { st with
      workDir := place
      files := { st.files with workDir := place }
      directory }
    let st := (st.setVariable "OLDPWD".toList
      ((st.valueOf "PWD").getD [])).setVariable "PWD".toList directory
    let st := done st
    if tells then sayLine directory st else st
  | _, _ => st.fail ("can\x27t cd to ".toList ++ shown)

/-- Goes to another directory. -/
def changeDirectory : Builtin := fun _ args st =>
  withFlags ['L', 'P'] [] args (fun fs rest st =>
    let physical := (fs.getLast?.map (·.1)) = some 'P'
    let back := rest.head? = some ['-']
    let target := match rest with
      | [] => (st.valueOf "HOME").getD []
      | o :: _ => if back then (st.valueOf "OLDPWD").getD [] else o
    goTo target (if target.isEmpty then ['.'] else target) physical back st)
    st

/-- Writes the name of the directory. -/
def workingDirectory : Builtin := fun _ args st =>
  withFlags ['L', 'P'] [] args (fun fs _ st =>
    let physical := (fs.getLast?.map (·.1)) = some 'P'
    done (sayLine (if physical then placePath st.workDir else st.directory)
      st)) st

/-- The commands that deal with names. The flag says whether their failures
end the script. -/
def naming : List (String × Bool × Builtin) :=
  [("export", true, publish), ("readonly", true, fix),
   ("local", true, localize), ("unset", true, unset),
   ("alias", false, shorthand), ("unalias", false, unalias),
   ("hash", false, hash), ("cd", false, changeDirectory),
   ("chdir", false, changeDirectory), ("pwd", false, workingDirectory)]

end Builtin

end BitProbe.Bench.Shell

import BitProbe.Bench.Compose
import BitProbe.Bench.Programs.Listing

/-!
Programs about names: of files, of directories and of whoever runs them.

* `baseName`, `directoryName`: the parts of a path;
* `basename`, `dirname`, `readlink`, `realpath`, `pwd`: paths;
* `printenv`, `which`, `whoami`, `id`, `groups`, `logname`, `uname`, `arch`,
  `tty`: the surroundings.
-/

namespace BitProbe.Bench

/-! ### Parts of paths -/

/-- A path's last name, without an ending if it has one and is not nothing
else. -/
def baseName (ending path : Octets) : Octets :=
  let n := lastName path
  if !ending.isEmpty && ending.isSuffixOf n && ending ≠ n then
    n.take (n.length - ending.length)
  else n

/-- Nothing is taken from a name that is its ending. -/
theorem baseName_self (path : Octets) :
    baseName (lastName path) path = lastName path := by
  simp [baseName]

/-- A path without its last name. -/
def directoryName (path : Octets) : Octets :=
  let q := Text.dropRight (· = '/') path
  let d := (q.reverse.dropWhile (· ≠ '/')).reverse
  let d' := Text.dropRight (· = '/') d
  if d.isEmpty then (if q.isEmpty && !path.isEmpty then ['/'] else ['.'])
  else if d'.isEmpty then ['/'] else d'

/-- The last names of paths. -/
def basename : Program := fun c =>
  c.given [.flag 'a' "multiple", .valued 's' "suffix", .flag 'z' "zero"]
    false 1 fun os args =>
    let ending := optValue? os "suffix"
    let write (e p : Octets) : Work Unit :=
      Work.say (baseName e p ++ [itemEnd os])
    if args.isEmpty then Work.misuse 1 "missing operand".toList
    else if hasOpt os "multiple" || ending.isSome then
      args.forM (write (ending.getD []))
    else
      match args with
      | [p] => write [] p
      | [p, e] => write e p
      | _ :: _ :: extra :: _ =>
        Work.misuse 1 ("extra operand ".toList ++ quoted extra)
      | [] => return

/-- Paths without their last names. -/
def dirname : Program := fun c =>
  c.given [.flag 'z' "zero"] true 1 fun os args =>
    if args.isEmpty then Work.misuse 1 "missing operand".toList
    else args.forM fun p => Work.say (directoryName p ++ [itemEnd os])

/-! ### Places -/

/-- How much of a path must be there. -/
inductive Presence where
  | nothing
  /-- Everything but the last name. -/
  | directory
  | everything
  deriving DecidableEq

/-- The names in a path as they are written, without going anywhere. -/
def plainNames (start : List String) (path : Octets) : List String :=
  let names := (path.splitOn '/').map Octets.toText
  names.foldl (fun here n =>
    if n = "" ∨ n = "." then here
    else if n = ".." then here.dropLast
    else here ++ [n]) (if path.head? = some '/' then [] else start)

/-- The place that a path leads to, as far as it must be there. -/
def placeOf (t : FileTree) (need : Presence) (path : Octets) :
    Except FileError (List String) :=
  match t.locate path.toText, need with
  | .ok q, .nothing => .ok q
  | .ok q, .directory =>
    if (t.node? q.dropLast).isSome then .ok q else .error .notFound
  | .ok q, .everything => if (t.node? q).isSome then .ok q else .error .notFound
  | .error e, .nothing =>
    if path.isEmpty then .error e else .ok (plainNames t.workDir path)
  | .error e, _ => .error e

/-- A place as a path from the root. -/
def rootPath (names : List String) : Octets :=
  '/' :: Octets.ofString (String.intercalate "/" names)

/-- What links lead to. -/
def readlink : Program := fun c =>
  let switches : List Switch :=
    [.flag 'f' "canonicalize", .flag 'e' "canonicalize-existing",
     .flag 'm' "canonicalize-missing", .flag 'n' "no-newline",
     .flag 'q' "quiet", .flag 's' "silent", .flag 'v' "verbose",
     .flag 'z' "zero"]
  c.given switches true 1 fun os args => do
    let t := (← get).files
    let need := match lastOf os ["canonicalize", "canonicalize-existing",
        "canonicalize-missing"] with
      | some "canonicalize" => some Presence.directory
      | some "canonicalize-existing" => some .everything
      | some _ => some .nothing
      | none => none
    let bare := hasOpt os "no-newline" && args.length = 1
    let write (o : Octets) : Work Unit :=
      Work.say (o ++ if bare then [] else [itemEnd os])
    let fail (p : Octets) (r : String) : Work Unit := do
      Work.setStatus 1
      if hasOpt os "verbose" then Work.complain 1 (about p r.toList)
    if args.isEmpty then Work.misuse 1 "missing operand".toList
    else args.forM fun p =>
      match need with
      | some need =>
        match placeOf t need p with
        | .ok q => write (rootPath q)
        | .error r => fail p r.reason
      | none =>
        match t.entry p.toText with
        | .ok (.link target) => write (Octets.ofString target)
        | .ok _ => fail p "Invalid argument"
        | .error r => fail p r.reason

/-- A place as a path from another one. -/
def relativePath (base names : List String) : Octets :=
  let common := ((base.zip names).takeWhile fun x => x.1 = x.2).length
  let up := List.replicate (base.length - common) ".."
  let parts := up ++ names.drop common
  if parts.isEmpty then ['.'] else Octets.ofString (String.intercalate "/" parts)

/-- The places of paths. -/
def realpath : Program := fun c =>
  let switches : List Switch :=
    [.flag 'e' "canonicalize-existing", .flag 'm' "canonicalize-missing",
     .flag 'L' "logical", .flag 'P' "physical", .flag 'q' "quiet",
     .flag 's' "strip", .long "no-symlinks" .nothing, .flag 'z' "zero",
     .long "relative-to" .value, .long "relative-base" .value]
  c.given switches true 1 fun os args => do
    let t := (← get).files
    let need := match lastOf os
        ["canonicalize-existing", "canonicalize-missing"] with
      | some "canonicalize-existing" => Presence.everything
      | some _ => .nothing
      | none => .directory
    let base (key : String) : Option (List String) :=
      (optValue? os key).bind fun p => (placeOf t .nothing p).toOption
    let shown (q : List String) : Octets :=
      match base "relative-to", base "relative-base" with
      | some b, none => relativePath b q
      | none, some b => if b.isPrefixOf q then relativePath b q else rootPath q
      | some b, some r => if r.isPrefixOf q then relativePath b q else rootPath q
      | none, none => rootPath q
    if args.isEmpty then Work.misuse 1 "missing operand".toList
    else args.forM fun p =>
      let place := if (lastOf os ["strip", "no-symlinks"]).isSome && !p.isEmpty
        then .ok (plainNames t.workDir p) else placeOf t need p
      match place with
      | .ok q => Work.say (shown q ++ [itemEnd os])
      | .error r =>
        if hasOpt os "quiet" then Work.setStatus 1
        else Work.complain 1 (about p r.reason.toList)

/-- The working directory. -/
def pwd : Program := fun c =>
  c.given [.flag 'L' "logical", .flag 'P' "physical"] true 1 fun _ args => do
    if !args.isEmpty then
      Work.complain 0 "ignoring non-option arguments".toList
    Work.sayLine (rootPath (← get).files.workDir)

/-! ### Surroundings -/

/-- The values of variables. -/
def printenv : Program := fun c =>
  c.given [.flag '0' "null"] false 2 fun os names => do
    let ending := if hasOpt os "null" then Char.ofNat 0 else '\n'
    if names.isEmpty then
      c.environment.forM fun v =>
        Work.say (v.1 ++ '=' :: v.2 ++ [ending])
    else names.forM fun n =>
      match c.environment.lookup n with
      | some v => Work.say (v ++ [ending])
      | none => Work.setStatus 1

/-- The paths of the programs that names stand for. -/
def which : Program := fun c =>
  let refuse (letter : Octets) : Work Unit := do
    Work.sayOn 2 ("Illegal option -".toList ++ letter ++ ['\n'])
    Work.sayOn 1 "Usage: /usr/bin/which [-as] args\n".toList
    Work.setStatus 2
  let isWord (a : Octets) : Bool := a.take 2 = ['-', '-'] && a ≠ ['-', '-']
  let p := optionsOf [.flag 'a' "", .flag 's' ""] false c.args
  c.perform <| if c.args.head?.any isWord then refuse ['-']
  else match p.others with
  | .error m => refuse [m.letter.getD '-']
  | .ok names => do
    let t := (← get).files
    let directories := ((c.environment.lookup "PATH".toList).getD []).splitOn ':'
    let runs (p : Octets) : Bool :=
      match t.lookup p.toText, t.locate p.toText with
      | .ok .directory, _ => false
      | .ok _, .ok q => t.isRunnable q
      | _, _ => false
    if names.isEmpty then Work.setStatus 1
    names.forM fun n =>
      let paths := if n.contains '/' then [n]
        else directories.map fun d => within (if d.isEmpty then ['.'] else d) n
      let found := paths.filter runs
      match found with
      | [] => Work.setStatus 1
      | first :: _ =>
        if hasOpt p.options "s" then return
        else
          (if hasOpt p.options "a" then found else [first]).forM Work.sayLine

/-- The name of whoever runs the program. -/
def whoami : Program := fun c =>
  c.given [] true 1 fun _ args =>
    match args with
    | [] => Work.sayLine "root".toList
    | extra :: _ => Work.misuse 1 ("extra operand ".toList ++ quoted extra)

/-- The numbers and names of whoever runs the program. -/
def id : Program := fun c =>
  let switches : List Switch :=
    [.flag 'a' "", .flag 'g' "group", .flag 'G' "groups", .flag 'n' "name",
     .flag 'r' "real", .flag 'u' "user", .flag 'z' "zero", .flag 'Z' "context"]
  c.given switches true 1 fun os args =>
    match args.find? fun a => a ≠ "root".toList && a ≠ ['0'] with
    | some a => Work.complain 1 (quoted a ++ ": no such user".toList)
    | none =>
      if (lastOf os ["group", "groups", "user"]).isSome then
        Work.sayLine (if hasOpt os "name" then "root" else "0").toList
      else if (lastOf os ["name", "real"]).isSome then
        Work.complain 1
          "cannot print only names or real IDs in default format".toList
      else Work.sayLine "uid=0(root) gid=0(root) groups=0(root)".toList

/-- What machine the program runs on. -/
def uname : Program := fun c =>
  let switches : List Switch :=
    [.flag 'a' "all", .flag 's' "kernel-name", .flag 'n' "nodename",
     .flag 'r' "kernel-release", .flag 'v' "kernel-version",
     .flag 'm' "machine", .flag 'p' "processor",
     .flag 'i' "hardware-platform", .flag 'o' "operating-system"]
  c.given switches true 1 fun os args =>
    match args with
    | extra :: _ => Work.misuse 1 ("extra operand ".toList ++ quoted extra)
    | [] =>
      let words : List (String × String) :=
        [("kernel-name", "Linux"), ("machine", "x86_64"),
         ("processor", "x86_64"), ("hardware-platform", "x86_64"),
         ("operating-system", "GNU/Linux")]
      let asked := words.filter fun w => hasOpt os w.1
      let shown := if os.isEmpty then ["Linux".toList]
        else asked.map (·.2.toList)
      Work.sayLine ([' '].intercalate shown)

/-- The kind of machine the program runs on. -/
def arch : Program := fun c =>
  c.given [] true 1 fun _ args =>
    match args with
    | extra :: _ => Work.misuse 1 ("extra operand ".toList ++ quoted extra)
    | [] => Work.sayLine "x86_64".toList

/-- The groups of users, or of whoever runs the program. -/
def groups : Program := fun c =>
  c.given [] true 1 fun _ args => do
    if args.isEmpty then Work.sayLine "root".toList
    args.forM fun a =>
      if a = "root".toList then Work.sayLine "root : root".toList
      else Work.complain 1 (quoted a ++ ": no such user".toList)

/-- Says that nobody has logged in. -/
def logname : Program := fun c =>
  c.given [] true 1 fun _ args =>
    match args with
    | extra :: _ => Work.misuse 1 ("extra operand ".toList ++ quoted extra)
    | [] => Work.complain 1 "no login name".toList

/-- Says that there is no terminal. -/
def tty : Program := fun c =>
  c.given [.flag 's' "silent", .long "quiet" .nothing] true 2 fun os _ => do
    if (lastOf os ["silent", "quiet"]).isNone then
      Work.sayLine "not a tty".toList
    Work.setStatus 1

end BitProbe.Bench

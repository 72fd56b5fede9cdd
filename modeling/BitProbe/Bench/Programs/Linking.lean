import BitProbe.Bench.Programs.Places

/-!
Programs that make links to files and remove files.

* `Tying`: how links are made;
* `ln`, `link`: the programs that make them;
* `Asking`, `Removal`: how files are removed, and when it is asked whether
  they are;
* `rm`, `rmdir`, `unlink`: the programs that remove them.
-/

namespace BitProbe.Bench

/-! ### Making links -/

/-- How links are made. -/
structure Tying where
  symbolic : Bool := false
  forces : Bool := false
  asks : Bool := false
  isVerbose : Bool := false
  relative : Bool := false
  /-- Whether links to files that are links themselves are followed. -/
  follows : Bool := false
  backup : Option Backup := none

namespace Tying

/-- The text of a link to a path from a directory. -/
def relativeText (t : FileTree) (source : Octets) (here : List String) :
    Octets :=
  match t.locate source.toText with
  | .ok p =>
    let common := ((p.zip here).takeWhile fun x => x.1 = x.2).length
    let names := List.replicate (here.length - common) ".." ++ p.drop common
    if names.isEmpty then ['.'] else Octets.ofString (String.intercalate "/" names)
  | .error _ => source

/-- What a link of the wanted kind is called. -/
def kind (k : Tying) : String :=
  if k.symbolic then "failed to create symbolic link "
  else "failed to create hard link "

/-- Says that a link cannot be made. -/
def refuse (k : Tying) (source target : Octets) (r : FileError) :
    Work Unit :=
  let withSource := if k.symbolic then source.isEmpty || r = .nameTooLong
    else r ≠ .alreadyThere
  let sign := if k.symbolic then " -> " else " => "
  Work.complain 1 (k.kind.toList ++ named target ++
    (if withSource then sign.toList ++ named source else []) ++
    ": ".toList ++ r.reason.toList)

/-- Makes one link. The places where links have been made are kept. -/
def make (k : Tying) (source target : Octets) (done : List (List String)) :
    Work (List (List String)) := do
  let t := (← get).files
  let sourcePlace := if k.follows then t.locate source.toText
    else t.locateEntry source.toText
  match k.symbolic, t.nodeAt sourcePlace with
  | false, .error r =>
    Work.cannot "failed to access " source r
    return done
  | false, .ok .directory =>
    Work.complain 1 (bareName source ++
      ": hard link not allowed for directory".toList)
    return done
  | _, _ =>
    match t.locateEntry target.toText with
    | .error r =>
      k.refuse source target r
      return done
    | .ok q =>
      let there := t.node? q
      let replaces := k.forces || k.asks || k.backup.isSome
      let linked := if k.symbolic then
          match t.lookup source.toText with
          | .ok _ => (t.locate source.toText).toOption
          | .error _ => none
        else sourcePlace.toOption
      if there = some .directory && replaces then
        Work.complain 1 (bareName target ++
          ": cannot overwrite directory".toList)
        return done
      else if there.isSome && replaces && done.contains q then
        Work.complain 1 ("will not overwrite just-created ".toList ++
          named target ++ " with ".toList ++ named source)
        return done
      else if there.isSome && linked = some q &&
          (k.forces || !k.symbolic && k.backup.isSome) &&
          (k.backup.isNone || !k.symbolic) then
        Work.complain 1 (named source ++ " and ".toList ++ named target ++
          " are the same file".toList)
        return done
      let yes ← if there.isSome && k.asks then
          Work.asks ("replace ".toList ++ named target)
        else pure true
      if !yes then return done
      else
        let kept ← match there, k.backup with
          | some _, some b => (b.keep target q).map some
          | _, _ => pure none
        let t := (← get).files
        let shown := if k.relative then
            relativeText t source q.dropLast else source
        if source.isEmpty then
          k.refuse source target .notFound
          return done
        else if (t.node? q).isSome && !replaces then
          k.refuse source target .alreadyThere
          return done
        else if t.node? q.dropLast ≠ some .directory then
          k.refuse source target .notFound
          return done
        else
          match k.symbolic, sourcePlace with
          | false, .ok p => Work.setFiles (t.join p q)
          | _, _ => Work.setFiles (t.put q (.link shown.toText))
          if k.isVerbose then
            Work.sayLine ((match kept with
              | some b => named b ++ " ~ ".toList
              | none => []) ++ named target ++
              (if k.symbolic then " -> " else " => ").toList ++ named shown)
          return q :: done

/-- Makes links in a directory. -/
def into (k : Tying) (directory : Octets) (sources : List Octets) :
    Work Unit := do
  let _ ← sources.foldlM (fun done p =>
    k.make p (within directory (lastName p)) done) []

end Tying

/-- Makes links to files. -/
def ln : Program := fun c =>
  let switches : List Switch :=
    [.flag 'b' "", Backup.switch, .flag 'd' "directory", .flag 'f' "force",
     .flag 'F' "", .flag 'i' "interactive", .flag 'L' "logical",
     .flag 'n' "no-dereference", .flag 'P' "physical", .flag 'r' "relative",
     .flag 's' "symbolic", .valued 'S' "suffix",
     .valued 't' "target-directory", .flag 'T' "no-target-directory",
     .flag 'v' "verbose"]
  c.given switches true 1 fun os args => do
    let t := (← get).files
    let how := lastOf os ["force", "interactive"]
    let symbolic := hasOpt os "symbolic"
    let plain := hasOpt os "no-target-directory"
    let isLink (p : Octets) : Bool := match t.entry p.toText with
      | .ok (.link _) => hasOpt os "no-dereference"
      | _ => false
    match Backup.ofOptions c.environment os with
    | .error m => Work.misuse 1 m
    | .ok backup =>
    let k : Tying :=
      { symbolic
        forces := how = some "force"
        asks := how = some "interactive"
        isVerbose := hasOpt os "verbose"
        relative := hasOpt os "relative"
        follows := lastOf os ["logical", "physical"] = some "logical"
        backup }
    let only (p target : Octets) : Work Unit := do
      let _ ← k.make p target []
    if args.isEmpty then Work.misuse 1 "missing file operand".toList
    else if hasOpt os "relative" && !symbolic then
      Work.complain 1 "cannot do --relative without --symbolic".toList
    else
      match optValue? os "target-directory", args.reverse with
      | some d, _ =>
        if plain then
          Work.complain 1 ("cannot combine --target-directory and " ++
            "--no-target-directory").toList
        else
          match t.lookup d.toText with
          | .ok .directory => k.into d args
          | .ok _ => Work.cannot "target directory " d .notADirectory
          | .error r => Work.cannot "target directory " d r
      | none, [] => return
      | none, [p] =>
        if plain then
          Work.misuse 1 ("missing destination file operand after ".toList ++
            named p)
        else k.into ['.'] [p]
      | none, target :: sources =>
        if plain then
          match args with
          | [p, q] => only p q
          | _ => Work.misuse 1 ("extra operand ".toList ++ named (args.getD 2 []))
        else if isDirectory t target && !isLink target then
          k.into target sources.reverse
        else
          match sources, t.lookup target.toText with
          | [p], _ => only p target
          | _, .error r => Work.cannot "target " target r
          | _, .ok _ => Work.cannot "target " target .notADirectory

/-- Makes one link to a file, by exactly the name that is given. -/
def link : Program := fun c =>
  c.given [] true 1 fun _ args =>
    match args with
    | [] => Work.misuse 1 "missing operand".toList
    | [p] => Work.misuse 1 ("missing operand after ".toList ++ quoted p)
    | [p, target] => do
      let t := (← get).files
      let cannot (r : FileError) : Work Unit :=
        Work.complain 1 ("cannot create link ".toList ++ named target ++
          " to ".toList ++ named p ++ ": ".toList ++ r.reason.toList)
      let place := t.locateEntry p.toText
      match t.nodeAt place, place, t.locateEntry target.toText with
      | .error r, _, _ => cannot r
      | _, .error r, _ => cannot r
      | _, _, .error r => cannot r
      | .ok n, .ok from_, .ok q =>
        if t.node? q.dropLast ≠ some .directory then cannot .notFound
        else if (t.node? q).isSome then cannot .alreadyThere
        else if n = .directory then
          cannot (.other "Operation not permitted")
        else Work.setFiles (t.join from_ q)
    | _ :: _ :: extra :: _ =>
      Work.misuse 1 ("extra operand ".toList ++ quoted extra)

/-! ### Removing files -/

/-- What a file is called before it is removed. -/
def kindOf (n : FileTree.Node) : Octets :=
  match n with
  | .directory => "directory".toList
  | .file [] => "regular empty file".toList
  | .link _ => "symbolic link".toList
  | _ => "regular file".toList

/-- When it is asked whether files are to be removed. -/
inductive Asking where
  | never
  | once
  | always
  deriving DecidableEq

/-- How files are removed. -/
structure Removal where
  asking : Asking := .never
  /-- Whether files that are not there are passed over. -/
  passesOver : Bool := false
  recursive : Bool := false
  /-- Whether directories that hold nothing are removed. -/
  takesEmpty : Bool := false
  isVerbose : Bool := false

namespace Removal

/-- A removal with what one more option asks for. -/
def add (k : Removal) (o : Opt) : Removal :=
  let asking (a : Asking) : Removal :=
    { k with asking := a, passesOver := k.passesOver && a = .never }
  match o.key with
  | "force" => { k with asking := .never, passesOver := true }
  | "i" => asking .always
  | "I" => asking .once
  | "interactive" =>
    match o.value.map String.ofList with
    | some "never" => asking .never
    | some "once" => asking .once
    | _ => asking .always
  | "recursive" | "R" => { k with recursive := true }
  | "dir" => { k with takesEmpty := true }
  | "verbose" => { k with isVerbose := true }
  | _ => k

/-- Says that something cannot be removed. -/
def refuse (k : Removal) (p : Octets) (r : FileError) : Work Unit :=
  if k.passesOver && (r = .notFound || r = .notADirectory) then return
  else Work.cannot "cannot remove " p r

/-- Whether something may be removed. -/
def allows (k : Removal) (question : String) (p : Octets) : Work Bool :=
  if k.asking = .always then
    Work.asks (question.toList ++ ' ' :: named p)
  else return true

/-- Says what has been removed. -/
def tell (k : Removal) (word : String) (p : Octets) : Work Unit := do
  if k.isVerbose then
    Work.sayLine ("removed ".toList ++ word.toList ++ named p)

/-- Removes what stands at a place, a directory with everything in it, as many
levels deep. Says whether the directory it is in may still be removed, which
is not so after a failure or if a directory is left as it is. -/
def entry (k : Removal) : Nat → Octets → List String → Work Bool
  | 0, _, _ => return false
  | fuel + 1, p, q => do
    let t := (← get).files
    match t.node? q with
    | none => return true
    | some .directory =>
      let filled := t.isFilled q
      let goes ← if filled then k.allows "descend into directory" p
        else pure true
      if !goes then return false
      let gone ← (t.children q).foldlM (fun (gone : Bool) n => do
        return (← k.entry fuel (within p (Octets.ofString n)) (q ++ [n])) &&
          gone) true
      if !gone then return false
      if !(← k.allows "remove directory" p) then return true
      let t := (← get).files
      if t.isFilled q then
        Work.cannot "cannot remove " p .notEmpty
        return false
      else
        k.tell "directory " p
        Work.setFiles (t.removeAll q)
        return true
    | some n =>
      let kind := "remove " ++ String.ofList (kindOf n)
      if !(← k.allows kind p) then return true
      k.tell "" p
      Work.setFiles ((← get).files.remove q)
      return true

/-- Removes what stands at a path. -/
def path (k : Removal) (p : Octets) : Work Unit := do
  let t := (← get).files
  let name := lastName p
  match t.entry p.toText, t.locateEntry p.toText with
  | .error r, _ => k.refuse p r
  | _, .error r => k.refuse p r
  | .ok node, .ok q =>
    if node = .directory then
      if k.recursive && q.isEmpty then
        Work.complain 1 "it is dangerous to operate recursively on \x27/\x27".toList
        Work.complain 1 "use --no-preserve-root to override this failsafe".toList
      else if k.recursive && (name = ['.'] || name = ['.', '.']) then
        Work.complain 1
          ("refusing to remove \x27.\x27 or \x27..\x27 directory: skipping ".toList ++
            named p)
      else if !k.recursive && !k.takesEmpty then k.refuse p .isADirectory
      else if !k.recursive && t.isFilled q then k.refuse p .notEmpty
      else
        let _ ← k.entry (t.nodes.length + 1) p q
    else if p.getLast? = some '/' then k.refuse p .notADirectory
    else
      let _ ← k.entry 1 p q

/-- Removes what stands at some paths. -/
def paths (k : Removal) (ps : List Octets) : Work Unit := do
  let many := k.asking = .once && (k.recursive || 3 < ps.length)
  let question := "remove ".toList ++ Text.decimal ps.length ++
    (if ps.length = 1 then " argument" else " arguments").toList ++
    (if k.recursive then " recursively" else "").toList
  let go ← if many then Work.asks question else pure true
  if go then ps.forM k.path

end Removal

/-- Removes files. -/
def rm : Program := fun c =>
  let switches : List Switch :=
    [.flag 'd' "dir", .flag 'f' "force", .flag 'i' "", .flag 'I' "",
     .flag 'r' "recursive", .flag 'R' "", .flag 'v' "verbose",
     .choice "interactive" .maybe
       [["never", "no", "none"], ["once"], ["always", "yes"]],
     .long "one-file-system" .nothing,
     .long "no-preserve-root" .nothing, .long "preserve-root" .maybe]
  let misread (m : Misread) : Work Unit := do
    Work.complain 1 m.message
    let t := (← get).files
    let name := c.args.find? fun a =>
      a.head? = some '-' && (t.entry a.toText).toOption.isSome
    match name with
    | some a =>
      Work.sayOn 2 ("Try \x27".toList ++ c.name ++ " ./".toList ++ a ++
        "\x27 to remove the file ".toList ++ named a ++ ".\n".toList)
    | none => pure ()
    Work.sayOn 2 ("Try \x27".toList ++ c.name ++
      " --help\x27 for more information.\n".toList)
  c.asked switches true misread ({} : Removal)
    (fun k o => return some (k.add o)) fun k _ args =>
    if args.isEmpty then
      if k.passesOver then return
      else Work.misuse 1 "missing operand".toList
    else k.paths args

/-- Removes directories that hold nothing. -/
def rmdir : Program := fun c =>
  let switches : List Switch :=
    [.flag 'p' "parents", .flag 'v' "verbose",
     .long "ignore-fail-on-non-empty" .nothing]
  c.given switches true 1 fun os args => do
    if args.isEmpty then Work.misuse 1 "missing operand".toList
    let remove (p : Octets) : Work Bool := do
      let t := (← get).files
      if hasOpt os "verbose" then
        Work.sayLine (c.name ++ ": removing directory, ".toList ++ named p)
      let fail (r : FileError) : Work Bool := do
        if r = .notEmpty && hasOpt os "ignore-fail-on-non-empty" then
          return false
        Work.cannot "failed to remove " p r
        return false
      match t.entry p.toText, t.locateEntry p.toText with
      | .error r, _ => fail r
      | _, .error r => fail r
      | .ok node, .ok q =>
        if node ≠ .directory then fail .notADirectory
        else if lastName p = ['.'] then fail (.other "Invalid argument")
        else if t.isFilled q then fail .notEmpty
        else
          Work.setFiles (t.removeAll q)
          return true
    args.forM fun p => do
      let parents := if hasOpt os "parents" then
          let names := (Text.dropRight (· = '/') p).splitOn '/'
          (List.range names.length).reverse.map fun i =>
            ['/'].intercalate (names.take (i + 1))
        else [p]
      let _ ← (parents.filter fun q => !q.isEmpty || p.isEmpty).foldlM
        (fun (going : Bool) q => if going then remove q else return false) true

/-- Removes one file. -/
def unlink : Program := fun c =>
  c.given [] true 1 fun _ args =>
    match args with
    | [] => Work.misuse 1 "missing operand".toList
    | [p] => do
      let t := (← get).files
      match t.entry p.toText, t.locateEntry p.toText with
      | .ok .directory, _ => Work.cannot "cannot unlink " p .isADirectory
      | .ok _, .ok q => Work.setFiles (t.remove q)
      | .error r, _ => Work.cannot "cannot unlink " p r
      | _, .error r => Work.cannot "cannot unlink " p r
    | _ :: extra :: _ => Work.misuse 1 ("extra operand ".toList ++ quoted extra)

end BitProbe.Bench

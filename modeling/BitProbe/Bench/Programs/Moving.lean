import BitProbe.Bench.Programs.Modes
import BitProbe.Bench.Programs.Places

/-!
Programs that take files to other places.

A file is copied or given another name. What stands at the other place
already is replaced, kept by another name or left as it is.

* `Rival`, `Transfer`: how files are taken, and what becomes of others;
* `Transfer.one`, `Transfer.run`: one file and all of them;
* `cp`, `mv`: the programs.
-/

namespace BitProbe.Bench

/-- What becomes of a file that is at the other place already. -/
inductive Rival where
  | replaced
  /-- It stays, and nothing is said. -/
  | kept
  /-- It stays, and that is said. -/
  | defended
  /-- It is asked for. -/
  | doubted
  deriving DecidableEq

/-- What is made of a file at the other place. -/
inductive Copying where
  | contents
  /-- A file without contents, but with what else is kept. -/
  | shell
  /-- The same file by another name. -/
  | sameFile
  /-- A link to the file. -/
  | linkTo
  deriving DecidableEq

/-- How files get to another place. -/
structure Transfer where
  /-- Whether they stay where they were. -/
  keeps : Bool
  recursive : Bool := true
  isVerbose : Bool := false
  rival : Rival := .replaced
  /-- Whether only what is newer gets to the other place. -/
  updating : Bool := false
  /-- Whether links stay links; those among the arguments may differ. -/
  keepsLinks : Bool := true
  keepsGivenLinks : Bool := true
  copying : Copying := .contents
  /-- Whether modes are kept, taken as usual or not taken at all. -/
  keepsModes : Bool := false
  dropsModes : Bool := false
  keepsTimes : Bool := false
  /-- Whether files are kept that are the same by several names. -/
  keepsTwins : Bool := false
  forces : Bool := false
  /-- Whether what is at the other place is removed first. -/
  removesFirst : Bool := false
  backup : Option Backup := none
  /-- Whether the directories in paths are made again. -/
  parents : Bool := false

/-- What has been done so far: the places that files have been taken from and
to by arguments. -/
structure Transfer.Done where
  sources : List (List String) := []
  targets : List (List String) := []

namespace Transfer

/-- Says what has become of a file. -/
def tell (k : Transfer) (source target : Octets) (kept : Option Octets) :
    Work Unit := do
  if k.isVerbose then
    Work.sayLine ((if k.keeps then [] else "renamed ".toList) ++
      named source ++ " -> ".toList ++ named target ++
      match kept with
      | some b => " (backup: ".toList ++ named b ++ [')']
      | none => [])

/-- What is said of two paths. -/
def both (start : String) (a : Octets) (middle : String) (b : Octets) :
    Work Unit :=
  Work.complain 1 (start.toList ++ named a ++ middle.toList ++ named b)

/-- What is kept of a file besides its contents. -/
def finish (k : Transfer) (source place : List String) (isNew : Bool) :
    Work Unit := do
  let t := (← get).files
  let old := t.mode source
  let isLink := match t.node? source with
    | some (.link _) => true
    | _ => false
  let t := if isLink then t
    else if k.keepsModes then t.setMode place old
    else
      let m := old &&& 0o777 &&& (0o7777 - usualMask)
      if isNew && !k.dropsModes && m ≠ t.mode place then t.setMode place m
      else t
  let times := t.timesOf source
  let t := if k.keepsTimes then
      t.setTimes place { times with changed := t.now }
    else t
  Work.setFiles t

/-- The text of a link to a path, seen from a place. -/
def linkText (source : Octets) : FileTree.Node := .link source.toText

/-- Makes another name for a file, or a link to it. -/
def tie (k : Transfer) (source target : Octets) (from_ place : List String)
    (isNew : Bool) : Work Bool := do
  let t := (← get).files
  let there := (t.node? place).isSome && !isNew
  let replaced := if there then t.remove place else t
  match k.copying with
  | .linkTo =>
    let here := place.dropLast = t.workDir
    if source.head? ≠ some '/' && !here then
      Work.complain 1 (bareName target ++
        ": can make relative symbolic links only in current directory".toList)
      return false
    else if there && !k.forces then
      Work.complain 1 ("cannot create symbolic link ".toList ++
        named target ++ " to ".toList ++ named source ++ ": ".toList ++
        FileError.alreadyThere.reason.toList)
      return false
    else
      Work.setFiles (replaced.put place (linkText source))
      return true
  | _ =>
    if there && !k.forces && k.rival ≠ .doubted then
      Work.complain 1 ("cannot create hard link ".toList ++ named target ++
        " to ".toList ++ named source ++ ": ".toList ++
        FileError.alreadyThere.reason.toList)
      return false
    else
      Work.setFiles (replaced.join from_ place)
      return true

/-- Copies what is no directory. -/
def copyFile (k : Transfer) (source target : Octets) (node : FileTree.Node)
    (from_ place : List String) (isNew : Bool) : Work Unit := do
  let t := (← get).files
  let cannot (r : FileError) : Work Unit :=
    Work.cannot "cannot create regular file " target r
  match k.copying, node with
  | .sameFile, _ =>
    let _ ← k.tie source target from_ place isNew
  | .linkTo, _ =>
    let _ ← k.tie source target from_ place isNew
  | _, .link _ =>
    if (t.node? place).isSome && !isNew && !k.forces then
      Work.cannot "cannot create symbolic link " target .alreadyThere
    else
      Work.setFiles (t.put place node)
      k.finish from_ place true
  | copying, _ =>
    let dangling := match t.entry target.toText, t.lookup target.toText with
      | .ok (.link _), .error .notFound => true
      | _, _ => false
    if dangling then
      Work.complain 1 ("not writing through dangling symlink ".toList ++
        named target)
    else if isNew && target.getLast? = some '/' then cannot .notADirectory
    else
      match ← Work.fileAt source with
      | .error r => Work.cannot "cannot open " source r
      | .ok s =>
        if s.isEndless then Work.hang
        let o := if copying = .shell then [] else s.held
        let unchanged := copying = .shell && !isNew
        let outcome ← if unchanged then pure (.ok ()) else Work.write target o
        match outcome with
        | .error r => cannot r
        | .ok () =>
          match (← get).files.locate target.toText with
          | .ok place => k.finish from_ place isNew
          | .error _ => return

/-- Gives what stands at a place another one. -/
def rename (k : Transfer) (source target : Octets) (node : FileTree.Node)
    (from_ place : List String) (kept : Option Octets) : Work Unit := do
  let t := (← get).files
  let cannot (r : FileError) : Work Unit :=
    Work.complain 1 ("cannot move ".toList ++ named source ++
      " to ".toList ++ named target ++ ": ".toList ++ r.reason.toList)
  let isDir := node = .directory
  match t.node? place.dropLast with
  | none => cannot .notFound
  | some .directory =>
    if from_.isPrefixOf place && isDir then
      both "cannot move " source " to a subdirectory of itself, " target
    else if !isDir && (t.node? place).isNone &&
        target.getLast? = some '/' then cannot .notADirectory
    else if isDir && t.isFilled place then
      Work.cannot "cannot overwrite " target .notEmpty
    else
      Work.setFiles (t.move from_ place)
      k.tell source target kept
  | some _ => cannot .notADirectory

/-- Whether a file may get to a path where there is one already. -/
def mayReplace (k : Transfer) (target : Octets) : Work Bool := do
  match k.rival with
  | .replaced => return true
  | .kept => return false
  | .defended =>
    Work.complain 1 ("not replacing ".toList ++ named target)
    return false
  | .doubted =>
    let yes ← Work.asks ("overwrite ".toList ++ named target)
    if !yes then Work.setStatus 1
    return yes

/-- What becomes of what is at the other place: the name it is kept by, and
whether the place is free then; or nothing if that is not possible. -/
def makeRoom (k : Transfer) (source target : Octets) (from_ : List String)
    (place : List String) (isDir : Bool) :
    Work (Option (Option Octets × Bool)) := do
  let t := (← get).files
  let thereDir := t.node? place = some .directory
  match k.backup with
  | some b =>
    let name := lastName source
    if name = ['.'] || name = ['.', '.'] || k.keeps && thereDir then
      return some (none, false)
    else
      let here := (t.children place.dropLast).map Octets.ofString
      let own := Octets.ofString (place.getLast?.getD "")
      if place.dropLast ++ [(b.name here own).toText] = from_ then
        Work.complain 1 ("backing up ".toList ++ named target ++
          " might destroy source;  ".toList ++ named source ++
          (if k.keeps then " not copied" else " not moved").toList)
        return none
      else return some (some (← b.keep target place), true)
  | none =>
    if k.removesFirst && !thereDir && !isDir then
      Work.setFiles (t.remove place)
      if k.isVerbose then Work.sayLine ("removed ".toList ++ named target)
      return some (none, true)
    else return some (none, false)

/-- Takes what stands in a directory to another one, by what is done with each
of its entries. -/
def inside (each : Octets → Octets → Done → Work Done)
    (source target : Octets) (from_ : List String) (done : Done) :
    Work Unit := do
  let names := ((← get).files.children from_).reverse
  let _ ← names.foldlM (fun (d : Done) n =>
    each (within source (Octets.ofString n))
      (within target (Octets.ofString n)) d) done

/-- Takes what stands at a path to a place that is free or not. -/
def passOn (k : Transfer) (each : Octets → Octets → Done → Work Done)
    (source target : Octets) (node : FileTree.Node)
    (from_ place : List String) (isNew : Bool) (kept : Option Octets)
    (done : Done) : Work Done := do
  let t := (← get).files
  let above := t.node? place.dropLast
  if !k.keeps then
    k.rename source target node from_ place kept
    return done
  else if node = .directory then
    if from_.isPrefixOf place then
      both "cannot copy a directory, " source ", into itself, " target
    else if isNew && above = some .directory then
      Work.setFiles (t.put place .directory)
      k.tell source target none
      inside each source target from_ done
      k.finish from_ place true
    else if isNew then
      Work.cannot "cannot create directory " target
        (if above.isSome then .notADirectory else .notFound)
    else
      inside each source target from_ done
      if k.keepsModes || k.keepsTimes then k.finish from_ place false
    return done
  else if above.isNone then
    Work.cannot "cannot create regular file " target .notFound
    return done
  else
    k.tell source target kept
    k.copyFile source target node from_ place isNew
    return done

/-- Takes what stands at one path to another path; so many directories may
stand in one another. The places that arguments have named are kept. -/
def one (k : Transfer) : Nat → Bool → Octets → Octets → Done → Work Done
  | 0, _, _, _, done => return done
  | fuel + 1, given, source, target, done => do
    let t := (← get).files
    let stays := if given then k.keepsGivenLinks else k.keepsLinks
    let linkStays := stays || !k.keeps
    let fromPlace := if linkStays then t.locateEntry source.toText
      else t.locate source.toText
    match t.nodeAt fromPlace, fromPlace with
    | .error r, _ =>
      Work.cannot "cannot stat " source r
      return done
    | _, .error r =>
      Work.cannot "cannot stat " source r
      return done
    | .ok node, .ok from_ =>
      let isDir := node = .directory
      if isDir && k.keeps && !k.recursive then
        Work.complain 1 ("-r not specified; omitting directory ".toList ++
          named source)
        return done
      if given && k.keeps && !isDir && k.backup.isNone &&
          done.sources.contains from_ then
        Work.complain (← get).status ("warning: source file ".toList ++
          named source ++ " specified more than once".toList)
        return done
      let done := if given then { done with sources := from_ :: done.sources }
        else done
      let isFile := match node with
        | .link _ => false
        | .directory => false
        | _ => true
      let asEntry := !isFile || !k.keeps || k.copying = .linkTo ||
        k.copying = .sameFile || k.backup.isSome || k.removesFirst
      let targetPlace := if asEntry then t.locateEntry target.toText
        else t.locate target.toText
      let bare := Text.dropRight (· = '/') target
      let targetPlace := match t.nodeAt targetPlace with
        | .error .notFound => t.locateEntry (if bare.isEmpty then target
            else bare).toText
        | _ => targetPlace
      match targetPlace with
      | .error r =>
        if r = .notFound then
          if isDir && k.keeps then Work.cannot "cannot create directory " target r
          else if k.keeps then
            Work.cannot "cannot create regular file " target r
          else
            Work.complain 1 ("cannot move ".toList ++ named source ++
              " to ".toList ++ named target ++ ": ".toList ++ r.reason.toList)
        else Work.cannot "cannot stat " target r
        return done
      | .ok place =>
        let there := t.node? place
        let record (d : Done) : Done :=
          if given then { d with targets := place :: d.targets } else d
        let pass := k.passOn (k.one fuel false) source target node from_ place
        match there with
        | none => pass true none (record done)
        | some old =>
          let thereDir := old = .directory
          let same := place = from_ || (t.twinsOf from_).contains place
          if same && !(k.rival = .kept || k.rival = .defended) then
            if !k.keeps && place ≠ from_ then
              Work.setFiles (t.remove from_)
              return done
            else if (k.copying = .sameFile) && place ≠ from_ then return done
            else if isDir then
              if k.keeps then
                both "cannot copy a directory, " source ", into itself, " target
              else if given then
                both "cannot move " source " to a subdirectory of itself, "
                  target
              return done
            else
              Work.complain 1 (named source ++ " and ".toList ++
                named target ++ " are the same file".toList)
              return done
          if k.updating && !isDir &&
              (t.timesOf from_).modified ≤ (t.timesOf place).modified then
            return done
          let may ← if !isDir || !k.keeps then k.mayReplace target
            else pure true
          if !may then return done
          else if isDir && !thereDir && (k.keeps || k.backup.isNone) then
            both "cannot overwrite non-directory " target " with directory "
              source
            return done
          else if given && !thereDir && done.targets.contains place then
            both "will not overwrite just-created " target " with " source
            return done
          else if !isDir && thereDir && (k.keeps || k.backup.isNone) then
            Work.complain 1 ("cannot overwrite directory ".toList ++
              named target ++ " with non-directory".toList)
            return done
          else
            match ← k.makeRoom source target from_ place isDir with
            | none => return done
            | some (kept, free) =>
              pass free kept (record done)
/-- How deep directories may stand in one another. -/
def depth : Nat := 64

/-- Makes the directories of a path again in another directory, and says
whether it could. -/
def remake (k : Transfer) (directory path : Octets) : Work Bool := do
  let names := (path.splitOn '/').dropLast
  let leads := ((List.range names.length).map fun i =>
    ['/'].intercalate (names.take (i + 1))).filter fun p => !p.isEmpty
  leads.foldlM (fun (going : Bool) p => do
    if !going then return false
    let t := (← get).files
    let target := within directory p
    match t.lookup target.toText, t.locate target.toText with
    | .ok .directory, _ => return true
    | .ok _, _ =>
      Work.complain 1 (named target ++ " exists but is not a directory".toList)
      return false
    | .error .notFound, .ok place =>
      match t.lookup p.toText, t.locate p.toText with
      | .ok _, .ok q =>
        Work.setFiles (t.put place .directory)
        if k.isVerbose then
          Work.sayLine (p ++ " -> ".toList ++ target)
        k.finish q place true
        return true
      | .error r, _ =>
        Work.cannot "failed to get attributes of " p r
        return false
      | _, .error r =>
        Work.cannot "failed to get attributes of " p r
        return false
    | .error r, _ =>
      Work.cannot "cannot create directory " target r
      return false) true

/-- Takes files into a directory. -/
def into (k : Transfer) (directory : Octets) (sources : List Octets) :
    Work Unit := do
  let _ ← sources.foldlM (fun (done : Done) p => do
    if k.parents then
      let bare := Text.dropRight (· = '/') p
      if ← k.remake directory bare then
        k.one depth true p (within directory bare) done
      else return done
    else
      let name := lastName p
      let target := if name = ['.', '.'] || name = ['/'] then directory
        else within directory name
      k.one depth true p target done) {}

/-- Takes files to another path or into a directory. -/
def run (k : Transfer) (os : List Opt) (args : List Octets) : Work Unit := do
  let t := (← get).files
  let bare := hasOpt os "no-target-directory"
  let directory := optValue? os "target-directory"
  let only (p target : Octets) : Work Unit := do
    if k.parents then
      Work.misuse 1
        "with --parents, the destination must be a directory".toList
    else
      let _ ← k.one depth true p target {}
  match directory, args.reverse with
  | _, [] => Work.misuse 1 "missing file operand".toList
  | none, [p] =>
    Work.misuse 1 ("missing destination file operand after ".toList ++ named p)
  | some d, _ =>
    if bare then
      Work.misuse 1 ("cannot combine --target-directory (-t) " ++
        "and --no-target-directory (-T)").toList
    else
      match t.lookup d.toText with
      | .ok .directory => k.into d args
      | .ok _ => Work.cannot "target directory " d .notADirectory
      | .error r => Work.cannot "target directory " d r
  | none, target :: sources =>
    if bare then
      match args with
      | [p, q] => only p q
      | _ => Work.misuse 1 ("extra operand ".toList ++ named (args.getD 2 []))
    else if isDirectory t target then k.into target sources.reverse
    else
      match sources, t.lookup target.toText with
      | [p], _ => only p target
      | _, .error r => Work.cannot "target " target r
      | _, .ok _ => Work.cannot "target " target .notADirectory

/-! ### Options -/

/-- What options say about files that are at the other place. Where they are
to be kept, that depends on the program. -/
def rivalOf (os : List Opt) (usual : Rival) : Rival :=
  match lastOf os ["force", "interactive", "no-clobber"] with
  | some "no-clobber" => usual
  | some "interactive" => .doubted
  | _ => if optValue? os "update" = some "none".toList then .kept else .replaced

/-- Whether only what is newer gets to the other place. -/
def updates (os : List Opt) : Bool :=
  match lastOf os ["u", "update"] with
  | some "update" => (optValue? os "update").all (· = "older".toList)
  | some _ => true
  | none => false

/-- The option that says which files are replaced. -/
def updateChoice : Switch :=
  .choice "update" .maybe [["all"], ["none"], ["older"]]

/-- What can be kept of files. -/
def attributes : Switch :=
  .choice "preserve" .maybe [["mode"], ["timestamps"], ["ownership"],
    ["links"], ["context"], ["xattr"], ["all"]]

/-- The transfer in which something is kept of files, or is not. -/
def keeping (yes : Bool) (word : Octets) (k : Transfer) : Transfer :=
  match String.ofList word with
  | "mode" => { k with keepsModes := yes, dropsModes := !yes }
  | "timestamps" => { k with keepsTimes := yes }
  | "links" => { k with keepsTwins := yes }
  | "all" =>
    { k with keepsModes := yes, dropsModes := !yes, keepsTimes := yes,
             keepsTwins := yes }
  | _ => k

/-- The transfer with what an option says about what is kept, or what is wrong
with the option. -/
def addKept (k : Transfer) (o : Opt) : Except Octets Transfer :=
  match o.key, o.value with
  | "preserve", none =>
    .ok { k with keepsModes := true, keepsTimes := true }
  | "p", _ => .ok { k with keepsModes := true, keepsTimes := true }
  | "archive", _ => .ok (k.keeping true "all".toList)
  | "d", _ => .ok { k with keepsTwins := true }
  | "preserve", some v =>
    (v.splitOn ',').foldlM (fun k w =>
      (attributes.choose w).map fun w => k.keeping true w) k
  | "no-preserve", some v =>
    (v.splitOn ',').foldlM (fun k w =>
      ({ attributes with word := "no-preserve" }.choose w).map fun w =>
        k.keeping false w) k
  | "link", _ => .ok { k with copying := .sameFile }
  | "symbolic-link", _ => .ok { k with copying := .linkTo }
  | "attributes-only", _ => .ok { k with copying := .shell }
  | "parents", _ => .ok { k with parents := true }
  | "remove-destination", _ => .ok { k with removesFirst := true }
  | "force", _ => .ok { k with forces := true }
  | _, _ => .ok k

end Transfer

/-- Copies files. -/
def cp : Program := fun c =>
  let switches : List Switch :=
    [.flag 'a' "archive", .flag 'b' "", Backup.switch, .flag 'd' "",
     .flag 'f' "force", .flag 'H' "", .flag 'i' "interactive",
     .flag 'l' "link", .flag 'L' "dereference", .flag 'n' "no-clobber",
     .flag 'P' "no-dereference", .flag 'p' "", .long "preserve" .maybe,
     .flag 'R' "recursive", .flag 'r' "", .flag 's' "symbolic-link",
     .valued 'S' "suffix", .valued 't' "target-directory",
     .flag 'T' "no-target-directory", .flag 'u' "", Transfer.updateChoice,
     .flag 'v' "verbose", .flag 'x' "one-file-system", .flag 'Z' "",
     .long "context" .maybe, .long "copy-contents" .nothing,
     .long "debug" .nothing, .long "parents" .nothing, .long "no-preserve" .value,
     .long "attributes-only" .nothing,
     .choice "sparse" .value [["never"], ["auto"], ["always"]],
     .choice "reflink" .maybe [["auto"], ["always"], ["never"]],
     .long "remove-destination" .nothing,
     .long "strip-trailing-slashes" .nothing,
     .long "keep-directory-symlink" .nothing]
  c.asked switches true (fun m => Work.misuse 1 m.message)
    { keeps := true : Transfer }
    (fun k o => Work.accept (Work.misuse 1) (k.addKept o)) fun k os args => do
    if hasOpt os "no-clobber" then
      Work.complain 0 ("warning: behavior of -n is non-portable and may " ++
        "change in future; use --update=none instead").toList
    let recursive := (lastOf os ["recursive", "r", "archive"]).isSome
    let links := lastOf os ["archive", "d", "no-dereference", "dereference", "H"]
    let rival := Transfer.rivalOf (os.filter fun o => o.key ≠ "force") .kept
    match Backup.ofOptions c.environment os with
    | .error m => Work.misuse 1 m
    | .ok backup =>
      if k.copying = .sameFile && hasOpt os "symbolic-link" &&
          hasOpt os "link" || k.copying = .linkTo && hasOpt os "link" then
        Work.misuse 1 "cannot make both hard and symbolic links".toList
      else
        let plain := recursive && k.copying ≠ .linkTo
        let stay := match links with
          | some "dereference" => false
          | some "H" => plain
          | some _ => true
          | none => plain || k.copying = .sameFile
        { k with
          recursive
          isVerbose := hasOpt os "verbose"
          rival
          updating := Transfer.updates os
          backup
          keepsLinks := stay
          keepsGivenLinks := stay && links ≠ some "H" }.run os
          (if hasOpt os "strip-trailing-slashes" then
            args.map fun p => Text.dropRight (· = '/') p else args)

/-- Gives files other names. -/
def mv : Program := fun c =>
  let switches : List Switch :=
    [.flag 'b' "", Backup.switch, .flag 'f' "force", .flag 'i' "interactive",
     .flag 'n' "no-clobber", .valued 'S' "suffix",
     .valued 't' "target-directory", .flag 'T' "no-target-directory",
     .flag 'u' "", Transfer.updateChoice, .flag 'v' "verbose",
     .flag 'Z' "context", .long "debug" .nothing,
     .long "strip-trailing-slashes" .nothing, .long "no-copy" .nothing]
  c.given switches true 1 fun os args =>
    match Backup.ofOptions c.environment os with
    | .error m => Work.misuse 1 m
    | .ok backup =>
      let rival := Transfer.rivalOf os .defended
      if backup.isSome && rival = .defended then
        Work.misuse 1 ("options --backup and --no-clobber are mutually " ++
          "exclusive").toList
      else
        let k : Transfer :=
          { keeps := false
            isVerbose := hasOpt os "verbose"
            rival
            updating := Transfer.updates os
            backup }
        k.run os (if hasOpt os "strip-trailing-slashes" then
          args.map fun p => Text.dropRight (· = '/') p else args)

end BitProbe.Bench

import BitProbe.Bench.Options

/-!
Files and directories under names that nothing has yet.

* `Scratch.Template`: a name with places for letters;
* `Scratch.Template.read`: the template of a text;
* `Scratch.letters`: letters that depend on the time;
* `mktemp`: the program.
-/

namespace BitProbe.Bench

namespace Scratch

/-- A name with places for letters. -/
structure Template where
  lead : Octets
  places : Nat
  suffix : Octets

namespace Template

/-- A template as it is written. -/
def text (t : Template) : Octets :=
  t.lead ++ List.replicate t.places 'X' ++ t.suffix

/-- The template of a text, or what is wrong with it. The suffix may be given
apart from it. -/
def read (o : Octets) (suffix : Option Octets) : Except Octets Template :=
  let split (o : Octets) (suffix : Octets) : Except Octets Template :=
    let lead := Text.dropRight (· = 'X') o
    let places := o.length - lead.length
    if suffix.contains '/' then
      .error ("invalid suffix ".toList ++ quoted suffix ++
        ", contains directory separator".toList)
    else if places < 3 then
      .error ("too few X\x27s in template ".toList ++ quoted (o ++ suffix))
    else .ok ⟨lead, places, suffix⟩
  match suffix with
  | some s =>
    if o.getLast? = some 'X' then split o s
    else
      .error ("with --suffix, template ".toList ++ quoted o ++
        " must end in X".toList)
  | none =>
    let stem := Text.dropRight (· ≠ 'X') o
    if stem.isEmpty then
      .error ("too few X\x27s in template ".toList ++ quoted o)
    else split stem (o.drop stem.length)

/-- The name in which letters take their places. -/
def fill (t : Template) (letters : Octets) : Octets :=
  t.lead ++ letters ++ t.suffix

/-- A template is its own name if its places stay as they are. -/
theorem fill_replicate (t : Template) :
    t.fill (List.replicate t.places 'X') = t.text := rfl

end Template

/-- The letters and digits that names are made of. -/
def alphabet : Array Char :=
  ("abcdefghijklmnopqrstuvwxyzABCDEFGHIJKLMNOPQRSTUVWXYZ" ++
    "0123456789").toList.toArray

/-- So many letters that depend on a number. -/
def letters (seed : Nat) : Nat → Octets
  | 0 => []
  | n + 1 =>
    let next := (seed * 6364136223846793005 + 1442695040888963407) % 2 ^ 64
    alphabet.getD (next / 2 ^ 33 % 62) 'a' :: letters next n

/-- Where a file that is wanted goes: the directory if one has been named, and
whether the template is a name in it. -/
structure Where_ where
  directory : Option Octets := none
  isInside : Bool := false
  /-- Whether the variable for such a directory counts more. -/
  isOlder : Bool := false

/-- The directory that files are made in. -/
def Where_.path (w : Where_) (environment : List (Octets × Octets)) :
    Octets :=
  let known := (environment.lookup "TMPDIR".toList).filter (!·.isEmpty)
  let named := w.directory.filter (!·.isEmpty)
  let usual := "/tmp".toList
  if w.isOlder then (known.or named).getD usual
  else (named.or known).getD usual

end Scratch

open Scratch in
/-- Files and directories under names that nothing has yet. -/
def mktemp : Program := fun c =>
  let switches : List Switch :=
    [.flag 'd' "directory", .flag 'q' "quiet", .flag 'u' "dry-run",
     .long "suffix" .value, .valued 'p' "", .long "tmpdir" .maybe,
     .flag 't' "", .flag 'V' ""]
  c.given switches true 1 fun os args => do
    if hasOpt os "V" then
      Work.sayLine (versionText (plainName c.name))
      return
    let refuse (m : Octets) : Work Unit := Work.complain 1 m
    let place : Where_ :=
      { directory := (os.reverse.find? fun o =>
          o.key = "p" || o.key = "tmpdir").bind (·.value)
        isInside := args.isEmpty || ["p", "tmpdir", "t"].any (hasOpt os)
        isOlder := hasOpt os "t" }
    let given := args.headD ("tmp.".toList ++ List.replicate 10 'X')
    match args, Template.read given (optValue? os "suffix") with
    | _ :: _ :: _, _ => Work.misuse 1 "too many templates".toList
    | _, .error m => refuse m
    | _, .ok t =>
      let isInside := place.isInside
      if isInside && place.isOlder && given.contains '/' then
        refuse ("invalid template, ".toList ++ quoted given ++
          ", contains directory separator".toList)
        return
      if isInside && !place.isOlder && given.head? = some '/' then
        refuse ("invalid template, ".toList ++ quoted given ++
          "; with --tmpdir, it may not be absolute".toList)
        return
      let directory := place.path c.environment
      let lead := if !isInside then []
        else if directory.getLast? = some '/' then directory
        else directory ++ ['/']
      let t := { t with lead := lead ++ t.lead }
      let files := (← get).files
      let path := t.fill (letters files.now.toNat t.places)
      let isDirectory := hasOpt os "directory"
      let made : Except FileError FileTree :=
        if isDirectory then
          match files.lookup path.toText, files.locate path.toText with
          | .error .notFound, .ok q =>
            if files.node? q.dropLast = some .directory then
              .ok ((files.put q .directory).setMode q 0o700)
            else .error .notFound
          | .error e, _ => .error e
          | .ok _, _ => .error .alreadyThere
        else
          match files.write path.toText [], files.locate path.toText with
          | .ok files, .ok q => .ok (files.setMode q 0o600)
          | .error e, _ => .error e
          | _, .error e => .error e
      match hasOpt os "dry-run", made with
      | true, _ => Work.sayLine path
      | false, .ok files =>
        Work.setFiles files
        Work.sayLine path
      | false, .error e =>
        if hasOpt os "quiet" then Work.setStatus 1
        else
          refuse ("failed to create ".toList ++
            (if isDirectory then "directory" else "file").toList ++
            " via template ".toList ++ quoted t.text ++ ": ".toList ++
            e.reason.toList)

end BitProbe.Bench

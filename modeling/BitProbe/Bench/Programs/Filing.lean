import BitProbe.Bench.Dates
import BitProbe.Bench.Programs.Modes
import BitProbe.Bench.Programs.Places

/-!
Programs that make files and say what is known about them.

* `Stamping`: which times files get;
* `mkdir`, `touch`, `truncate`: files that are there;
* `chmod`: who may do what with files.
-/

namespace BitProbe.Bench

/-- Makes directories, with those on the way to them if it is told to. -/
def mkdir : Program := fun c =>
  let switches : List Switch :=
    [.valued 'm' "mode", .flag 'p' "parents", .flag 'v' "verbose",
     .flag 'Z' "", .long "context" .maybe]
  c.given switches true 1 fun os args => do
    let parents := hasOpt os "parents"
    let mode := (optValue? os "mode").map fun m => Mode.change? true 0 m 0o777
    let tell (p : Octets) : Work Unit := do
      if hasOpt os "verbose" then
        Work.sayLine (c.name ++ ": created directory ".toList ++ named p)
    let cannot (p : Octets) (r : FileError) : Work Unit :=
      Work.complain 1 ("cannot create directory ".toList ++ quoted p ++
        ": ".toList ++ r.reason.toList)
    let make (p : Octets) (q : List String) : Work Unit := do
      Work.setFiles ((← get).files.put q .directory)
      tell p
    match mode with
    | some none =>
      Work.complain 1 ("invalid mode ".toList ++
        quoted ((optValue? os "mode").getD []))
    | _ =>
      if args.isEmpty then Work.misuse 1 "missing operand".toList
      args.forM fun p => do
        if parents then
          let names := (Text.dropRight (· = '/') p).splitOn '/'
          let leads := (List.range names.length).map fun i =>
            ['/'].intercalate (names.take (i + 1))
          let _ ← (leads.filter fun q => !q.isEmpty || p.isEmpty).foldlM
            (fun (going : Bool) q => do
              let t := (← get).files
              if !going then return false
              match t.lookup q.toText, t.locate q.toText with
              | .ok .directory, _ => return true
              | .ok _, _ =>
                cannot q (if q = p then .alreadyThere else .notADirectory)
                return false
              | .error .notFound, .ok place =>
                make q place
                return true
              | .error r, _ =>
                cannot q r
                return false) true
        else
          let t := (← get).files
          let bare := Text.dropRight (· = '/') p
          match t.entry p.toText, t.locate (if bare.isEmpty then p else bare).toText with
          | .ok _, _ => cannot p .alreadyThere
          | .error .notADirectory, .ok q =>
            cannot p (if (t.node? q).isSome then .alreadyThere
              else .notADirectory)
          | .error .notFound, .ok q =>
            match t.node? q.dropLast with
            | some .directory => make p q
            | some _ => cannot p .notADirectory
            | none => cannot p .notFound
          | .error r, _ => cannot p r
        match mode, (← get).files.locate p.toText with
        | some (some m), .ok q => Work.setFiles ((← get).files.setMode q m)
        | _, _ => return

/-- Which times files get. -/
structure Stamping where
  /-- Whether the time of reading changes, and that of writing. -/
  reading : Bool := false
  writing : Bool := false
  /-- A text that tells the time. -/
  told : Option Octets := none
  /-- Digits that tell the time, and the time that they tell. -/
  stamp : Option Int := none
  /-- A file that has the time. -/
  reference : Option Octets := none
  makes : Bool := true
  /-- Whether links are not followed. -/
  onLinks : Bool := false

namespace Stamping

/-- What is wrong with a text for a time. -/
def wrongTime (v : Octets) : Octets := "invalid date format ".toList ++ quoted v

/-- What one more option asks for. -/
def add (zone : Zone) (now : Int) (k : Stamping) (o : Opt) :
    Except Octets Stamping :=
  let v := o.value.getD []
  match o.key with
  | "a" => .ok { k with reading := true }
  | "m" => .ok { k with writing := true }
  | "time" =>
    .ok (if v = "atime".toList then { k with reading := true }
      else { k with writing := true })
  | "no-create" => .ok { k with makes := false }
  | "date" => .ok { k with told := some v }
  | "reference" => .ok { k with reference := some v }
  | "no-dereference" => .ok { k with onLinks := true }
  | "t" =>
    match Dates.stamp? zone now v with
    | some n => .ok { k with stamp := some n }
    | none => .error (wrongTime v)
  | _ => .ok k

/-- The times of reading and of writing that files get, if it is not simply
the present. -/
def times (k : Stamping) (zone : Zone) (t : FileTree) :
    Except (Work Unit) (Option (Int × Int)) :=
  let relative (now : Int) : Except (Work Unit) Int :=
    match k.told with
    | none => .ok now
    | some v =>
      match Dates.read? zone now v with
      | some n => .ok n
      | none => .error (Work.complain 1 (wrongTime v))
  match k.stamp, k.reference with
  | some n, _ => .ok (some (n, n))
  | none, none =>
    if k.told.isNone then .ok none
    else (relative t.now).map fun n => some (n, n)
  | none, some r =>
    let place := if k.onLinks then t.locateEntry r.toText
      else t.locate r.toText
    match place.bind fun q => (t.nodeAt (.ok q)).map fun _ => q with
    | .error e => .error (Work.cannot "failed to get attributes of " r e)
    | .ok q => do
      let old := t.timesOf q
      let both := k.reading == k.writing
      let a ← if both || k.reading then relative old.accessed
        else .ok old.accessed
      let m ← if both || k.writing then relative old.modified
        else .ok old.modified
      return some (a, m)

/-- The tree with new times for what stands at a place. -/
def set (k : Stamping) (times : Option (Int × Int)) (t : FileTree)
    (q : List String) : FileTree :=
  let (a, m) := times.getD (t.now, t.now)
  let old := t.timesOf q
  let both := k.reading == k.writing
  let t := t.setTimes q
    { accessed := if both || k.reading then a else old.accessed
      modified := if both || k.writing then m else old.modified
      changed := t.now }
  { t with now := t.now + FileTree.Times.tick }

/-- Sets the times of what stands under a path, which is made if it is not
there. -/
def one (k : Stamping) (times : Option (Int × Int)) (p : Octets) :
    Work Unit := do
  let t := (← get).files
  let cannot := Work.cannot "cannot touch "
  let slash := p.getLast? = some '/'
  if p = ['-'] then return
  let place := if k.onLinks then t.locateEntry p.toText else t.locate p.toText
  match t.nodeAt place, place with
  | .ok _, .ok q => Work.setFiles (k.set times t q)
  | .error .notFound, .ok _ =>
    if slash then Work.cannot "setting times of " p .notFound
    else if !k.makes then return
    else if k.onLinks then Work.cannot "setting times of " p .notFound
    else
      match t.write p.toText [], t.locate p.toText with
      | .ok files, .ok q => Work.setFiles (k.set times files q)
      | .error r, _ => cannot p r
      | _, .error r => cannot p r
  | .error r, _ =>
    if slash then Work.cannot "setting times of " p r else cannot p r
  | _, .error r => cannot p r

end Stamping

/-- Makes files that are not there, and sets the times of others. -/
def touch : Program := fun c =>
  let switches : List Switch :=
    [.flag 'a' "", .flag 'c' "no-create", .valued 'd' "date", .flag 'f' "",
     .flag 'h' "no-dereference", .flag 'm' "", .valued 'r' "reference",
     .valued 't' "",
     .choice "time" .value [["atime", "access", "use"], ["mtime", "modify"]]]
  let zone := Zone.ofVariables c.environment
  c.asked switches true (fun m => Work.misuse 1 m.message) ({} : Stamping)
    (fun k o => Work.accept (Work.complain 1) (k.add zone c.files.now o))
    fun k _ args =>
    if k.stamp.isSome && (k.told.isSome || k.reference.isSome) then
      Work.misuse 1 "cannot specify times from more than one source".toList
    else
      match k.times zone c.files with
      | .error refuse => refuse
      | .ok times => do
        if args.isEmpty then Work.misuse 1 "missing file operand".toList
        args.forM (k.one times)

/-- A size that a file gets: a sign that says how it follows from the size it
has, and a number. -/
def sizeFor? (o : Octets) : Option (Nat → Nat) :=
  match o.dropWhile isSpace with
  | '+' :: cs => (sized? cs).map fun n old => old + n
  | '-' :: cs => (sized? cs).map fun n old => old - n
  | '<' :: cs => (sized? cs).map fun n old => min old n
  | '>' :: cs => (sized? cs).map fun n old => max old n
  | '/' :: cs => (sized? cs).map fun n old => old / n * n
  | '%' :: cs => (sized? cs).map fun n old => (old + n - 1) / n * n
  | cs => (sized? cs).map fun n _ => n

/-- Gives files other sizes. -/
def truncate : Program := fun c =>
  let switches : List Switch :=
    [.flag 'c' "no-create", .flag 'o' "io-blocks", .valued 'r' "reference",
     .valued 's' "size"]
  c.given switches true 1 fun os args => do
    let t := (← get).files
    let size := (optValue? os "size").map sizeFor?
    let reference := (optValue? os "reference").map fun r => t.size r.toText
    match size, reference with
    | some none, _ =>
      Work.complain 1 ("Invalid number: ".toList ++
        quoted ((optValue? os "size").getD []))
    | none, none =>
      Work.misuse 1 ("you must specify either ".toList ++
        quoted "--size".toList ++ " or ".toList ++
        quoted "--reference".toList)
    | _, some (.error r) =>
      Work.cannot "cannot stat " ((optValue? os "reference").getD []) r
    | size, reference =>
      if args.isEmpty then Work.misuse 1 "missing file operand".toList
      else args.forM fun p => do
        let t := (← get).files
        let wanted (old : Nat) : Nat :=
          match size, reference with
          | some (some f), some (.ok n) => let _ := old; f n
          | some (some f), _ => f old
          | _, some (.ok n) => n
          | _, _ => old
        match t.read p.toText with
        | .ok bytes =>
          if isDirectory t p then
            Work.cannot "cannot open " p .isADirectory
          else
            let n := wanted bytes.length
            let bytes := bytes.take n ++ List.replicate (n - bytes.length) 0
            match t.write p.toText bytes with
            | .ok files => Work.setFiles files
            | .error r => Work.cannot "cannot open " p r
        | .error .notFound =>
          if hasOpt os "no-create" then return
          else
            match t.write p.toText (List.replicate (wanted 0) 0) with
            | .ok files => Work.setFiles files
            | .error r =>
              Work.complain 1 ("cannot open ".toList ++ named p ++
                " for writing: ".toList ++ r.reason.toList)
        | .error r =>
          Work.complain 1 ("cannot open ".toList ++ named p ++
            " for writing: ".toList ++ r.reason.toList)

/-! ### Modes -/

/-- An argument that takes something from a mode instead of being an
option. -/
def isModeChange (o : Octets) : Bool :=
  match o with
  | '-' :: c :: _ => c ∈ ['r', 'w', 'x', 'X', 's', 't', 'u', 'g', 'o']
  | _ => false

/-- Changes the mode of what stands under a path. -/
def changeMode (os : List Opt) (after : Bool → Nat → Option Nat)
    (p : Octets) : Work Unit := do
  let t := (← get).files
  match t.lookup p.toText, t.locate p.toText with
  | .ok node, .ok q =>
    let inside := (t.nodes.map (·.1)).filter fun n => q.isPrefixOf n && q ≠ n
    let places :=
      if hasOpt os "recursive" && node = .directory then q :: inside else [q]
    places.forM fun q => do
      let t := (← get).files
      let old := t.mode q
      let new := (after (t.node? q = some .directory) old).getD old
      Work.setFiles (t.setMode q new)
      let shown (m : Nat) : Octets :=
        (Nat.toDigits 8 m).leftpad 4 '0' ++ " (".toList ++ Mode.text m ++ [')']
      if hasOpt os "verbose" || hasOpt os "changes" && old ≠ new then
        Work.sayLine ("mode of ".toList ++ named p ++
          (if old = new then " retained as ".toList ++ shown new
          else " changed from ".toList ++ shown old ++ " to ".toList ++
            shown new))
  | .error r, _ => refuse r
  | _, .error r => refuse r
where
  /-- Says that there is nothing to be changed, or only sets the status. -/
  refuse (r : FileError) : Work Unit := do
    if (lastOf os ["silent", "quiet"]).isSome then Work.setStatus 1
    else Work.cannot "cannot access " p r
    if hasOpt os "verbose" then
      Work.sayLine (named p ++ " could not be accessed".toList)

/-- Says who may do what with files. -/
def chmod : Program := fun c =>
  let switches : List Switch :=
    [.flag 'c' "changes", .flag 'f' "silent", .long "quiet" .nothing,
     .flag 'v' "verbose", .flag 'R' "recursive", .long "reference" .value,
     .long "preserve-root" .nothing, .long "no-preserve-root" .nothing]
  let leading := c.args.takeWhile fun a => !isModeChange a && a ≠ ['-', '-']
  let args := if leading.length < c.args.length &&
      (c.args[leading.length]?).any isModeChange then
    leading ++ ['-', '-'] :: c.args.drop leading.length else c.args
  { c with args }.given switches true 1 fun os args => do
    let t := (← get).files
    let reference := (optValue? os "reference").map fun (r : Octets) =>
      (t.locate r.toText).toOption.bind fun q =>
        (t.node? q).map fun _ => t.mode q
    let (change, paths) : Option Octets × List Octets := match reference with
      | some _ => (some [], args)
      | none => (args.head?, args.tail)
    match change with
    | none => Work.misuse 1 "missing operand".toList
    | some m =>
      let after (isDir : Bool) (old : Nat) : Option Nat :=
        match reference with
        | some r => r
        | none => Mode.change? isDir usualMask m old
      if paths.isEmpty && reference.isSome then
        Work.misuse 1 "missing operand".toList
      else if paths.isEmpty then
        Work.misuse 1 ("missing operand after ".toList ++ quoted m)
      else if reference = some none then
        Work.cannot "failed to get attributes of "
          ((optValue? os "reference").getD []) .notFound
      else if (after false 0).isNone then
        Work.misuse 1 ("invalid mode: ".toList ++ quoted m)
      else paths.forM (changeMode os after)

end BitProbe.Bench

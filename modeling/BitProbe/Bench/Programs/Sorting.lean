import BitProbe.Bench.Options
import BitProbe.Bench.Sorting.Key

/-!
Lines in order.

* `Sorting.key?`: how keys are written;
* `Sorting.Task`: what the options ask for;
* `Sorting.Entry`, `Sorting.Task.order`: lines with the values of their keys,
  and their order;
* `Sorting.Task.sorted`: lines in order;
* `Sorting.olderKeys`: keys that are written in an older way;
* `sort`: the program.
-/

namespace BitProbe.Bench

namespace Sorting

/-! ### How keys are written -/

/-- The number at the start of a text and what follows it, or what is wrong
with the text. -/
def count (o : Octets) (what : String) : Except Octets (Nat × Octets) :=
  match leadingInteger? false o with
  | some (.ofNat n, rest) => .ok (n, rest)
  | _ => .error (what.toList ++ ": invalid count at start of ".toList ++
      quoted o)

/-- What is wrong with a key. -/
def wrongKey (o : Octets) (what : String) : Octets :=
  what.toList ++ ": invalid field specification ".toList ++ quoted o

/-- The key that a text is written for. -/
def key? (o : Octets) : Except Octets Key := do
  let place (o' : Octets) (what : String) :
      Except Octets (Nat × Option Nat × Octets) := do
    let (field, rest) ← count o' what
    if field = 0 then throw (wrongKey o "field number is zero")
    match rest with
    | '.' :: rest =>
      let (n, rest) ← count rest "invalid number after \x27.\x27"
      return (field - 1, some n, rest)
    | rest => return (field - 1, none, rest)
  let (field, skip, rest) ← place o "invalid number at field start"
  if skip = some 0 then throw (wrongKey o "character offset is zero")
  let (manner, rest) := ({} : Manner).addAll true false rest
  let stray := wrongKey o "stray character in field spec"
  match rest with
  | [] => return { field, skip := skip.getD 1 - 1, manner }
  | ',' :: rest =>
    let (last, n, rest) ← place rest "invalid number after \x27,\x27"
    let (manner, rest) := manner.addAll false true rest
    if rest.isEmpty then
      return { field, skip := skip.getD 1 - 1, last := some (last, n.getD 0)
               manner }
    else throw stray
  | _ => throw stray

/-- A key that is written in an older way, from places that are counted from
zero, as it is written now. -/
def olderKey? (start : Octets) (finish : Option Octets) : Option Octets := do
  let place (o : Octets) : Option (Nat × Nat × Octets) :=
    let digits := o.takeWhile Char.isDigit
    if digits.isEmpty then none
    else
      match o.drop digits.length with
      | '.' :: cs =>
        let more := cs.takeWhile Char.isDigit
        some (ofDigits 10 digits, ofDigits 10 more, cs.drop more.length)
      | rest => some (ofDigits 10 digits, 0, rest)
  let (field, skip, flags) ← place start
  if !(({} : Manner).addAll true false flags).2.isEmpty then none
  let first := Nat.toDigits 10 (field + 1) ++ '.' ::
    Nat.toDigits 10 (skip + 1) ++ flags
  match finish with
  | none => return first
  | some o =>
    let (field, count, flags) ← place o
    return first ++ ',' ::
      (if count = 0 then Nat.toDigits 10 (max field 1)
        else Nat.toDigits 10 (field + 1) ++ '.' :: Nat.toDigits 10 count) ++
      flags

/-- Arguments with keys that are written in an older way as options. -/
def olderKeys : List Octets → List Octets
  | [] => []
  | ['-', '-'] :: rest => ['-', '-'] :: rest
  | [('+' :: start)] =>
    match olderKey? start none with
    | some k => [['-', 'k'] ++ k]
    | none => [('+' :: start)]
  | ('+' :: start) :: next :: rest =>
    let finish := match next with
      | '-' :: d :: cs => if d.isDigit then some (d :: cs) else none
      | _ => none
    match olderKey? start finish, finish with
    | some k, some _ => (['-', 'k'] ++ k) :: olderKeys rest
    | some k, none => (['-', 'k'] ++ k) :: olderKeys (next :: rest)
    | none, _ => ('+' :: start) :: olderKeys (next :: rest)
  | arg :: rest => arg :: olderKeys rest

/-! ### Options -/

/-- How lines are looked at without being sorted. -/
inductive Check where
  | told | quiet
  deriving DecidableEq

/-- What options ask for. -/
structure Task where
  keys : List Key := []
  manner : Manner := {}
  check : Option Check := none
  merges : Bool := false
  output : Option Octets := none
  isStable : Bool := false
  separator : Option Char := none
  isUnique : Bool := false
  ending : Char := '\n'
  namesFrom : Option Octets := none

namespace Task

/-- The switches with choices. -/
def checkSwitch : Switch :=
  .choice "check" .maybe [["quiet", "silent"], ["diagnose-first"]]

@[inherit_doc checkSwitch]
def sortSwitch : Switch :=
  .choice "sort" .value
    ((["general-numeric", "human-numeric", "month", "numeric", "random",
      "version"] : List String).map ([·]))

/-- Options that do not go together. -/
def clash (letters : Octets) : Octets :=
  "options \x27-".toList ++ letters ++ "\x27 are incompatible".toList

/-- What is wrong with a number with a unit, if something is. -/
def wrongSize? (what : String) (units : List Char) (v : Octets) :
    Option Octets :=
  let about (s : String) (after : String) : Octets :=
    s.toList ++ what.toList ++ " argument \x27".toList ++ v ++
      '\x27' :: after.toList
  match leadingInteger? false v with
  | some (.ofNat n, rest) =>
    match rest with
    | [] => if 2 ^ 64 ≤ n then some (about "" " too large") else none
    | [c] =>
      if !units.contains c then some (about "invalid suffix in " "")
      else if 2 ^ 54 ≤ n then some (about "" " too large")
      else none
    | _ => some (about "invalid suffix in " "")
  | _ => some (about "invalid " "")

/-- The task with a way of looking at lines. -/
def looking (k : Task) (c : Check) : Except Octets Task :=
  if k.check.any (· ≠ c) then .error (clash ['c', 'C'])
  else .ok { k with check := some c }

/-- The task with another separator. -/
def separated (k : Task) (v : Octets) : Except Octets Task := do
  let c ← match v with
    | [] => throw "empty tab".toList
    | [c] => pure c
    | ['\\', '0'] => pure (Char.ofNat 0)
    | v => throw ("multi-character tab ".toList ++ quoted v)
  if k.separator.any (· ≠ c) then throw "incompatible tabs".toList
  return { k with separator := some c }

/-- The task with what an option adds to it, or what is wrong with it. -/
def add (k : Task) (o : Opt) : Except Octets Task := do
  let v := o.value.getD []
  let manner (f : Manner → Manner) : Except Octets Task :=
    return { k with manner := f k.manner }
  let sized (what : String) (units : List Char) : Except Octets Task :=
    match wrongSize? what units v with
    | some m => .error m
    | none => .ok k
  match o.key with
  | "ignore-leading-blanks" =>
    manner fun m => { m with skipsStart := true, skipsEnd := true }
  | "dictionary-order" => manner fun m => { m with isDictionary := true }
  | "ignore-case" => manner fun m => { m with folds := true }
  | "general-numeric-sort" => manner fun m => { m with isGeneral := true }
  | "human-numeric-sort" => manner fun m => { m with isHuman := true }
  | "ignore-nonprinting" => manner fun m => { m with isPrinted := true }
  | "month-sort" => manner fun m => { m with isMonth := true }
  | "numeric-sort" => manner fun m => { m with isNumeric := true }
  | "random-sort" => manner fun m => { m with isRandom := true }
  | "reverse" => manner fun m => { m with isReversed := true }
  | "version-sort" => manner fun m => { m with isVersion := true }
  | "sort" =>
    match String.ofList v with
    | "general-numeric" => manner fun m => { m with isGeneral := true }
    | "human-numeric" => manner fun m => { m with isHuman := true }
    | "month" => manner fun m => { m with isMonth := true }
    | "numeric" => manner fun m => { m with isNumeric := true }
    | "random" => manner fun m => { m with isRandom := true }
    | _ => manner fun m => { m with isVersion := true }
  | "c" => k.looking .told
  | "C" => k.looking .quiet
  | "check" =>
    k.looking (if o.value = some "quiet".toList then .quiet else .told)
  | "key" => return { k with keys := k.keys ++ [← key? v] }
  | "merge" => return { k with merges := true }
  | "output" =>
    if k.output.any (· ≠ v) then throw "multiple output files specified".toList
    return { k with output := some v }
  | "stable" => return { k with isStable := true }
  | "buffer-size" =>
    sized "-S" ['%', 'b', 'E', 'g', 'G', 'k', 'K', 'm', 'M', 'P', 'Q', 'R',
      't', 'T', 'Y', 'Z']
  | "field-separator" => k.separated v
  | "unique" => return { k with isUnique := true }
  | "zero-terminated" => return { k with ending := Char.ofNat 0 }
  | "files0-from" => return { k with namesFrom := some v }
  | "parallel" =>
    let k ← sized "--parallel" []
    if (leadingInteger? false v).any (·.1 = 0) then
      throw "number in parallel must be nonzero".toList
    return k
  | "batch-size" => sized "--batch-size" []
  | _ => return k

/-- The keys of a task: those that say nothing of how they are compared are
compared as everything else, and without keys whole lines may be one. -/
def settled (k : Task) : Task :=
  let isPlain (m : Manner) : Bool := { m with isReversed := false } = Manner.usual
  if k.keys.isEmpty then
    if isPlain k.manner then k else { k with keys := [{ manner := k.manner }] }
  else
    { k with
      keys := k.keys.map fun key =>
        if key.manner = Manner.usual then { key with manner := k.manner }
        else key }

end Task

/-! ### Orders of lines -/

/-- A line and the values of its keys. -/
structure Entry where
  line : Octets
  values : List Value

namespace Task

/-- A line with the values of its keys. -/
def entry (k : Task) (line : Octets) : Entry :=
  { line, values := k.keys.map fun key =>
      key.manner.value (key.text k.separator line) }

/-- The order of lines by keys. -/
def keyOrder : List Key → List Value → List Value → Ordering
  | key :: keys, a :: as, b :: bs =>
    match key.compare a b with
    | .eq => keyOrder keys as bs
    | r => r
  | _, _, _ => .eq

/-- The order of lines. Where keys say nothing, whole lines may do so. -/
def order (k : Task) (a b : Entry) : Ordering :=
  match keyOrder k.keys a.values b.values with
  | .eq =>
    if !k.keys.isEmpty && (k.isUnique || k.isStable) then .eq
    else
      let r := textOrder a.line b.line
      if k.manner.isReversed then r.swap else r
  | r => r

/-- Whether a line may stand before another one. -/
def isBefore (k : Task) (a b : Entry) : Bool := k.order a b != .gt

/-- Lines without those that have the rank of the one before them. -/
def withoutEquals (k : Task) : List Entry → List Entry → List Entry
  | kept, [] => kept.reverse
  | kept, e :: es =>
    match kept with
    | [] => withoutEquals k [e] es
    | last :: _ =>
      if k.order last e = .eq then withoutEquals k kept es
      else withoutEquals k (e :: kept) es

/-- The lines of files in order. -/
def sorted (k : Task) (files : List (List Octets)) : List Octets :=
  let entries := files.map (·.map k.entry)
  let all := if k.merges then
      entries.foldl (fun done es => done.merge es k.isBefore) []
    else entries.flatten.mergeSort k.isBefore
  ((if k.isUnique then k.withoutEquals [] all else all)).map (·.line)

/-- The first line that is out of order after another one, and its number. -/
def disorder? (k : Task) : Nat → Entry → List Octets → Option (Nat × Octets)
  | _, _, [] => none
  | n, last, l :: ls =>
    let e := k.entry l
    let r := k.order last e
    if r = .gt || k.isUnique && r = .eq then some (n, l)
    else disorder? k (n + 1) e ls

/-- The lines of octets. -/
def lines (k : Task) (o : Octets) : List Octets :=
  let parts := o.splitOn k.ending
  if parts.getLast? = some [] then parts.dropLast else parts

/-! ### Files -/

/-- Says that something cannot be done with a file. -/
def fail (what : String) (path : Octets) (e : FileError) : Work Unit :=
  Work.complain 2 (what.toList ++ ": ".toList ++ bareName path ++
    ": ".toList ++ e.reason.toList)

/-- Looks whether a file is in order. -/
def look (k : Task) (c : Check) (path : Octets) : Work Unit := do
  match ← Work.source path with
  | .error e =>
    let what := if path = ['-'] || e = .isADirectory then "read failed"
      else "open failed"
    fail what path e
  | .ok s =>
    let o := if s.isEndless then (s.split Work.enough).1 else s.held
    let found := match k.lines o with
      | [] => none
      | l :: ls => k.disorder? 2 (k.entry l) ls
    match found, c with
    | some (n, l), .told =>
      Work.complain 1 (path ++ ':' :: Nat.toDigits 10 n ++
        ": disorder: ".toList ++ l)
    | some _, .quiet => Work.setStatus 1
    | none, _ => if s.isEndless then Work.hang

/-- The lines of files, unless one of them cannot be read. -/
def readAll (k : Task) : List Octets → Work (Option (List (List Octets)))
  | [] => return some []
  | p :: ps => do
    match ← Work.source p with
    | .error e =>
      fail (if p = ['-'] && !k.merges then "stat failed" else "read failed")
        p e
      return none
    | .ok s =>
      if s.isEndless then Work.hang
      match ← k.readAll ps with
      | some rest => return some (k.lines s.held :: rest)
      | none => return none

/-- Whether a file can be written; one that is not there is made. -/
def canWrite (path : Octets) : Work Bool := do
  let t := (← get).files
  let r ← match t.lookup path.toText with
    | .ok .directory => pure (.error .isADirectory)
    | .ok _ => pure (.ok ())
    | .error _ => Work.write path []
  match r with
  | .ok () => return true
  | .error e =>
    fail "open failed" path e
    return false

/-- Sorts files. -/
def run (k : Task) (paths : List Octets) : Work Unit := do
  let t := (← get).files
  let missing := paths.findSome? fun (p : Octets) =>
    if p = ['-'] then none
    else
      match t.lookup p.toText with
      | .error e => some (p, e)
      | .ok _ => none
  match missing with
  | some (p, e) => fail "cannot read" p e
  | none =>
    let isReady ← match k.output with
      | some p => canWrite p
      | none => pure true
    if !isReady then return
    match ← k.readAll paths with
    | none => return
    | some files =>
      let out := (k.sorted files).flatMap (· ++ [k.ending])
      match k.output with
      | none => Work.say out
      | some p =>
        let goesOn := (← get).goesOn
        if goesOn then
          match ← Work.write p out with
          | .ok () => return
          | .error e =>
            fail "fflush failed" p e
            Work.complain 2 "write error".toList

/-- The names of files that another file holds, or what is wrong with
them. -/
def names (path : Octets) (o : Octets) : Except Octets (List Octets) :=
  let parts := o.splitOn (Char.ofNat 0)
  let parts := if parts.getLast? = some [] then parts.dropLast else parts
  let bad := parts.zipIdx.find? fun p => p.1.isEmpty || p.1 = ['-']
  match bad with
  | some ([], i) =>
    .error (path ++ ':' :: Nat.toDigits 10 (i + 1) ++
      ": invalid zero-length file name".toList)
  | some _ =>
    .error ("when reading file names from stdin, no file name of ".toList ++
      "\x27-\x27 allowed".toList)
  | none =>
    if parts.isEmpty then .error ("no input from ".toList ++ named path)
    else .ok parts

end Task

/-- The options of the program. -/
def switches : List Switch :=
  [.flag 'b' "ignore-leading-blanks", Task.checkSwitch,
   .flag 'c' "", .flag 'C' "", .long "compress-program" .value,
   .long "debug" .nothing, .flag 'd' "dictionary-order",
   .flag 'f' "ignore-case", .long "files0-from" .value,
   .flag 'g' "general-numeric-sort", .flag 'i' "ignore-nonprinting",
   .valued 'k' "key", .flag 'm' "merge", .flag 'M' "month-sort",
   .flag 'n' "numeric-sort", .flag 'h' "human-numeric-sort",
   .flag 'V' "version-sort", .flag 'R' "random-sort",
   .long "random-source" .value, Task.sortSwitch, .valued 'o' "output",
   .flag 'r' "reverse", .flag 's' "stable", .long "batch-size" .value,
   .valued 'S' "buffer-size", .valued 't' "field-separator",
   .valued 'T' "temporary-directory", .flag 'u' "unique",
   .flag 'z' "zero-terminated", .long "parallel" .value, .mayHave 'y' ""]

end Sorting

open Sorting in
/-- Lines in order. -/
def sort : Program := fun c =>
  let misread (m : Misread) : Work Unit :=
    let isChoice := "invalid argument".toList.isPrefixOf m.message ||
      "ambiguous argument".toList.isPrefixOf m.message
    Work.misuse (if isChoice then 1 else 2) m.message
  { c with args := olderKeys c.args }.asked switches true misread ({} : Task)
    (fun k o => Work.accept (Work.complain 2) (k.add o))
    fun (k : Task) _ paths => do
      let refuse (m : Octets) : Work Unit := Work.complain 2 m
      let go (paths : List Octets) : Work Unit := do
        let k : Task := k.settled
        let mixed : Option Key := k.keys.find? (·.manner.isMixed)
        match mixed, k.check with
        | some key, _ => refuse (Task.clash key.manner.letters)
        | none, some w =>
          match paths, k.output with
          | _ :: p :: _, _ =>
            refuse ("extra operand ".toList ++ named p ++
              " not allowed with -".toList ++ [if w = Check.quiet then 'C' else 'c'])
          | _, some _ =>
            refuse (Task.clash [if w = Check.quiet then 'C' else 'c', 'o'])
          | paths, none => k.look w (paths.headD ['-'])
        | none, none => k.run (if paths.isEmpty then [['-']] else paths)
      match k.namesFrom, paths with
      | none, paths => go paths
      | some _, p :: _ =>
        Work.misuse 2 ("extra operand ".toList ++ named p ++
          "\nfile operands cannot be combined with --files0-from".toList)
      | some path, [] =>
        match ← Work.source path with
        | .error e => Task.fail "open failed" path e
        | .ok s =>
          match Task.names path s.held with
          | .error m => refuse m
          | .ok paths => go paths

end BitProbe.Bench

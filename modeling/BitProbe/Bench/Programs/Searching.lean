import BitProbe.Bench.Options
import BitProbe.Bench.Programs.Passing
import BitProbe.Bench.Searching.Report
import BitProbe.Bench.Shell.Pattern

/-!
Lines of files that patterns are found in.

* `Searching.Pattern`: a pattern and where it has been read;
* `Searching.Filter`: which files are left out by their names;
* `Searching.Colors.change`: colours that a variable names;
* `Searching.Task`: what the options ask for;
* `Searching.Task.file`: searching one file;
* `grep`, `egrep`, `fgrep`: the programs.
-/

namespace BitProbe.Bench

namespace Searching

/-! ### Patterns and names -/

/-- A pattern, and the file and the line that it has been read in. -/
structure Pattern where
  text : Octets
  origin : Option (Octets × Nat) := none
  deriving DecidableEq

/-- The patterns of a text, each of which is a line. -/
def Pattern.ofText (file : Option Octets) (o : Octets) : List Pattern :=
  (o.splitOn '\n').mapIdx fun i l => ⟨l, file.map (·, i + 1)⟩

/-- What is wrong with a pattern. -/
def Pattern.refusal (p : Pattern) (e : RegexError) : Octets :=
  match p.origin with
  | some (file, line) => file ++ ':' :: Nat.toDigits 10 line ++
      ": ".toList ++ e.message.toList
  | none => e.message.toList

/-- Names of files that are searched, or left out. -/
structure Filter where
  isWanted : Bool
  pattern : Octets

namespace Filter

/-- What follows each slash in a path. -/
def afterSlashes : Octets → List Octets
  | [] => []
  | '/' :: cs => cs :: afterSlashes cs
  | _ :: cs => afterSlashes cs

/-- Whether a name is covered by a pattern: all of it, or also what follows a
slash in it. -/
def covers (isWhole : Bool) (f : Filter) (name : Octets) : Bool :=
  let p := Shell.Pattern.ofCells (f.pattern.map (⟨·, false⟩))
  let ends : List Octets :=
    if isWhole then [name] else name :: afterSlashes name
  ends.any p.covers

/-- Whether a name is left out: the last filter that covers it counts, and a
name that none covers is left out if the first filter is for what is
wanted. -/
def leavesOut (isWhole : Bool) (fs : List Filter) (name : Octets) : Bool :=
  match fs.reverse.find? (·.covers isWhole name) with
  | some f => !f.isWanted
  | none => fs.head?.any (·.isWanted)

end Filter

namespace Colors

/-- Whether a text can be the numbers of a colour. -/
def isColor (o : Octets) : Bool := o.all fun c => c.isDigit || c = ';'

/-- Colours of which one has been changed. -/
def set (c : Colors) (name : Octets) (value : Option Octets) : Colors :=
  match String.ofList name, value with
  | "mt", some v => { c with selectedMatch := v, contextMatch := v }
  | "mt", none => { c with contextMatch := c.selectedMatch }
  | "ms", some v => { c with selectedMatch := v }
  | "mc", some v => { c with contextMatch := v }
  | "sl", some v => { c with selectedLine := v }
  | "cx", some v => { c with contextLine := v }
  | "fn", some v => { c with name := v }
  | "ln", some v => { c with lineNumber := v }
  | "bn", some v => { c with offset := v }
  | "se", some v => { c with separator := v }
  | "rv", _ => { c with isReversed := true }
  | "ne", _ => { c with clears := false }
  | _, _ => c

/-- Colours of which some have been changed, up to what cannot be
understood. -/
def change (c : Colors) : List Octets → Colors
  | [] => c
  | o :: os =>
    match o.splitOn '=' with
    | [name] => change (c.set name none) os
    | [name, value] =>
      if !name.isEmpty && isColor value then
        change (c.set name (some value)) os
      else c
    | _ => c

/-- The colours that variables name. -/
def ofVariables (environment : List (Octets × Octets)) : Colors :=
  let c : Colors := match environment.lookup "GREP_COLOR".toList with
    | some (d :: v) =>
      ({} : Colors).set "mt".toList (some (d :: v))
    | _ => {}
  match environment.lookup "GREP_COLORS".toList with
  | some v => c.change (v.splitOn ':')
  | none => c

end Colors

/-! ### Options -/

/-- What is done with a file that is none of lines. -/
inductive Raw where
  /-- It is only said that something has been found. -/
  | mentioned
  | searched
  /-- Nothing is found in it. -/
  | passedOver
  deriving DecidableEq

/-- What is done with a directory. -/
inductive Inward where
  | reads | enters | passesOver
  deriving DecidableEq

/-- What options ask for. -/
structure Task where
  wanted : Wanted := {}
  /-- How patterns are written, if that has been said. -/
  writing : Option Writing := none
  /-- The patterns, if there are any. -/
  patterns : Option (List Pattern) := none
  style : Style := {}
  context : Option Nat := none
  counts : Bool := false
  /-- Whether names are written instead of lines: of files in which something
  is found, or nothing. -/
  names : Option Bool := none
  isQuiet : Bool := false
  isSilent : Bool := false
  /-- Whether names stand before lines, if that has been said. -/
  isNamed : Option Bool := none
  label : Octets := "(standard input)".toList
  raw : Raw := .mentioned
  inward : Inward := .reads
  followsLinks : Bool := false
  skipsDevices : Bool := false
  filters : List Filter := []
  directoryFilters : List Filter := []
  hasColors : Bool := false

namespace Task

/-- Says what is wrong and ends. -/
def stop (status : Nat) (message : Octets) : Work (Option Task) := do
  Work.complain status message
  return none

/-- Says how the program is used. -/
def showUsage (name : Octets) : Work Unit := do
  Work.sayOn 2 ("Usage: ".toList ++ name ++
    " [OPTION]... PATTERNS [FILE]...\nTry \x27".toList ++ name ++
    " --help\x27 for more information.\n".toList)

/-- The task with another way in which patterns are written. -/
def write (k : Task) (w : Writing) : Work (Option Task) :=
  if k.writing.any (· ≠ w) then stop 2 "conflicting matchers specified".toList
  else return some { k with writing := some w }

/-- The ways to write patterns by names. -/
def writings : List (String × Writing) :=
  [("grep", .basic), ("egrep", .extended), ("fgrep", .fixed),
   ("awk", .extended), ("gawk", .extended), ("posixawk", .extended),
   ("perl", .tried)]

/-- The number of lines that a text asks for. -/
def lineCount? (o : Octets) : Option Nat :=
  match leadingInteger? false o with
  | some (.ofNat n, []) => some n
  | _ => none

/-- The task with more patterns. -/
def addPatterns (k : Task) (ps : List Pattern) : Task :=
  { k with patterns := some (k.patterns.getD [] ++ ps) }

/-- The patterns in a file, the last of which may have no end. -/
def readPatterns (k : Task) (path : Octets) : Work (Option Task) := do
  match ← Work.source path with
  | .error e => stop 2 (path ++ ": ".toList ++ e.reason.toList)
  | .ok s =>
    let o := s.held
    let ps := Pattern.ofText (some path) o
    return some (k.addPatterns
      (if o.isEmpty || o.getLast? = some '\n' then ps.dropLast else ps))

/-- The task with a filter for files, or one for each line of a file. -/
def addFilter (k : Task) (isWanted : Bool) (os : List Octets) : Task :=
  { k with filters := k.filters ++ os.map (⟨isWanted, ·⟩) }

/-- What directories may be for. -/
def inwardSwitch : Switch :=
  .choice "directories" .value [["read"], ["recurse"], ["skip"]]

/-- The task with what an option adds to it. -/
def add (name : Octets) (k : Task) (o : Opt) : Work (Option Task) := do
  let v := o.value.getD []
  let wanted (f : Wanted → Wanted) : Work (Option Task) :=
    return some { k with wanted := f k.wanted }
  let styled (f : Style → Style) : Work (Option Task) :=
    return some { k with style := f k.style }
  let lines (f : Nat → Task) : Work (Option Task) :=
    match lineCount? v with
    | some n => return some (f n)
    | none => stop 2 (v ++ ": invalid context length argument".toList)
  match o.key with
  | "basic-regexp" => k.write .basic
  | "extended-regexp" => k.write .extended
  | "fixed-strings" => k.write .fixed
  | "fixed-regexp" => k.write .fixed
  | "perl-regexp" => k.write .tried
  | "X" =>
    match writings.lookup (String.ofList v) with
    | some w => k.write w
    | none => stop 2 ("invalid matcher ".toList ++ v)
  | "regexp" => return some (k.addPatterns (Pattern.ofText none v))
  | "file" => k.readPatterns v
  | "ignore-case" => wanted fun w => { w with ignoresCase := true }
  | "y" => wanted fun w => { w with ignoresCase := true }
  | "no-ignore-case" => wanted fun w => { w with ignoresCase := false }
  | "word-regexp" => wanted fun w => { w with isWord := true }
  | "line-regexp" => wanted fun w => { w with isLine := true }
  | "null-data" => styled fun y => { y with ending := Char.ofNat 0 }
  | "no-messages" => return some { k with isSilent := true }
  | "invert-match" => styled fun y => { y with isInverted := true }
  | "max-count" =>
    match leadingInteger? false v with
    | some (.ofNat n, []) => styled fun y => { y with limit := some n }
    | some (_, []) => styled fun y => { y with limit := none }
    | _ => stop 2 "invalid max count".toList
  | "byte-offset" => styled fun y => { y with hasOffsets := true }
  | "line-number" => styled fun y => { y with isNumbered := true }
  | "with-filename" => return some { k with isNamed := some true }
  | "no-filename" => return some { k with isNamed := some false }
  | "label" => return some { k with label := v }
  | "only-matching" => styled fun y => { y with isPartial := true }
  | "quiet" => return some { k with isQuiet := true }
  | "silent" => return some { k with isQuiet := true }
  | "binary-files" =>
    match String.ofList v with
    | "binary" => return some { k with raw := .mentioned }
    | "text" => return some { k with raw := .searched }
    | "without-match" => return some { k with raw := .passedOver }
    | _ => stop 2 "unknown binary-files type".toList
  | "text" => return some { k with raw := .searched }
  | "I" => return some { k with raw := .passedOver }
  | "directories" =>
    match inwardSwitch.choose v with
    | .ok w =>
      return some { k with
        followsLinks := true
        inward := match String.ofList w with
          | "recurse" => .enters
          | "skip" => .passesOver
          | _ => .reads }
    | .error m =>
      Work.complain 1 m
      showUsage name
      return none
  | "recursive" =>
    return some { k with inward := .enters, followsLinks := false }
  | "dereference-recursive" =>
    return some { k with inward := .enters, followsLinks := true }
  | "devices" =>
    match String.ofList v with
    | "read" => return some { k with skipsDevices := false }
    | "skip" => return some { k with skipsDevices := true }
    | _ => stop 2 "unknown devices method".toList
  | "include" => return some (k.addFilter true [v])
  | "exclude" => return some (k.addFilter false [v])
  | "exclude-from" =>
    match ← Work.source v with
    | .error e => stop 2 (v ++ ": ".toList ++ e.reason.toList)
    | .ok s =>
      return some (k.addFilter false
        ((s.held.splitOn '\n').filter fun l => !l.isEmpty))
  | "exclude-dir" =>
    let p := Text.dropRight (· = '/') v
    return some { k with
      directoryFilters := k.directoryFilters ++
        [⟨false, if p.isEmpty then v else p⟩] }
  | "files-without-match" => return some { k with names := some false }
  | "files-with-matches" => return some { k with names := some true }
  | "count" => return some { k with counts := true }
  | "initial-tab" => styled fun y => { y with isTabbed := true }
  | "null" => styled fun y => { y with endsNames := true }
  | "after-context" =>
    lines fun n => { k with style := { k.style with after := some n } }
  | "before-context" =>
    lines fun n => { k with style := { k.style with before := some n } }
  | "context" => lines fun n => { k with context := some n }
  | "group-separator" => styled fun y => { y with divider := some v }
  | "no-group-separator" => styled fun y => { y with divider := none }
  | "color" => return some { k with hasColors := isAlways o.value }
  | "colour" => return some { k with hasColors := isAlways o.value }
  | "unix-byte-offsets" =>
    Work.complain 0
      "warning: --unix-byte-offsets (-u) is obsolete".toList
    return some k
  | "V" =>
    Work.sayLine (versionText (plainName name))
    return none
  | key =>
    if key.toList.all Char.isDigit then
      lines fun n => { k with context := some n }
    else return some k
where
  /-- Whether colours are wanted wherever the output goes. -/
  isAlways (v : Option Octets) : Bool :=
    v.any (["always", "yes", "force"].map String.toList).contains

/-- The task with what it asks for put together. -/
def settled (k : Task) (plain : Bool) (environment : List (Octets × Octets))
    (paths : Nat) : Task :=
  let named := match k.isNamed with
    | some b => b
    | none => 1 < paths
  { k with
    wanted := { k.wanted with
      writing := k.writing.getD .basic
      plain }
    style := { k.style with
      plain
      before := k.style.before.or k.context
      after := k.style.after.or k.context
      isText := k.raw = .searched
      isNamed := named
      colors := if k.hasColors then some (Colors.ofVariables environment)
        else none } }

/-- The patterns of a task, each of them once. -/
def distinct (k : Task) : List Pattern :=
  ((k.patterns.getD []).foldl (fun (ps : List Pattern) p =>
    if ps.any (·.text = p.text) then ps else p :: ps) []).reverse

/-- A pattern that is tried way by way, which is the only one; nothing if
something is wrong with it. -/
def trialFinder (k : Task) : Work (Option Finder) := do
  match k.distinct with
  | [] => return some ⟨[], false, false, none⟩
  | [p] =>
    match k.wanted.trial p.text with
    | .ok r => return some ⟨[], false, false, some r⟩
    | .error e =>
      Work.complain 2 e.message.toList
      return none
  | _ =>
    Work.complain 2 "the -P option only supports a single pattern".toList
    return none

/-- The patterns of a task that are ready; nothing if something is wrong with
one of them. -/
def finder (k : Task) : Work (Option Finder) := do
  let w := k.wanted
  let ps := k.distinct
  let read := ps.map fun p => (p, w.engine p.text)
  read.forM fun (p, r) =>
    match r with
    | .ok _ => return
    | .error e => Work.complain 2 (p.refusal e)
  let engines := read.filterMap fun (_, r) => r.toOption
  if engines.length < ps.length then return none
  let remarks := ps.flatMap fun p => w.remarks p.text
  (remarks.takeWhile (· ≠ .bareClass)).forM fun r =>
    Work.complain 0 r.message
  if remarks.contains .bareClass then
    Work.complain 2 Remark.bareClass.message
    return none
  return some { engines, isLine := w.isLine, isWord := w.isWord }

/-! ### Files -/

/-- What has become of the files that have been searched. -/
structure Outcome where
  /-- Whether a line has been selected. -/
  hasFound : Bool := false
  hasFailed : Bool := false
  /-- Whether lines have been written. -/
  isUsed : Bool := false
  /-- Whether no more files are searched. -/
  isOver : Bool := false

/-- Says why a file cannot be searched, unless that is not wanted. -/
def fail (k : Task) (message : Octets) (r : Outcome) : Work Outcome := do
  if !k.isSilent then Work.complain 2 message
  return { r with hasFailed := true }

/-- How many octets are looked at to see whether a file is one of lines. -/
def lookedAt : Nat := 98304

/-- Searches a stream that has a name. -/
def stream (k : Task) (f : Finder) (isInput canGoBack : Bool) (title : Octets)
    (s : Stream) (r : Outcome) : Work Outcome := do
  let y := k.style
  let null := Char.ofNat 0
  let onlyFirst := k.isQuiet || k.names.isSome
  let isQuiet := onlyFirst || k.counts
  let o := if s.isEndless then (s.split Work.enough).1 else s.held
  let isRaw := k.raw ≠ .searched && y.ending ≠ null &&
    (o.take lookedAt).contains null
  let isPassedOver := isRaw && k.raw = .passedOver
  let lines := if isPassedOver then #[]
    else linesOf y.ending
      (if isRaw then o.map fun c => if c = null then '\n' else c else o)
  let text : Report.Text :=
    { finder := f, style := y, title, width := y.width s.fileSize, lines }
  let p := Report.ofText text (isQuiet || isRaw)
    (onlyFirst || isRaw && !k.counts) r.isUsed
  let isFull := p.isFull text onlyFirst
  if s.isEndless && !isFull then
    if p.written.isEmpty then Work.hang
    else Work.pour { held := p.text, forever := p.text }
    return { r with isOver := true }
  Work.say p.text
  if !isQuiet && k.raw = .mentioned && (p.hasLeftOut || isRaw && 0 < p.selected) then
    Work.complain 0 (title ++ ": binary file matches".toList)
  if isInput && canGoBack && !k.isQuiet && y.limit.any (· ≤ p.selected) then
    let read := match lines[p.afterLast]? with
      | some l => l.offset
      | none => o.length
    Work.leave (s.split (if p.afterLast = 0 then 0 else read)).2
  let found : Bool := 0 < p.selected
  if k.counts && !onlyFirst then
    Work.say ((if y.isNamed then y.namedAs title ':' else []) ++
      Nat.toDigits 10 p.selected ++ ['\n'])
  if !k.isQuiet && k.names = some found then
    Work.say (y.name title ++ [if y.endsNames then null else '\n'])
  return { r with
    hasFound := r.hasFound || found
    isUsed := p.isUsed
    isOver := k.isQuiet && found }

/-- Searches what a path leads to, which is not a directory. -/
def file (k : Task) (c : Call) (f : Finder) (path : Octets)
    (r : Outcome) : Work Outcome := do
  let isInput := path = ['-']
  let title := if isInput then k.label else path
  let isQuiet := k.isQuiet || k.names.isSome || k.counts
  let isOutput := match c.placeOf path, c.outputPlace with
    | some p, some q => p.1 = q.1
    | _, _ => false
  let place := (c.files.locate path.toText).toOption
  let isDevice := match place.bind c.files.node? with
    | some .directory => false
    | some (.file _) => false
    | some (.program _) => false
    | some (.way 0) => c.inputPlace.isNone
    | some _ => true
    | none => false
  if k.skipsDevices && !isInput && isDevice then return r
  match ← Work.source path with
  | .error .isADirectory =>
    let r ← k.fail (title ++ ": ".toList ++
      FileError.isADirectory.reason.toList) r
    k.stream f isInput false title .empty r
  | .error e => k.fail (title ++ ": ".toList ++ e.reason.toList) r
  | .ok s =>
    if isOutput && !isQuiet && k.style.limit.all (1 < ·) then
      k.fail (title ++ ": input file is also the output".toList) r
    else k.stream f isInput c.inputPlace.isSome title s r

/-- The path of something in a directory. -/
def inside (path name : Octets) : Octets :=
  if path.isEmpty then name
  else if path.getLast? = some '/' then path ++ name
  else path ++ '/' :: name

/-- A path with one slash at its end at most. -/
def trimmed (path : Octets) : Octets :=
  let p := Text.dropRight (· = '/') path
  if p.length = path.length || p.isEmpty then path else p ++ ['/']

/-- Searches everything in a directory, so many levels of it. Links are not
followed unless that is wanted. -/
def directory (k : Task) (c : Call) (f : Finder) :
    Nat → Octets → List String → Outcome → Work Outcome
  | 0, _, _, r => return r
  | fuel + 1, path, place, r =>
    let k := { k with
      style := { k.style with isNamed := k.isNamed.getD true } }
    let names := ((c.files.children place).map Octets.ofString).mergeSort
      fun a b => !decide (b < a)
    names.foldlM (fun r name => do
      if r.isOver then return r
      let here := place ++ [Octets.toText name]
      let below := inside path name
      let shown := c.files.node? here
      let isLink := match shown with
        | some (.link _) => true
        | _ => false
      let target := if isLink then (c.files.lookup (Octets.toText below)).toOption
        else shown
      let isWhole := true
      match isLink && !k.followsLinks, target with
      | true, _ => return r
      | _, some .directory =>
        if Filter.leavesOut isWhole k.directoryFilters name then return r
        else
          let real := if isLink then
              (c.files.locate (Octets.toText below)).toOption.getD here
            else here
          if real.isPrefixOf place then
            if !k.isSilent then
              Work.complain 2 (below ++
                ": warning: recursive directory loop".toList)
            return { r with hasFailed := true }
          else k.directory c f fuel below real r
      | _, some (.file _) =>
        if Filter.leavesOut isWhole k.filters name then return r
        else k.file c f below r
      | _, some (.program _) =>
        if Filter.leavesOut isWhole k.filters name then return r
        else k.file c f below r
      | _, some _ => return r
      | _, none =>
        if Filter.leavesOut isWhole k.filters name then return r
        else k.file c f below r) r

/-- Searches what a path of the arguments leads to. -/
def path (k : Task) (c : Call) (f : Finder) (p : Octets) (r : Outcome) :
    Work Outcome := do
  let t := c.files
  let isInput : Bool := p = ['-']
  match isInput, t.lookup p.toText with
  | false, .ok .directory =>
    let isLeftOut := Filter.leavesOut false k.directoryFilters p
    match k.inward with
    | .passesOver => return r
    | .reads => if isLeftOut then return r else k.file c f p r
    | .enters =>
      if isLeftOut then return r
      else
        let place := (t.locate p.toText).toOption.getD []
        k.directory c f (t.nodes.length + 1) (trimmed p) place r
  | _, _ =>
    if !isInput && Filter.leavesOut false k.filters p then return r
    else k.file c f p r

/-- Searches what paths lead to, one after another. -/
def paths (k : Task) (c : Call) (f : Finder) :
    List Octets → Outcome → Work Outcome
  | [], r => return r
  | p :: ps, r => do
    let goesOn := (← get).goesOn
    if r.isOver || !goesOn then return r
    let r ← k.path c f p r
    k.paths c f ps r

/-- Searches files for what a task asks for. -/
def run (k : Task) (c : Call) (args : List Octets) : Work Unit := do
  match environmentWarning, k.hasColors with
  | some m, true => Work.complain 0 m
  | _, _ => pure ()
  let findsAll := k.patterns.any (·.all (·.text.isEmpty)) &&
    k.patterns ≠ some [] && !k.wanted.isLine && !k.wanted.isWord
  let isNothing := k.names ≠ some false &&
    (k.style.limit = some 0 || k.style.isInverted && findsAll)
  if isNothing then
    Work.setStatus 1
    return
  let ready ← if k.wanted.writing = .tried then k.trialFinder else k.finder
  match ready with
  | none => return
  | some f =>
    let r ← match args, k.inward with
      | [], .enters =>
        k.directory c f (c.files.nodes.length + 1) [] c.files.workDir {}
      | [], _ => k.paths c f [['-']] {}
      | args, _ => k.paths c f args {}
    if (← get).goesOn then
      Work.setStatus (if r.isOver then 0 else if r.hasFailed then 2
        else if r.hasFound then 0 else 1)
where
  /-- What is said about a variable that names colours in an old way. -/
  environmentWarning : Option Octets :=
    match c.environment.lookup "GREP_COLOR".toList with
    | some (d :: v) => some ("warning: GREP_COLOR=\x27".toList ++ d :: v ++
        "\x27 is deprecated; use GREP_COLORS=\x27mt=".toList ++ d :: v ++ ['\x27'])
    | _ => none

end Task

/-- The options of the programs. -/
def switches : List Switch :=
  [.flag 'G' "basic-regexp", .flag 'E' "extended-regexp",
   .long "fixed-regexp" .nothing, .flag 'F' "fixed-strings",
   .flag 'P' "perl-regexp", .valued 'A' "after-context",
   .valued 'B' "before-context", .long "binary-files" .value,
   .flag 'b' "byte-offset", .valued 'C' "context",
   .long "color" .maybe, .long "colour" .maybe, .flag 'c' "count",
   .valued 'D' "devices", .valued 'd' "directories",
   .long "exclude" .value, .long "exclude-from" .value,
   .long "exclude-dir" .value, .valued 'f' "file",
   .flag 'l' "files-with-matches", .flag 'L' "files-without-match",
   .long "group-separator" .value, .long "include" .value,
   .flag 'i' "ignore-case", .long "no-ignore-case" .nothing,
   .flag 'T' "initial-tab", .long "label" .value,
   .long "line-buffered" .nothing, .flag 'n' "line-number",
   .flag 'x' "line-regexp", .valued 'm' "max-count",
   .flag 'h' "no-filename", .long "no-group-separator" .nothing,
   .flag 's' "no-messages", .flag 'Z' "null", .flag 'z' "null-data",
   .flag 'o' "only-matching", .flag 'q' "quiet", .flag 'r' "recursive",
   .flag 'R' "dereference-recursive", .valued 'e' "regexp",
   .flag 'v' "invert-match", .long "silent" .nothing, .flag 'a' "text",
   .flag 'U' "binary", .flag 'u' "unix-byte-offsets",
   .flag 'H' "with-filename", .flag 'w' "word-regexp", .flag 'I' "",
   .flag 'y' "", .valued 'X' "", .flag 'V' ""] ++ Switch.numbers

end Searching

open Searching in
/-- Lines that patterns are found in. -/
def grep : Program := fun c =>
  let misread (m : Misread) : Work Unit := do
    Work.complain 2 m.message
    Task.showUsage c.name
  c.asked switches true misread ({} : Task) (Task.add c.name)
    fun k _ others => do
      let plain := isPlainLocale c.environment
      match k.patterns, others with
      | some _, paths =>
        (k.settled plain c.environment paths.length).run c paths
      | none, [] =>
        Task.showUsage c.name
        Work.setStatus 2
      | none, text :: paths =>
        let k := k.addPatterns (Pattern.ofText none text)
        (k.settled plain c.environment paths.length).run c paths

/-- Lines that patterns are found in, which are written in another way. -/
def egrep : Program := fun c =>
  grep { c with name := "grep".toList, args := ['-', 'E'] :: c.args }

/-- Lines that texts are found in. -/
def fgrep : Program := fun c =>
  grep { c with name := "grep".toList, args := ['-', 'F'] :: c.args }

end BitProbe.Bench

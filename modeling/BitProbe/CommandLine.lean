import BitProbe.Report.Format
import BitProbe.Settings

/-!
The command line.

Arguments are options, which start with a dash, and two others, in this
order: a listing and the name of a family. An option has a long name, and
some have a letter as well. A value follows its option, in the same argument
or in the next one. Nothing may be given twice. After two dashes no argument
is an option.

* `Request`: what a run is asked to do;
* `CommandLine.Key`, `CommandLine.Draft`: what arguments can say, and what
  they have said so far;
* `CommandLine.read`: what arguments ask for.
-/

namespace BitProbe

/-- What a run is asked to do. -/
structure Request where
  /-- The path of the listing. -/
  listing : String
  /-- The name of the family. -/
  architecture : String
  goal : Goal := .opcodes
  format : ReportFormat := .plain
  /-- The path that the report is written to. -/
  output : Option String := none
  /-- The path of the settings. -/
  settings : Option String := none
  template : Option String := none
  patchOffset : Option UInt64 := none
  maxLines : Option UInt64 := none
  timeoutMs : Option UInt64 := none
  parallel : Bool := false
  verbose : Bool := false
  deriving DecidableEq

/-- Settings with the values that a request has for them. A template and an
offset change the profile of the family. -/
def Request.adjust (r : Request) (c : Settings) : Settings :=
  let changes : List ProfileChange :=
    if r.template.isSome || r.patchOffset.isSome then
      [{ architecture := r.architecture
         template := r.template
         patchOffset := r.patchOffset }]
    else []
  { c with
    maxLines := r.maxLines.getD c.maxLines
    timeoutMs := r.timeoutMs.getD c.timeoutMs
    parallel := c.parallel || r.parallel
    profiles := c.profiles ++ changes }

namespace CommandLine

/-- What an argument can say. -/
inductive Key where
  | listing
  | architecture
  | mode
  | format
  | output
  | config
  | template
  | patchOffset
  | maxLines
  | timeoutMs
  | parallel
  | verbose
  | version
  | help
  deriving DecidableEq

namespace Key

/-- The options by their long names. -/
def long : List (String × Key) :=
  [("mode", mode), ("format", format), ("output", output),
   ("config", config), ("template", template),
   ("patch-offset", patchOffset), ("max-lines", maxLines),
   ("timeout-ms", timeoutMs), ("parallel", parallel), ("verbose", verbose),
   ("version", version), ("help", help)]

/-- The options by their letters. -/
def short : List (Char × Key) :=
  [('m', mode), ('f', format), ('o', output), ('c', config), ('v', verbose),
   ('V', version), ('h', help)]

/-- Whether an option takes a value. -/
def takesValue (k : Key) : Bool :=
  k ∉ [parallel, verbose, version, help]

end Key

/-- What arguments have said so far. -/
structure Draft where
  listing : Option String := none
  architecture : Option String := none
  goal : Option Goal := none
  format : Option ReportFormat := none
  output : Option String := none
  settings : Option String := none
  template : Option String := none
  patchOffset : Option UInt64 := none
  maxLines : Option UInt64 := none
  timeoutMs : Option UInt64 := none
  parallel : Bool := false
  verbose : Bool := false

/-- What arguments ask for. -/
inductive Outcome where
  | request (r : Request)
  | version
  | help
  /-- The arguments cannot be understood. -/
  | misuse
  deriving DecidableEq

/-- A path, which is not empty. -/
def path? (s : String) : Option String :=
  if s.isEmpty then none else some s

/-- A number of 64 bits, which may have a plus sign. -/
def number? (s : String) : Option UInt64 :=
  let digits := match s.toList with
    | '+' :: cs => cs
    | cs => cs
  match Text.decimal? digits with
  | some n => if n < UInt64.size then some (UInt64.ofNat n) else none
  | none => none

/-- A value for something that has none yet. -/
def fresh? {α : Type} (old : Option α) (value : Option α) :
    Option (Option α) :=
  match old, value with
  | none, some a => some (some a)
  | _, _ => none

namespace Draft

/-- A draft that says one thing more, if that can be said. -/
def put? (d : Draft) (k : Key) (v : String) : Option Draft :=
  match k with
  | .listing =>
    (fresh? d.listing (path? v)).map fun x => { d with listing := x }
  | .architecture =>
    (fresh? d.architecture (some v)).map fun x => { d with architecture := x }
  | .mode => (fresh? d.goal (Goal.named? v)).map fun x => { d with goal := x }
  | .format =>
    (fresh? d.format (ReportFormat.named? v)).map fun x =>
      { d with format := x }
  | .output => (fresh? d.output (path? v)).map fun x => { d with output := x }
  | .config =>
    (fresh? d.settings (path? v)).map fun x => { d with settings := x }
  | .template =>
    (fresh? d.template (path? v)).map fun x => { d with template := x }
  | .patchOffset =>
    (fresh? d.patchOffset (number? v)).map fun x =>
      { d with patchOffset := x }
  | .maxLines =>
    (fresh? d.maxLines (number? v)).map fun x => { d with maxLines := x }
  | .timeoutMs =>
    (fresh? d.timeoutMs (number? v)).map fun x => { d with timeoutMs := x }
  | .parallel => if d.parallel then none else some { d with parallel := true }
  | .verbose => if d.verbose then none else some { d with verbose := true }
  | .version => none
  | .help => none

/-- The argument without an option that is still to come. -/
def nextPlain? (d : Draft) : Option Key :=
  if d.listing.isNone then some .listing
  else if d.architecture.isNone then some .architecture
  else none

/-- A draft with an argument that is no option. -/
def putPlain? (d : Draft) (v : String) : Option Draft :=
  d.nextPlain?.bind (d.put? · v)

/-- The request that a draft is, if nothing is missing. -/
def finish (d : Draft) : Outcome :=
  match d.listing, d.architecture with
  | some listing, some architecture =>
    .request
      { listing, architecture
        goal := d.goal.getD .opcodes
        format := d.format.getD .plain
        output := d.output
        settings := d.settings
        template := d.template
        patchOffset := d.patchOffset
        maxLines := d.maxLines
        timeoutMs := d.timeoutMs
        parallel := d.parallel
        verbose := d.verbose }
  | _, _ => .misuse

end Draft

/-- What an argument of options leads to. -/
inductive Progress where
  | draft (d : Draft)
  /-- The value of an option is the next argument. -/
  | awaiting (d : Draft) (k : Key)
  | stop (o : Outcome)

/-- A draft that says one thing more. -/
def said (d : Draft) (k : Key) (v : String) : Progress :=
  match d.put? k v with
  | some d => .draft d
  | none => .stop .misuse

/-- A draft with an option without a value. -/
def flag (d : Draft) (k : Key) : Progress :=
  match k with
  | .version => .stop .version
  | .help => .stop .help
  | k => said d k ""

/-- A draft with an option by its long name. -/
def readLong (d : Draft) (cs : List Char) : Progress :=
  let name := cs.takeWhile (· ≠ '=')
  match Key.long.lookup (String.ofList name), cs.drop name.length with
  | none, _ => .stop .misuse
  | some k, [] => if k.takesValue then .awaiting d k else flag d k
  | some k, _ :: value =>
    if k.takesValue then said d k (String.ofList value) else .stop .misuse

/-- A draft with options by their letters. The first that takes a value has
what is left of the argument as its value, without an equals sign in
front. -/
def readShort (d : Draft) : List Char → Progress
  | [] => .draft d
  | c :: cs =>
    match Key.short.lookup c with
    | none => .stop .misuse
    | some k =>
      if k.takesValue then
        match cs with
        | [] => .awaiting d k
        | '=' :: value => said d k (String.ofList value)
        | value => said d k (String.ofList value)
      else
        match flag d k with
        | .draft d => readShort d cs
        | p => p

/-- What arguments none of which is an option ask for. -/
def readPlain (d : Draft) : List String → Outcome
  | [] => d.finish
  | a :: as =>
    match d.putPlain? a with
    | some d => readPlain d as
    | none => .misuse

/-- What the rest of the arguments asks for, the first of them being the
value of an option if one is given. -/
def readFrom : Option Key → Draft → List String → Outcome
  | none, d, [] => d.finish
  | some _, _, [] => .misuse
  | k, d, a :: as =>
    match a.toList, k with
    | ['-', '-'], none => readPlain d as
    | '-' :: _ :: _, some _ => .misuse
    | '-' :: '-' :: cs, none =>
      match readLong d cs with
      | .draft d => readFrom none d as
      | .awaiting d k => readFrom (some k) d as
      | .stop o => o
    | '-' :: c :: cs, none =>
      match readShort d (c :: cs) with
      | .draft d => readFrom none d as
      | .awaiting d k => readFrom (some k) d as
      | .stop o => o
    | _, some k =>
      match d.put? k a with
      | some d => readFrom none d as
      | none => .misuse
    | _, none =>
      match d.putPlain? a with
      | some d => readFrom none d as
      | none => .misuse

/-- What arguments ask for. -/
def read (args : List String) : Outcome :=
  readFrom none {} args

/-! ### Numbers -/

/-- A number may have a plus sign, and no minus sign. -/
example : number? "+5" = some 5 ∧ number? "-5" = none ∧ number? "" = none := by
  decide

end CommandLine

end BitProbe

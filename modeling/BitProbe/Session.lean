import BitProbe.CommandLine
import BitProbe.Disassembler
import BitProbe.Settings.Codec
import BitProbe.Survey

/-!
Whole runs.

A run loads settings, looks whether the disassembler can be used, reads the
listing, makes the survey and writes the report. It ends at the first
failure, which is told together with what was being done.

* `Trouble`, `Trouble.text`: a failure in its context;
* `Ending`: the status and the outputs of a run;
* `Request.paths`, `Settings.paths`: the files that a run may need;
* `Request.perform`: what a request leads to;
* `Session.run`: what arguments lead to.
-/

namespace BitProbe

/-- A failure: what could not be done, and why, from the nearest reason to
the farthest. -/
structure Trouble where
  summary : String
  causes : List String := []
  deriving DecidableEq

namespace Trouble

/-- A failure without a context. -/
def bare (e : Failure) : Trouble := ⟨e.message, e.causes⟩

/-- A failure in a context. -/
def inContext (context : String) (e : Failure) : Trouble :=
  ⟨context, e.message :: e.causes⟩

/-- A text with the lines after the first one indented. -/
def indentRest (indent : String) (s : String) : String :=
  String.ofList
    (('\n' :: indent.toList).intercalate (s.toList.splitOn '\n'))

/-- A cause behind its number, if there are several. -/
def causeText (numbered : Bool) (n : Nat) (cause : String) : String :=
  if numbered then
    String.ofList ((Text.decimal n).leftpad 5 ' ') ++ ": " ++
      indentRest "       " cause
  else "    " ++ indentRest "    " cause

/-- A failure and its causes as text. -/
def text (t : Trouble) : String :=
  let numbered := 1 < t.causes.length
  let causes := t.causes.zipIdx.map fun c => "\n" ++ causeText numbered c.2 c.1
  "Error: " ++ t.summary ++
    (if causes.isEmpty then "" else "\n\nCaused by:" ++ String.join causes) ++
    "\n"

end Trouble

/-- The status and the outputs of a run. -/
structure Ending where
  status : Nat
  out : String := ""
  err : String := ""
  deriving DecidableEq

/-- Puts a failure in a context. -/
def withContext {α : Type} (context : String) (r : Except Failure α) :
    Except Trouble α :=
  r.mapError (Trouble.inContext context)

namespace Request

variable {σ : Type}

/-- The directory of a path. -/
def directoryOf (path : String) : String :=
  let names := (FileTree.pathNames path).dropLast
  if names.isEmpty then "." else String.intercalate "/" names ++ "/"

/-- The paths that a request names: what is read, and the directory that the
report is written to. -/
def paths (r : Request) : List String :=
  r.listing :: r.settings.toList ++ r.template.toList ++
    r.output.toList.map directoryOf

/-- The settings of a request: those in its file, adjusted and validated. -/
def load (r : Request) (t : FileTree) : Except Trouble Settings := do
  let c ← match r.settings with
    | some path =>
      withContext ("Failed to load config " ++ path) (Settings.ofFile t path)
    | none => .ok {}
  let c := r.adjust c
  withContext "Invalid configuration" c.validate
  return c

/-- The family of a request, if its profile can be used. -/
def family (r : Request) (c : Settings) (t : FileTree) :
    Except Trouble Architecture := do
  let a ← (Architecture.ofName r.architecture).mapError Trouble.bare
  withContext ("Unusable " ++ a.display ++ " profile")
    ((c.profileFor a).validate t)
  return a

/-- The listing of a request, which has an instruction at least. -/
def entries (r : Request) (c : Settings) (t : FileTree) :
    Except Trouble Listing := do
  let l ← withContext ("Failed to read corpus " ++ r.listing)
    (Listing.ofFile c.maxLines.toNat t r.listing)
  if l.entries.isEmpty then
    throw ⟨"No usable instructions in " ++ r.listing ++ " (" ++
      toString l.skipped.length ++ " lines skipped)", []⟩
  else return l

/-- Writes a report to where a request wants it, which may be one of the
outputs by its path. -/
def deliver (r : Request) (text : String) (w : World σ) :
    Except Trouble Ending × World σ :=
  match r.output, r.output.map w.1.lookup with
  | none, _ => (.ok { status := 0, out := text }, w)
  | some _, some (.ok (.way 1)) => (.ok { status := 0, out := text }, w)
  | some _, some (.ok (.way 2)) => (.ok { status := 0, err := text }, w)
  | some path, _ =>
    match w.1.write path (Text.Utf8.encode text.toList) with
    | .ok t => (.ok { status := 0 }, (t, w.2))
    | .error e =>
      (.error ⟨"Failed to write " ++ path, [e.message]⟩, w)

/-- What a request leads to. -/
def perform (r : Request) (tools : Tools σ) (w : World σ) :
    Except Trouble Ending × World σ :=
  match r.load w.1 with
  | .error e => (.error e, w)
  | .ok c =>
    match r.family c w.1 with
    | .error e => (.error e, w)
    | .ok a =>
      let d := Disassembler.ofSettings c a
      match d.check tools w with
      | (.error e, w) =>
        (.error (.inContext
          ("Disassembler \x27" ++ d.profile.tool ++ "\x27 is not usable") e),
          w)
      | (.ok (), w) =>
        match r.entries c w.1 with
        | .error e => (.error e, w)
        | .ok l =>
          let (report, w) := Survey.run (.ofSettings c a) r.goal
            (d.oracle tools) l w
          match withContext ("Failed to render " ++ r.format.name ++ " report")
              (report.render r.format) with
          | .error e => (.error e, w)
          | .ok text => r.deliver text w

end Request

/-- The paths that the profiles of settings name. -/
def Settings.paths (c : Settings) : List String :=
  Architecture.names.flatMap fun n =>
    let p := c.profileFor n.2
    p.toolArgs ++
      match p.invocation with
      | .raw => []
      | .templated template _ => [template]

namespace Session

/-- The name and the version of the program. -/
def versionText : String := "bitsieve 0.1.0\n"

/-- How the program is called. -/
def usageText : String :=
  "Usage: bitsieve [OPTIONS] <CORPUS> <ARCH>\n"

/-- The status of a run that fails, and of one whose arguments cannot be
understood. -/
def failureStatus : Nat := 1

@[inherit_doc failureStatus]
def misuseStatus : Nat := 2

/-- What arguments lead to. -/
def run {σ : Type} (tools : Tools σ) (args : List String) (w : World σ) :
    Ending × World σ :=
  match CommandLine.read args with
  | .version => ({ status := 0, out := versionText }, w)
  | .help => ({ status := 0, out := usageText }, w)
  | .misuse => ({ status := misuseStatus, err := usageText }, w)
  | .request r =>
    match r.perform tools w with
    | (.ok e, w) => (e, w)
    | (.error t, w) => ({ status := failureStatus, err := t.text }, w)

end Session

end BitProbe

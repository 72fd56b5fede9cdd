import BitProbe.Bench.Dates
import BitProbe.Bench.Programs.Passing

/-!
Telling times.

* `Dating`: what a time is told by, and how;
* `date`: the program.
-/

namespace BitProbe.Bench

/-- What times are told, and how. -/
structure Dating where
  /-- A text that tells the time. -/
  told : Option Octets := none
  /-- A file with such texts, and one that has the time. -/
  list : Option Octets := none
  reference : Option Octets := none
  /-- A text that tells the time to be set. -/
  setting : Option Octets := none
  resolution : Bool := false
  universal : Bool := false
  format : Option Octets := none

namespace Dating

/-- The formats of a standard by how exact they are. -/
def standardFormats : List (String × String) :=
  [("hours", "%Y-%m-%dT%H%:z"), ("minutes", "%Y-%m-%dT%H:%M%:z"),
   ("date", "%Y-%m-%d"), ("seconds", "%Y-%m-%dT%H:%M:%S%:z"),
   ("ns", "%Y-%m-%dT%H:%M:%S,%N%:z")]

/-- The formats of another standard by how exact they are. -/
def spacedFormats : List (String × String) :=
  [("date", "%Y-%m-%d"), ("seconds", "%Y-%m-%d %H:%M:%S%:z"),
   ("ns", "%Y-%m-%d %H:%M:%S.%N%:z")]

/-- The format of the usual telling. -/
def usualFormat : Octets := "%a %b %e %H:%M:%S %Z %Y".toList

/-- What one more option asks for. A time is told in one format. -/
def add (k : Dating) (o : Opt) : Except Octets Dating :=
  let inFormat (f : String) : Except Octets Dating :=
    if k.format.isSome then .error "multiple output formats specified".toList
    else .ok { k with format := some f.toList }
  let byWord (table : List (String × String)) (usual : String) :
      Except Octets Dating :=
    inFormat ((table.lookup ((o.value.map String.ofList).getD usual)).getD "")
  match o.key with
  | "date" => .ok { k with told := o.value }
  | "file" => .ok { k with list := o.value }
  | "reference" => .ok { k with reference := o.value }
  | "set" => .ok { k with setting := o.value }
  | "resolution" => .ok { k with resolution := true }
  | "iso-8601" => byWord standardFormats "date"
  | "rfc-3339" => byWord spacedFormats "date"
  | "rfc-email" | "rfc-822" | "rfc-2822" => inFormat "%a, %d %b %Y %H:%M:%S %z"
  | "utc" | "uct" | "universal" => .ok { k with universal := true }
  | _ => .ok k

/-- Tells a time. -/
def tell (k : Dating) (zone : Zone) (time : Int) : Work Unit :=
  Work.sayLine ((Moment.of zone time).text (k.format.getD usualFormat))

/-- Tells the time that a text tells. -/
def tellText (k : Dating) (zone : Zone) (v : Octets) : Work Unit := do
  match Dates.read? zone (← get).files.now v with
  | some n => k.tell zone n
  | none => Work.complain 1 ("invalid date ".toList ++ quoted v)

/-- Tells the times that are asked for, or says that the time cannot be
set. -/
def run (k : Dating) (zone : Zone) (digits : Option Octets) : Work Unit := do
  let zone := if k.universal then Zone.universal else zone
  let now := (← get).files.now
  let set (n : Option Int) (v : Octets) : Work Unit := do
    match n with
    | none => Work.complain 1 ("invalid date ".toList ++ quoted v)
    | some n =>
      Work.complain 1 "cannot set date: Operation not permitted".toList
      k.tell zone n
  match digits, k.setting, k.list, k.reference, k.told with
  | some v, _, _, _, _ => set (Dates.stamp? zone now v) v
  | none, some v, _, _, _ => set (Dates.read? zone now v) v
  | none, none, some p, _, _ =>
    match ← Work.source p with
    | .error r => Work.complain 1 (about p r.reason.toList)
    | .ok s =>
      (Octets.linesBy '\n' s.held).forM fun l =>
        k.tellText zone (Octets.withoutEnd '\n' l)
  | none, none, none, some p, _ =>
    let t := (← get).files
    match t.lookup p.toText, t.locate p.toText with
    | .ok _, .ok q => k.tell zone (t.timesOf q).modified
    | .error r, _ => Work.complain 1 (about p r.reason.toList)
    | _, .error r => Work.complain 1 (about p r.reason.toList)
  | none, none, none, none, some v => k.tellText zone v
  | none, none, none, none, none =>
    let exact : Dating := { k with format := some "%s.%N".toList }
    if k.resolution then exact.tell zone 1 else k.tell zone now

end Dating

/-- Tells the time, or another one. -/
def date : Program := fun c =>
  let switches : List Switch :=
    [.valued 'd' "date", .long "debug" .nothing, .valued 'f' "file",
     { letter := some 'I', word := "iso-8601", takes := .maybe
       choices := Dating.standardFormats.map fun f => [f.1] },
     .valued 'r' "reference", .flag 'R' "rfc-email", .long "rfc-822" .nothing,
     .long "rfc-2822" .nothing,
     .choice "rfc-3339" .value (Dating.spacedFormats.map fun f => [f.1]),
     .long "resolution" .nothing, .valued 's' "set", .flag 'u' "utc",
     .long "uct" .nothing, .long "universal" .nothing]
  let zone := Zone.ofVariables c.environment
  c.asked switches true (fun m => Work.misuse 1 m.message) ({} : Dating)
    (fun k o => Work.accept (Work.complain 1) (k.add o)) fun k _ args =>
    let printing := [k.told.isSome, k.list.isSome, k.reference.isSome,
      k.resolution].count true
    if 1 < printing then
      Work.misuse 1 ("the options to specify dates for printing are " ++
        "mutually exclusive").toList
    else if 0 < printing && k.setting.isSome then
      Work.misuse 1 ("the options to print and set the time may not be " ++
        "used together").toList
    else
      match args with
      | [] => k.run zone none
      | [a] =>
        match a with
        | '+' :: f =>
          if k.format.isSome then
            Work.complain 1 "multiple output formats specified".toList
          else { k with format := some f }.run zone none
        | a =>
          if 0 < printing || k.setting.isSome then
            Work.misuse 1 ("the argument ".toList ++ quoted a ++
              (" lacks a leading \x27+\x27;\nwhen using an option to " ++
              "specify date(s), any non-option\nargument must be a format " ++
              "string beginning with \x27+\x27").toList)
          else k.run zone (some a)
      | _ :: a :: _ => Work.misuse 1 ("extra operand ".toList ++ quoted a)

end BitProbe.Bench

import BitProbe.Bench.Editor.Running
import BitProbe.Bench.Options

/-!
Lines edited by a script.

* `Editing.Task`: what the options ask for, with the script as far as it has
  been read;
* `sed`: the program.
-/

namespace BitProbe.Bench

namespace Editing

open Editor

/-- What options ask for. -/
structure Task where
  manner : Manner
  style : Style := {}
  /-- The script as far as it has been read, if there is any. -/
  reader : Option Reader := none
  /-- How many arguments are parts of the script. -/
  arguments : Nat := 0

/-- Says what is wrong with a script. -/
def refuse (f : Fault) : Work Unit := Work.complain f.status f.message

/-- The task with one more part of the script. -/
def Task.read (k : Task) (origin : Origin) (o : Octets) :
    Work (Option Task) := do
  match readPart k.manner origin o (k.reader.getD {}) with
  | .ok r => return some { k with reader := some r }
  | .error f =>
    refuse f
    return none

/-- The task with a script from an argument. -/
def Task.readArgument (k : Task) (o : Octets) : Work (Option Task) :=
  let n := k.arguments + 1
  { k with arguments := n }.read (.argument n) o

/-- The task with a script from a file. -/
def Task.readFile (k : Task) (path : Octets) : Work (Option Task) := do
  match ← Work.source path with
  | .ok s => k.read (.file path) s.held
  | .error .isADirectory =>
    Work.complain 4 ("read error on ".toList ++ path ++ ": ".toList ++
      FileError.isADirectory.reason.toList)
    return none
  | .error e =>
    Work.complain 4 ("couldn\x27t open file ".toList ++ path ++
      ": ".toList ++ e.reason.toList)
    return none

/-- How a listing is as wide as a text says. -/
def widthOf (o : Octets) : Nat :=
  let o := o.dropWhile isSpace
  let digits := if o.head? = some '+' then o.drop 1 else o
  ofDigits 10 (digits.takeWhile Char.isDigit)

/-- The task with what an option adds to it. -/
def Task.add (k : Task) (o : Opt) : Work (Option Task) := do
  let v := o.value.getD []
  let styled (f : Style → Style) : Work (Option Task) :=
    return some { k with style := f k.style }
  match o.key with
  | "quiet" => styled fun y => { y with isSilent := true }
  | "silent" => styled fun y => { y with isSilent := true }
  | "expression" => k.readArgument v
  | "file" => k.readFile v
  | "r" => return some { k with manner := { k.manner with isExtended := true } }
  | "regexp-extended" =>
    return some { k with manner := { k.manner with isExtended := true } }
  | "sandbox" =>
    return some { k with manner := { k.manner with isSandboxed := true } }
  | "in-place" =>
    styled fun y => { y with isSeparate := true, keepsAs := some v }
  | "line-length" => styled fun y => { y with width := widthOf v }
  | "separate" => styled fun y => { y with isSeparate := true }
  | "unbuffered" => styled fun y => { y with isUnbuffered := true }
  | "null-data" => styled fun y => { y with ending := Char.ofNat 0 }
  | "zero-terminated" => styled fun y => { y with ending := Char.ofNat 0 }
  | "follow-symlinks" => styled fun y => { y with followsLinks := true }
  | _ => return some k

/-- Says how the program is used. -/
def showUsage (name : Octets) : Work Unit := do
  Work.sayOn 2 ("Usage: ".toList ++ name ++
    (" [OPTION]... \x7bscript-only-if-no-other-script\x7d " ++
      "[input-file]...\n").toList)
  Work.setStatus 1

/-- The files that a script writes to. -/
def targets (s : Script) : List Octets :=
  (s.commands.toList.filterMap fun k =>
    let target : Option Target := match k.action with
      | .write t => some t
      | .writeFirst t => some t
      | .substitute s => s.target
      | _ => none
    match target with
    | some (.file path) => some path
    | _ => none).eraseDups

/-- Edits lines by the script of a task. -/
def Task.run (k : Task) (canGoBack : Bool) (paths : List Octets) :
    Work Unit := do
  match (k.reader.getD {}).script with
  | .error f => refuse f
  | .ok script =>
    let rec prepare : List Octets → Work Bool
      | [] => return true
      | p :: ps => do
        match ← Work.write p [] with
        | .ok () => prepare ps
        | .error e =>
          Work.complain 4 ("couldn\x27t open file ".toList ++ p ++
            ": ".toList ++ e.reason.toList)
          return false
    let isReady ← prepare (targets script)
    if !isReady then return
    let style := { k.style with
      isSilent := k.style.isSilent || script.isSilent }
    if paths.isEmpty && style.keepsAs.isSome then
      Work.complain 4 "no input files".toList
    else
      edit style script (canGoBack || style.isUnbuffered)
        (if paths.isEmpty then [['-']] else paths)

end Editing

open Editing in
/-- Lines edited by a script. -/
def sed : Program := fun c =>
  let switches : List Switch :=
    [.flag 'n' "quiet", .long "silent" .nothing, .long "debug" .nothing,
     .valued 'e' "expression", .valued 'f' "file", .flag 'E' "regexp-extended",
     .flag 'r' "", .mayHave 'i' "in-place", .valued 'l' "line-length",
     .long "posix" .nothing, .flag 's' "separate", .long "sandbox" .nothing,
     .flag 'u' "unbuffered", .flag 'z' "null-data",
     .long "zero-terminated" .nothing, .flag 'b' "binary",
     .long "follow-symlinks" .nothing]
  let misread (m : Misread) : Work Unit := do
    Work.complain 1 m.message
    showUsage c.name
  let start : Task := { manner := { plain := isPlainLocale c.environment } }
  c.asked switches true misread start Task.add fun k _ others => do
    let canGoBack := c.inputPlace.isSome
    match k.reader, others with
    | some _, paths => k.run canGoBack paths
    | none, [] => showUsage c.name
    | none, script :: paths =>
      match ← k.readArgument script with
      | some k => k.run canGoBack paths
      | none => return ()

end BitProbe.Bench

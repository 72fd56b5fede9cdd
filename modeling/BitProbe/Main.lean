import BitProbe.Bench.Launch
import BitProbe.Session

/-!
The program.

The files that the arguments and the settings name are loaded, the run is
made with the programs of the bench, and the files that it has changed are
written.

* `loadFile`: a tree with one file more;
* `main`: the program.
-/

namespace BitProbe

/-- A tree with what stands under a path, if something does. -/
def loadFile (t : FileTree) (path : String) : IO FileTree := do
  if (t.lookup path).isOk then return t
  try
    let bytes ← IO.FS.readBinFile path
    return t.add path (.file bytes.toList)
  catch e =>
    match e with
    | .inappropriateType .. => return t.add path .directory
    | _ => return t

/-- The files that arguments and the settings that they name need. -/
def loadFiles (args : List String) : IO FileTree := do
  match CommandLine.read args with
  | .request r =>
    let t ← r.paths.foldlM loadFile Bench.machine
    match r.load t with
    | .ok c => c.paths.foldlM loadFile t
    | .error _ => return t
  | _ => return Bench.machine

end BitProbe

open BitProbe in
/-- Makes the run that arguments ask for. -/
def main (args : List String) : IO UInt32 := do
  let t ← loadFiles args
  let (e, w) := Session.run Bench.tools args (t, ())
  for f in w.1.changes t do
    IO.FS.writeBinFile f.1 (ByteArray.mk f.2.toArray)
  IO.print e.out
  IO.eprint e.err
  return UInt32.ofNat e.status

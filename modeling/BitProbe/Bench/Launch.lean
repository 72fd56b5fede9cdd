import BitProbe.Bench.Shell.Execution
import BitProbe.Disassembler

/-!
Starting programs of the bench.

The bench stands for a machine with its programs, so that a whole run with a
disassembler made of small programs can be computed and repeated.

* `machine`: the files of the bench, with its programs among them;
* `launch`: what starting a program leads to;
* `tools`: the programs of the bench as those of a machine.
-/

namespace BitProbe.Bench

/-- The names of every program of the bench. -/
def programNames : List String :=
  programs.map (·.1) ++ Shell.hosts.map (·.1) ++ [Shell.shellName]

/-- The files of the bench, with another name for its shell. -/
def machine : FileTree :=
  let t := FileTree.withPrograms programNames
  let other := FileTree.programDirectory ++ ["sh"]
  { t with nodes := t.nodes ++ [(other, .link Shell.shellName)] }

open Shell

/-- The number of the process that starts programs. -/
def firstNumber : Nat := 1000

/-- The variables that programs get to know. -/
def environment (directory : Octets) : Variables :=
  let known (name value : String) : Octets × Variable :=
    (name.toList, ⟨some value.toList, true, false⟩)
  [("PATH".toList, ⟨some usualPath, true, false⟩), known "HOME" "/root",
   known "LC_CTYPE" "C.UTF-8", ("PWD".toList, ⟨some directory, true, false⟩)]

/-- The state in which a program is started that has so many
milliseconds. -/
def startState (t : FileTree) (limit : Nat) : State :=
  let directory := placePath t.workDir
  { name := []
    bindings := environment directory
    ways := [(0, 0), (1, 1), (2, 2)]
    limit := limit * millisecond
    number := firstNumber
    workDir := t.workDir
    directory
    files := t
    channels := [.null, .sink [] [], .sink [] []]
    nextNumber := firstNumber + 1 }

/-- What runs a command. -/
def runner : Runner := run depthLimit

/-- How many processes may be left behind. -/
def leftLimit : Nat := 1000

/-- The path of the program that a name stands for. No program has an empty
name. -/
def pathOf (name : Octets) (st : State) : Except FileError Octets :=
  if name.isEmpty then .error .notFound else findProgram name st

/-- Whether a file of commands stands under a path that does not say what is
to run them. -/
def isBareScript (t : FileTree) (path : Octets) : Bool :=
  match t.lookup path.toText, t.locate path.toText with
  | .ok (.file bytes), .ok place =>
    t.isRunnable place && (interpreter? (Octets.ofBytes bytes)).isNone
  | _, _ => false

/-- Starts the program that a name stands for. -/
def start (name : Octets) (args : List Octets) (st : State) :
    Except FileError State := do
  let path ← pathOf name st
  if isBareScript st.files path then throw .notAProgram
  startFile runner startLimit path name args st

/-- What starting a program leads to. What it has left behind goes on and may
write as well. -/
def launch (name : Octets) (args : List Octets) (limit : Nat)
    (t : FileTree) : Launch × FileTree :=
  match start name args (startState t limit) with
  | .error e => (.refused e, t)
  | .ok st =>
    let after := completeAll runner leftLimit st
    let files := { after.files with workDir := t.workDir }
    let out := after.writtenAt 1
    let err := after.writtenAt 2
    if st.limit ≤ st.clock || out.isEndless || err.isEndless then
      (.unfinished, { st.files with workDir := t.workDir })
    else (.ended out.held.toBytes err.held.toBytes, files)

/-- The programs of the bench as those of a machine. They remember nothing
but files. -/
def tools : Tools Unit := fun name args limit w =>
  let (l, t) :=
    if (name :: args).any fun a => a.toList.contains (Char.ofNat 0) then
      (.refused .zeroInArgument, w.1)
    else launch (Octets.ofString name) (args.map Octets.ofString) limit w.1
  (l, (t, ()))

end BitProbe.Bench

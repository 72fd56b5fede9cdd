import BitProbe.Failure

/-!
A tree of files.

Files are found by path, from the root or from the working directory. A path
is walked name by name, and everything but its last name must be a directory
or a link to one.

* `FileTree.Node`, `FileTree`: what stands under a path;
* `FileTree.locate`, `FileTree.lookup`: following a path, links included;
* `FileTree.locateEntry`, `FileTree.entry`: the same without a link in the
  last place;
* `FileTree.read`, `FileTree.size`, `FileTree.write`, `FileTree.remove`;
* `FileTree.Times`, `FileTree.timesOf`: when something was read and written;
* `FileTree.node?_put_self`, `FileTree.node?_put_of_ne`: what putting one
  thing into a tree changes.
-/

namespace BitProbe

/-- What stands under a path. -/
inductive FileTree.Node where
  | directory
  | file (bytes : List UInt8)
  /-- Stands for what another path leads to. -/
  | link (target : String)
  /-- A device that holds nothing and keeps nothing. -/
  | null
  /-- A device that never ends, all of whose bytes are zero. -/
  | zeros
  /-- A device that nothing can be written to. -/
  | full
  /-- The input or an output of whoever opens it, by its number. -/
  | way (n : Nat)
  /-- A program of the machine, by its name. -/
  | program (name : String)
  deriving DecidableEq

/-- When something was last read, written and changed in any way, in
nanoseconds since the start of 1970. -/
structure FileTree.Times where
  accessed : Int
  modified : Int
  changed : Int
  deriving DecidableEq

namespace FileTree.Times

/-- One time for everything. -/
def all (time : Int) : Times := ⟨time, time, time⟩

/-- The time at which the clock of a tree starts: the year 2026. -/
def start : Int := 1767225600 * 10 ^ 9

/-- What the clock goes on by with every change. -/
def tick : Int := 10 ^ 6

end FileTree.Times

/-- Files by their names from the root, and the working directory. The root
itself is a directory that needs no entry. -/
structure FileTree where
  nodes : List (List String × FileTree.Node)
  workDir : List String
  /-- Who may do what with files for which that has been said. -/
  modes : List (List String × Nat) := []
  times : List (List String × FileTree.Times) := []
  /-- The places that one file has, for files that have several. -/
  twins : List (List (List String)) := []
  /-- The time of the next change. -/
  now : Int := FileTree.Times.start
  deriving DecidableEq

namespace FileTree

/-- What stands under a list of names from the root. -/
def node? (t : FileTree) (names : List String) : Option Node :=
  if names.isEmpty then some .directory else t.nodes.lookup names

/-- The largest size of one name, and of a path, in bytes. -/
def nameLimit : Nat := 255

@[inherit_doc nameLimit]
def pathLimit : Nat := 4096

/-- How many links a path may lead through. -/
def linkLimit : Nat := 40

/-- The names in a path, which is not empty. -/
def pathNames (path : String) : List String :=
  (path.toList.splitOn '/').map String.ofList

/-- Whether a path starts at the root. -/
def isAbsolute (path : String) : Bool :=
  path.toList.head? = some '/'

/-- Walks names from a directory, through so many links at most. What the
last of them leads to need not be there; if it is a link, it is followed only
if that is asked for. -/
def walk (t : FileTree) (follow : Bool) (links : Nat) (here : List String) :
    List String → Except FileError (List String)
  | [] => .ok here
  | name :: rest =>
    match t.node? here with
    | none => .error .notFound
    | some .directory =>
      if name = "" ∨ name = "." then walk t follow links here rest
      else if name = ".." then walk t follow links here.dropLast rest
      else if nameLimit < name.utf8ByteSize then .error .nameTooLong
      else
        match t.node? (here ++ [name]), links with
        | some (.link target), links + 1 =>
          if rest.isEmpty && !follow then .ok (here ++ [name])
          else
            walk t follow links (if isAbsolute target then [] else here)
              (pathNames target ++ rest)
        | some (.link _), 0 => .error .tooManyLinks
        | _, links => walk t follow links (here ++ [name]) rest
    | some _ => .error .notADirectory
termination_by names => (links, names.length)

/-- The place that a path leads to, whether or not something is there. -/
def locateBy (t : FileTree) (follow : Bool) (path : String) :
    Except FileError (List String) :=
  if path.toList.contains (Char.ofNat 0) then .error .zeroInName
  else if path = "" then .error .notFound
  else if pathLimit ≤ path.utf8ByteSize then .error .nameTooLong
  else
    let start := if isAbsolute path then [] else t.workDir
    t.walk follow linkLimit start (pathNames path)

/-- The place that a path leads to through every link. -/
def locate (t : FileTree) (path : String) : Except FileError (List String) :=
  t.locateBy true path

/-- The place that a path names, which may be that of a link. -/
def locateEntry (t : FileTree) (path : String) :
    Except FileError (List String) :=
  t.locateBy false path

/-- What stands at a place, if something does. -/
def nodeAt (t : FileTree) (place : Except FileError (List String)) :
    Except FileError Node :=
  match place with
  | .error e => .error e
  | .ok names =>
    match t.node? names with
    | none => .error .notFound
    | some n => .ok n

/-- What a path leads to. -/
def lookup (t : FileTree) (path : String) : Except FileError Node :=
  t.nodeAt (t.locate path)

/-- What a path names, which may be a link. -/
def entry (t : FileTree) (path : String) : Except FileError Node :=
  t.nodeAt (t.locateEntry path)

/-- The contents of what a path leads to. -/
def contents : Node → Except FileError (List UInt8)
  | .directory => .error .isADirectory
  | .file bytes => .ok bytes
  | _ => .ok []

/-- The contents of the file that a path leads to. -/
def read (t : FileTree) (path : String) : Except FileError (List UInt8) :=
  match t.lookup path with
  | .error e => .error e
  | .ok n => contents n

/-- The size that a directory is said to have. -/
def directorySize : Nat := 4096

/-- The size of what stands under a path. -/
def nodeSize : Node → Nat
  | .directory => directorySize
  | .file bytes => bytes.length
  | .link target => target.utf8ByteSize
  | _ => 0

/-- The size of what a path leads to. -/
def size (t : FileTree) (path : String) : Except FileError Nat :=
  match t.lookup path with
  | .error e => .error e
  | .ok n => .ok (nodeSize n)

/-! ### Times -/

/-- The times of what stands under a list of names. -/
def timesOf (t : FileTree) (names : List String) : Times :=
  (t.times.lookup names).getD (.all Times.start)

/-- The places of the file that stands at a place, that one included. -/
def twinsOf (t : FileTree) (place : List String) : List (List String) :=
  (t.twins.find? (·.contains place)).getD [place]

/-- The tree with other times for what stands under a list of names. -/
def setTimes (t : FileTree) (names : List String) (times : Times) :
    FileTree :=
  let all := t.twinsOf names
  { t with
    times := all.map (·, times) ++
      t.times.filter fun e => !all.contains e.1 }

/-- The tree after what stands under a list of names has been written. -/
def written (t : FileTree) (names : List String) : FileTree :=
  let old := (t.times.lookup names).getD (.all t.now)
  t.setTimes names { old with modified := t.now, changed := t.now }

/-- The tree after something else than the contents of what stands under a
list of names has been changed. -/
def marked (t : FileTree) (names : List String) : FileTree :=
  t.setTimes names { t.timesOf names with changed := t.now }

/-! ### Changes -/

/-- The tree in which a place is none of several that a file has. -/
def parted (t : FileTree) (names : List String) : FileTree :=
  { t with
    twins := (t.twins.map (·.filter (· ≠ names))).filter (1 < ·.length) }

/-- The tree with something under a list of names, instead of what was
there. -/
def put (t : FileTree) (names : List String) (n : Node) : FileTree :=
  let isNew := (t.node? names).isNone
  let t := t.parted names
  let t := if isNew then (t.written names.dropLast).setTimes names (.all t.now)
    else t.written names
  { t with
    nodes := (names, n) :: t.nodes.filter (·.1 ≠ names)
    now := t.now + Times.tick }

/-- The tree with other contents for the file at a place, wherever else it
stands. -/
def setContents (t : FileTree) (place : List String) (bytes : List UInt8) :
    FileTree :=
  match t.twinsOf place with
  | [_] => t.put place (.file bytes)
  | all =>
    let t := t.written place
    { t with
      nodes := all.map (·, .file bytes) ++
        t.nodes.filter fun e => !all.contains e.1
      now := t.now + Times.tick }

/-- The tree in which what stands at a place stands at another one, too. -/
def join (t : FileTree) (place other : List String) : FileTree :=
  match t.node? place with
  | none => t
  | some n =>
    let all := t.twinsOf place
    let times := t.timesOf place
    let t := t.put other n
    let t := { t with
      twins := (other :: all) :: t.twins.filter fun g => !g.contains place
      modes := match t.modes.lookup place with
        | some m => (other, m) :: t.modes.filter (·.1 ≠ other)
        | none => t.modes.filter (·.1 ≠ other) }
    t.setTimes place { times with changed := t.now }

/-- The tree without what stands under a list of names. -/
def remove (t : FileTree) (names : List String) : FileTree :=
  let t := (t.written names.dropLast).parted names
  { t with
    nodes := t.nodes.filter (·.1 ≠ names)
    modes := t.modes.filter (·.1 ≠ names)
    times := t.times.filter (·.1 ≠ names)
    now := t.now + Times.tick }

/-- The tree without a directory and everything in it. -/
def removeAll (t : FileTree) (names : List String) : FileTree :=
  let t := t.written names.dropLast
  { t with
    nodes := t.nodes.filter fun e => !names.isPrefixOf e.1
    modes := t.modes.filter fun e => !names.isPrefixOf e.1
    times := t.times.filter fun e => !names.isPrefixOf e.1
    twins := (t.twins.map (·.filter (!names.isPrefixOf ·))).filter
      (1 < ·.length)
    now := t.now + Times.tick }

/-- The tree in which everything that stands under one place stands under
another one instead, where nothing else is left. -/
def move (t : FileTree) (source target : List String) : FileTree :=
  let t := t.removeAll target
  let moved (names : List String) : List String :=
    if source.isPrefixOf names then target ++ names.drop source.length
    else names
  let inside := t.nodes.filter fun e => source.isPrefixOf e.1
  let others := t.nodes.filter fun e => !source.isPrefixOf e.1
  let t := { t with
    nodes := (inside.map fun (e : List String × Node) => (moved e.1, e.2)) ++
      others
    modes := t.modes.map fun (e : List String × Nat) => (moved e.1, e.2)
    times := t.times.map fun (e : List String × Times) => (moved e.1, e.2)
    twins := t.twins.map fun (g : List (List String)) => g.map moved }
  ((t.written source.dropLast).written target.dropLast).marked target

/-- Putting something into a tree leaves the entries of other names. -/
theorem nodes_put (t : FileTree) (names : List String) (n : Node) :
    (t.put names n).nodes = (names, n) :: t.nodes.filter (·.1 ≠ names) := by
  cases h : (t.node? names).isNone <;>
    simp [put, h, parted, setTimes, written]

/-- What is put under names stands there. -/
theorem node?_put_self (t : FileTree) {names : List String} (n : Node)
    (h : names ≠ []) : (t.put names n).node? names = some n := by
  simp [node?, nodes_put, h]

/-- Looking for one key is not disturbed by leaving out another. -/
theorem lookup_filter_ne {names others : List String}
    (h : others ≠ names) (nodes : List (List String × Node)) :
    (nodes.filter (·.1 ≠ names)).lookup others = nodes.lookup others := by
  induction nodes with
  | nil => rfl
  | cons e es ih =>
    obtain ⟨k, v⟩ := e
    by_cases hk : k = names
    · have hb : (others == k) = false := by simpa [hk] using h
      rw [List.filter_cons_of_neg (by simp [hk]), ih, List.lookup_cons, hb]
    · rw [List.filter_cons_of_pos (by simp [hk]), List.lookup_cons, ih,
        List.lookup_cons]

/-- What stands under other names stays. -/
theorem node?_put_of_ne (t : FileTree) {names others : List String}
    (n : Node) (h : others ≠ names) :
    (t.put names n).node? others = t.node? others := by
  have hb : (others == names) = false := by simpa using h
  unfold node?
  simp only [nodes_put, List.lookup_cons, hb, lookup_filter_ne h]

/-- The place at which a file can be written under a path. A path that ends
in a slash is that of a directory. -/
def writable (t : FileTree) (path : String) :
    Except FileError (List String) :=
  let names := dropEnd path
  match t.locate names with
  | .error e => .error e
  | .ok place =>
    if names ≠ path || t.node? place = some .directory then
      .error .isADirectory
    else .ok place
where
  /-- A path without slashes at its end, unless it is nothing else. -/
  dropEnd (path : String) : String :=
    let cs := Text.dropRight (· = '/') path.toList
    if cs.isEmpty then path else String.ofList cs

/-- Writes at a place, instead of the contents it had. -/
def writeAt (t : FileTree) (place : List String) (bytes : List UInt8) :
    Except FileError FileTree :=
  match t.node? place with
  | some .directory => .error .isADirectory
  | some .full => if bytes.isEmpty then .ok t else .error .noSpace
  | some (.file _) => .ok (t.setContents place bytes)
  | some _ => .ok t
  | none => .ok (t.put place (.file bytes))

/-- Writes a file, instead of the contents it had. -/
def write (t : FileTree) (path : String) (bytes : List UInt8) :
    Except FileError FileTree :=
  match t.writable path with
  | .error e => .error e
  | .ok place => t.writeAt place bytes

/-- The names of what stands in a directory. -/
def children (t : FileTree) (names : List String) : List String :=
  t.nodes.filterMap fun e =>
    if e.1.dropLast = names then e.1.getLast? else none

/-- The tree with a directory and every directory on the way to it. -/
def putDirectory (t : FileTree) (names : List String) : FileTree :=
  (List.range names.length).foldl (fun t i =>
    let here := names.take (i + 1)
    match t.node? here with
    | some _ => t
    | none => t.put here .directory) t

/-- Where files that last no longer than a call stand. -/
def scratchDirectory : List String := ["tmp"]

/-- What every machine has: directories and devices. -/
def fixtures : List (List String × Node) :=
  [(["bin"], .link "usr/bin"), (["dev"], .directory),
   (["dev", "null"], .null), (["dev", "zero"], .zeros),
   (["dev", "full"], .full), (["dev", "stdin"], .way 0),
   (["dev", "stdout"], .way 1), (["dev", "stderr"], .way 2),
   (["dev", "fd"], .directory), (["dev", "fd", "0"], .way 0),
   (["dev", "fd", "1"], .way 1), (["dev", "fd", "2"], .way 2),
   (["dev", "fd", "3"], .way 3), (["dev", "fd", "4"], .way 4),
   (["dev", "fd", "5"], .way 5), (["dev", "fd", "6"], .way 6),
   (["dev", "fd", "7"], .way 7), (["dev", "fd", "8"], .way 8),
   (["dev", "fd", "9"], .way 9),
   (["etc"], .directory), (["home"], .directory), (["root"], .directory),
   (["sbin"], .link "usr/sbin"), (scratchDirectory, .directory),
   (["usr"], .directory), (["usr", "bin"], .directory),
   (["usr", "local"], .directory), (["usr", "local", "bin"], .directory),
   (["usr", "local", "sbin"], .directory), (["usr", "sbin"], .directory),
   (["var"], .directory)]

/-- Where the programs of a machine stand. -/
def programDirectory : List String := ["usr", "bin"]

/-- A machine with programs of some names, whose working directory is
empty. -/
def withPrograms (names : List String) : FileTree :=
  let here := scratchDirectory ++ ["work"]
  let programs := names.map fun n =>
    (programDirectory ++ [n], FileTree.Node.program n)
  ⟨(here, .directory) :: fixtures ++ programs, here,
    [(scratchDirectory, 0o1777)], [], [], Times.start⟩

/-- The tree with a file or a directory under a path, with every directory on
the way to it. -/
def add (t : FileTree) (path : String) (n : Node) : FileTree :=
  let start := if isAbsolute path then [] else t.workDir
  let names := start ++ (pathNames path).filter fun s => s ≠ "" ∧ s ≠ "."
  (t.putDirectory names.dropLast).put names n

/-- A path of what stands under a list of names. -/
def pathOf (t : FileTree) (names : List String) : String :=
  if t.workDir.isPrefixOf names then
    String.intercalate "/" (names.drop t.workDir.length)
  else "/" ++ String.intercalate "/" names

/-- The paths and contents of the files that are not in another tree as they
are in this one. -/
def changes (t before : FileTree) : List (String × List UInt8) :=
  t.nodes.filterMap fun e =>
    match e.2 with
    | .file bytes =>
      if before.node? e.1 = some e.2 then none else some (t.pathOf e.1, bytes)
    | _ => none

/-! ### Modes -/

/-- What may be done with something if nothing has been said about it. -/
def usualMode : Node → Nat
  | .directory => 0o755
  | .link _ => 0o777
  | .program _ => 0o755
  | .file _ => 0o644
  | _ => 0o666

/-- What may be done with what stands under a list of names. -/
def mode (t : FileTree) (names : List String) : Nat :=
  match t.modes.lookup names, t.node? names with
  | some m, _ => m
  | none, some n => usualMode n
  | none, none => 0

/-- The tree with a mode for what stands under a list of names. -/
def setMode (t : FileTree) (names : List String) (m : Nat) : FileTree :=
  let all := t.twinsOf names
  { t.marked names with
    modes := all.map (·, m) ++
      t.modes.filter fun e => !all.contains e.1
    now := t.now + Times.tick }

/-- Whether what stands under a list of names may be run, or searched if it
is a directory. -/
def isRunnable (t : FileTree) (names : List String) : Bool :=
  t.mode names &&& 0o111 ≠ 0

/-- Whether what a path leads to may be run. -/
def isRunnableAt (t : FileTree) (path : String) : Bool :=
  match t.locate path with
  | .ok names => t.isRunnable names
  | .error _ => false

end FileTree

end BitProbe

import BitProbe.Bench.Calendar
import BitProbe.Bench.Difference
import BitProbe.Bench.Programs.Comparison
import BitProbe.Bench.Programs.Places

/-!
Lines in which files differ.

* `Differing.Task`: how files are compared and how differences are shown;
* `Differing.Task.numbers`: lines as numbers, the same for lines that count
  as the same;
* `Differing.plainText`, `Differing.unifiedText`: changes of lines as they
  are shown;
* `Differing.groups`, with `Differing.flatten_groups`: changes that are shown
  together;
* `diff`: the changes that make one file of another.
-/

namespace BitProbe.Bench

namespace Differing

/-- Which blanks count when lines are compared. -/
inductive Blanks where
  | all
  /-- Those at the end of a line do not. -/
  | inner
  /-- How many there are in one place does not, nor do those at the end. -/
  | runs
  | none
  deriving DecidableEq

/-- How files are compared and how differences are shown. -/
structure Task where
  isBrief : Bool := false
  tellsSame : Bool := false
  isThorough : Bool := false
  /-- Whether everything is text. -/
  isText : Bool := false
  isRecursive : Bool := false
  ignoresCase : Bool := false
  blanks : Blanks := .all
  /-- How many lines are shown around changes, if any are. -/
  around : Option Nat := Option.none
  isPlain : Bool := false
  labels : List Octets := []

/-- A number of lines, unless it is none. -/
def lineCount (v : Octets) : Except Octets Nat :=
  match leadingInteger? true v with
  | some (n, []) =>
    if n < 0 then .error ("invalid context length \x27".toList ++ v ++ ['\x27'])
    else .ok n.toNat
  | _ => .error ("invalid context length \x27".toList ++ v ++ ['\x27'])

/-- A task with what one more option asks for. -/
def Task.add (k : Task) (o : Opt) : Except Octets Task :=
  let clash : Except Octets Task :=
    .error "conflicting output style options".toList
  let widen (n : Nat) : Except Octets Task :=
    if k.isPlain then clash
    else .ok { k with around := some (max n (k.around.getD 0)) }
  match o.key with
  | "brief" => .ok { k with isBrief := true }
  | "report-identical-files" => .ok { k with tellsSame := true }
  | "minimal" => .ok { k with isThorough := true }
  | "text" => .ok { k with isText := true }
  | "recursive" => .ok { k with isRecursive := true }
  | "ignore-case" => .ok { k with ignoresCase := true }
  | "ignore-all-space" => .ok { k with blanks := .none }
  | "ignore-space-change" =>
    .ok (if k.blanks = .none then k else { k with blanks := .runs })
  | "ignore-trailing-space" =>
    .ok (if k.blanks = .all then { k with blanks := .inner } else k)
  | "normal" =>
    if k.around.isSome then clash else .ok { k with isPlain := true }
  | "label" => .ok { k with labels := k.labels ++ [o.value.getD []] }
  | "u" => widen 3
  | "U" | "unified" =>
    match o.value with
    | some v => (lineCount v).bind widen
    | Option.none => widen 3
  | _ => .ok k

/-! ### Lines that count as the same -/

/-- Whether an octet is a blank. -/
def isBlank (c : Char) : Bool :=
  c = ' ' || '\t' ≤ c && c ≤ '\x0d'

/-- Octets with one space in the place of each run of blanks. -/
def joinBlanks : Octets → Octets
  | [] => []
  | c :: cs =>
    let rest := joinBlanks cs
    if !isBlank c then c :: rest
    else if rest.head? = some ' ' then rest else ' ' :: rest

/-- What counts of a line. -/
def Task.counted (k : Task) (l : Octets) : Octets :=
  let l := match k.blanks with
    | .all => l
    | .inner => Text.dropRight isBlank l
    | .runs => joinBlanks (Text.dropRight isBlank l)
    | .none => l.filter (!isBlank ·)
  if k.ignoresCase then l.map Char.toLower else l

/-- Lines as numbers, the same for lines of which the same counts. -/
def Task.numbers (k : Task) (as bs : List Octets) : Array Nat × Array Nat :=
  let number (s : Std.HashMap String Nat × List Nat) (l : Octets) :
      Std.HashMap String Nat × List Nat :=
    let key := String.ofList (k.counted l)
    match s.1[key]? with
    | some n => (s.1, n :: s.2)
    | Option.none => (s.1.insert key s.1.size, s.1.size :: s.2)
  let (m, xs) := as.foldl number (∅, [])
  let (_, ys) := bs.foldl number (m, [])
  (xs.reverse.toArray, ys.reverse.toArray)

/-- How many items two lists have in common at their start. -/
def common : List Octets → List Octets → Nat
  | a :: as, b :: bs => if a = b then common as bs + 1 else 0
  | _, _ => 0

/-- The changes that make one list of lines of another. Only a part of what
they have in common at their start and end is looked at. -/
def Task.changes (k : Task) (as bs : List Octets) : List Change :=
  let seen := k.around.getD 0
  let start := common as bs - seen
  let as := as.drop start
  let bs := bs.drop start
  let behind := common as.reverse bs.reverse - seen
  let (xs, ys) := k.numbers (as.take (as.length - behind))
    (bs.take (bs.length - behind))
  (Difference.between k.isThorough xs ys).map (·.behind start)

/-! ### What is shown -/

/-- A line behind a mark. A line without an end is followed by a note. -/
def markedLine (mark : Octets) (l : Octets) : Octets :=
  mark ++ l ++ (if l.getLast? = some '\n' then []
    else "\n\\ No newline at end of file\n".toList)

/-- Lines behind a mark. -/
def markedLines (mark : String) (ls : List Octets) : Octets :=
  ls.flatMap (markedLine mark.toList)

/-- So many lines after others: the number of the first and of the last. -/
def span (before count : Nat) : Octets :=
  match count with
  | 0 => Text.decimal before
  | 1 => Text.decimal (before + 1)
  | n => Text.decimal (before + 1) ++ ',' :: Text.decimal (before + n)

/-- So many lines after others: the number of the first, and how many. -/
def extent (before count : Nat) : Octets :=
  match count with
  | 0 => Text.decimal before ++ [',', '0']
  | 1 => Text.decimal (before + 1)
  | n => Text.decimal (before + 1) ++ ',' :: Text.decimal n

/-- The lines that a change removes. -/
def removedLines (as : List Octets) (c : Change) : List Octets :=
  (as.drop c.before).take c.removed

/-- The lines that a change adds. -/
def addedLines (bs : List Octets) (c : Change) : List Octets :=
  (bs.drop c.after).take c.added

/-- Changes one after another. -/
def plainText (as bs : List Octets) (cs : List Change) : Octets :=
  cs.flatMap fun c =>
    let sign := if c.removed = 0 then 'a' else if c.added = 0 then 'd' else 'c'
    span c.before c.removed ++ sign :: span c.after c.added ++ ['\n'] ++
      markedLines "< " (removedLines as c) ++
      (if 0 < c.removed && 0 < c.added then "---\n".toList else []) ++
      markedLines "> " (addedLines bs c)

/-- Changes in groups, with no more than so many lines between two changes of
one group. -/
def groups (gap : Nat) : List Change → List (List Change)
  | [] => []
  | c :: cs =>
    match groups gap cs with
    | (d :: ds) :: gs =>
      if d.before ≤ c.oldEnd + gap then (c :: d :: ds) :: gs
      else [c] :: (d :: ds) :: gs
    | gs => [c] :: gs

/-- No change is lost or moved when changes are put into groups. -/
theorem flatten_groups (gap : Nat) (cs : List Change) :
    (groups gap cs).flatten = cs := by
  induction cs with
  | nil => rfl
  | cons c cs ih =>
    rw [groups]
    split
    · rename_i d ds gs hg
      rw [hg, List.flatten_cons] at ih
      split
      · rw [List.flatten_cons, List.cons_append, ih]
      · rw [List.flatten_cons, List.flatten_cons, ih, List.singleton_append]
    · rw [List.flatten_cons, ih, List.singleton_append]

/-- Changes with the lines between them, from a place in the first list up to
another one. -/
def changedFrom (as bs : List Octets) : Nat → Nat → List Change → Octets
  | here, finish, [] => markedLines " " ((as.take finish).drop here)
  | here, finish, c :: cs =>
    markedLines " " ((as.take c.before).drop here) ++
      markedLines "-" (removedLines as c) ++
      markedLines "+" (addedLines bs c) ++
      changedFrom as bs c.oldEnd finish cs

/-- Changes in groups, with so many lines around each group. -/
def unifiedText (around : Nat) (as bs : List Octets) (cs : List Change) :
    Octets :=
  (groups (2 * around) cs).flatMap fun g =>
    match g.head?, g.getLast? with
    | some c, some d =>
      let lead := min around c.before
      let oldStart := c.before - lead
      let newStart := c.after - lead
      let oldFinish := min as.length (d.oldEnd + around)
      let newFinish := min bs.length (d.newEnd + around)
      "@@ -".toList ++ extent oldStart (oldFinish - oldStart) ++ " +".toList ++
        extent newStart (newFinish - newStart) ++ " @@\n".toList ++
        changedFrom as bs oldStart oldFinish g
    | _, _ => []

/-! ### Files -/

/-- Notes that files differ, unless something worse has happened. -/
def noteChange : Work Unit :=
  modify fun e => { e with status := max e.status 1 }

/-- Says why a file cannot be compared. -/
def refuse (path : Octets) (e : FileError) : Work Unit :=
  Work.complain 2 (path ++ ": ".toList ++ e.reason.toList)

/-- Whether octets are no text: a zero stands near their start. -/
def isBinary (o : Octets) : Bool :=
  (o.take 4096).contains (Char.ofNat 0)

/-- The line that names a file before its changes. -/
def Task.heading (k : Task) (t : FileTree) (n : Nat) (path : Octets) :
    Octets :=
  match k.labels[n]? with
  | some label => label
  | Option.none =>
    let time := match t.locate path.toText with
      | .ok place => (t.timesOf place).modified
      | .error _ => t.now
    path ++ '\t' :: (Moment.of Zone.universal time).text
      "%Y-%m-%d %H:%M:%S.%N %z".toList

/-- Compares two texts with names. What is written about them in full stands
behind a headline. -/
def Task.run (k : Task) (headline p q a b : Octets) : Work Unit := do
  let name (n : Nat) (path : Octets) : Octets := (k.labels[n]?).getD path
  let both (verb : String) : Octets :=
    "iles ".toList ++ name 0 p ++ " and ".toList ++ name 1 q ++ verb.toList
  let same : Work Unit :=
    if k.tellsSame then Work.sayLine ('F' :: both " are identical")
    else return ()
  if a = b then same
  else if !k.isText && (isBinary a || isBinary b) then
    Work.sayLine (if k.isBrief then 'F' :: both " differ"
      else "Binary f".toList ++ both " differ")
    noteChange
  else
    let as := a.lines
    let bs := b.lines
    let cs := k.changes as bs
    if cs.isEmpty then same
    else
      if k.isBrief then Work.sayLine ('F' :: both " differ")
      else
        Work.say headline
        match k.around with
        | Option.none => Work.say (plainText as bs cs)
        | some n =>
          let t := (← get).files
          Work.say ("--- ".toList ++ k.heading t 0 p ++ "\n+++ ".toList ++
            k.heading t 1 q ++ ['\n'] ++ unifiedText n as bs cs)
      noteChange

/-- What stands at a path, in words. -/
def kindText (n : FileTree.Node) : Octets :=
  match n with
  | .directory => "directory".toList
  | .file [] => "regular empty file".toList
  | .file _ => "regular file".toList
  | _ => "character special file".toList

/-- Compares two files that can be opened. -/
def Task.compareFiles (k : Task) (headline p q : Octets) : Work Unit := do
  if p = q then
    if k.tellsSame then k.run headline p q [] []
  else
    match ← Work.source p with
    | .error r =>
      refuse p r
      if q ≠ ['-'] then
        match ← Work.source q with
        | .error r => refuse q r
        | .ok _ => return
    | .ok s =>
      match ← Work.source q with
      | .error r => refuse q r
      | .ok t =>
        if s.isEndless && t.isEndless then Work.hang
        else
          let n := max s.held.length t.held.length + 1
          k.run headline p q (s.split n).1 (t.split n).1

/-- Compares what stands in two directories, name by name. -/
def Task.compareDirectories (k : Task) (given : Octets) :
    Nat → Octets → Octets → Work Unit
  | 0, _, _ => return
  | fuel + 1, p, q => do
    let t := (← get).files
    let inside (path : Octets) : List Octets :=
      match t.locate path.toText with
      | .ok place => (t.children place).map Octets.ofString
      | .error _ => []
    let ps := inside p
    let qs := inside q
    let names := ((ps ++ qs).eraseDups).mergeSort fun a b => a ≤ b
    Work.each (fun n => do
      let only (d : Octets) : Work Unit := do
        Work.sayLine ("Only in ".toList ++ d ++ ": ".toList ++ n)
        noteChange
      let a := within p n
      let b := within q n
      if !qs.contains n then only p
      else if !ps.contains n then only q
      else
        match t.lookup a.toText, t.lookup b.toText with
        | .ok .directory, .ok .directory =>
          if k.isRecursive then k.compareDirectories given fuel a b
          else Work.sayLine ("Common subdirectories: ".toList ++ a ++
            " and ".toList ++ b)
        | .ok m, .ok o =>
          if m = .directory || o = .directory then
            Work.sayLine ("File ".toList ++ a ++ " is a ".toList ++
              kindText m ++ " while file ".toList ++ b ++ " is a ".toList ++
              kindText o)
            noteChange
          else
            k.compareFiles (given ++ ' ' :: a ++ ' ' :: b ++ ['\n']) a b
        | .error r, .ok _ => refuse a r
        | .ok _, .error r => refuse b r
        | .error r, .error s =>
          refuse a r
          refuse b s) names

/-- Compares what two paths lead to. Where one leads to a directory, the file
of the other's name in it is meant. -/
def Task.compare (k : Task) (given p q : Octets) : Work Unit := do
  let t := (← get).files
  let opens (path : Octets) : Bool :=
    path = ['-'] || (t.lookup path.toText).toOption.isSome
  let isTree (path : Octets) : Bool := path ≠ ['-'] && isDirectory t path
  match isTree p, isTree q with
  | true, true => k.compareDirectories given (t.nodes.length + 1) p q
  | true, false =>
    if opens q then k.compareFiles [] (within p (lastName q)) q
    else k.compareFiles [] q q
  | false, true =>
    if opens p then k.compareFiles [] p (within q (lastName p))
    else k.compareFiles [] p p
  | false, false => k.compareFiles [] p q

end Differing

open Differing in
/-- Says which changes make one file of another. -/
def diff : Program := fun c =>
  let switches : List Switch :=
    [.flag 'q' "brief", .flag 's' "report-identical-files",
     .flag 'd' "minimal", .flag 'a' "text", .flag 'r' "recursive",
     .flag 'i' "ignore-case", .flag 'w' "ignore-all-space",
     .flag 'b' "ignore-space-change", .flag 'Z' "ignore-trailing-space",
     .flag 'u' "", .valued 'U' "", .long "unified" .maybe,
     .valued 'L' "label",
     .long "normal" .nothing]
  let misuse : Octets → Work Unit := Compared.misuse c
  c.asked switches true (fun m => misuse m.message) ({} : Task)
    (fun k o => Work.accept misuse (k.add o)) fun k _ args =>
    let given := [' '].intercalate
      (c.name :: c.args.filter fun a => !args.contains a)
    match args with
    | [p, q] => k.compare given p q
    | _ :: _ :: o :: _ => misuse ("extra operand \x27".toList ++ o ++ ['\x27'])
    | [p] =>
      misuse ("missing operand after \x27".toList ++ p ++ ['\x27'])
    | [] =>
      misuse ("missing operand after \x27".toList ++ c.name ++ ['\x27'])

end BitProbe.Bench

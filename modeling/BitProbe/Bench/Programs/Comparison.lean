import BitProbe.Bench.Numerals
import BitProbe.Bench.Programs.Passing

/-!
Comparing two files.

* `Compared.firstDifference`, with `Compared.firstDifference_self`: how much
  two texts have in common;
* `cmp`: octet by octet;
* `comm`: line by line, for files in order.
-/

namespace BitProbe.Bench

namespace Compared

/-- How many octets two texts have in common at their start. -/
def firstDifference : Octets → Octets → Nat → Nat
  | a :: as, b :: bs, n => if a = b then firstDifference as bs (n + 1) else n
  | _, _, n => n

/-- A text has everything in common with itself. -/
theorem firstDifference_self (o : Octets) (n : Nat) :
    firstDifference o o n = n + o.length := by
  induction o generalizing n with
  | nil => rfl
  | cons c cs ih =>
    simp only [firstDifference, if_pos, ih, List.length_cons]
    omega

/-- An octet that may not be printable, as it is shown. -/
def octet (c : Char) : Octets :=
  if c.toNat < 128 then Shown.control c
  else 'M' :: '-' :: Shown.control (Char.ofNat (c.toNat - 128))

/-- An octal number in three columns. -/
def octal (c : Char) : Octets := (Nat.toDigits 8 c.toNat).leftpad 3 ' '

/-- What is wrong with the arguments. -/
def misuse (c : Call) (message : Octets) : Work Unit := do
  Work.complain 2 message
  Work.complain 2 ("Try \x27".toList ++ c.name ++
    " --help\x27 for more information.".toList)

/-- A number of octets, with a unit, and what follows it: nothing, or what
starts with a mark. -/
def leadingAmount? (mark : Option Char) (o : Octets) :
    Option (Nat × Octets) :=
  let text := match mark with
    | some m => o.takeWhile (· ≠ m)
    | none => o
  let rest := o.drop text.length
  match leadingInteger? true text with
  | some (n, unit) =>
    if n < 0 || unit = ['b'] then none
    else
      match unitSize? unit with
      | some u => if n.toNat * u < 2 ^ 63 then some (n.toNat * u, rest) else none
      | none => none
  | none => none

/-- Where files end or differ first. -/
structure Place where
  octets : Nat
  lines : Nat

/-- How two files are compared. -/
structure Task where
  isQuiet : Bool := false
  /-- Whether every difference is shown. -/
  isFull : Bool := false
  showsOctets : Bool := false
  /-- How many octets of the first file are not compared. -/
  firstSkip : Nat := 0
  /-- How many octets of the second file are not compared. -/
  secondSkip : Nat := 0
  /-- How many octets are compared at most. -/
  limit : Option Nat := none

/-- A task that compares less of the first file, and why not. -/
def Task.skipFirst (k : Task) (mark : Option Char) (o : Octets) :
    Except Octets (Task × Octets) :=
  match leadingAmount? mark o with
  | some (n, rest) => .ok ({ k with firstSkip := max k.firstSkip n }, rest)
  | none =>
    .error ("invalid --ignore-initial value \x27".toList ++ o ++ ['\x27'])

/-- A task that compares less of the second file, and why not. -/
def Task.skipSecond (k : Task) (o : Octets) : Except Octets Task :=
  match leadingAmount? none o with
  | some (n, _) => .ok { k with secondSkip := max k.secondSkip n }
  | none =>
    .error ("invalid --ignore-initial value \x27".toList ++ o ++ ['\x27'])

/-- A task with what one more option asks for. -/
def Task.add (k : Task) (o : Opt) : Except Octets Task :=
  let v := o.value.getD []
  let clash : Except Octets Task :=
    .error "options -l and -s are incompatible".toList
  match o.key with
  | "print-bytes" => .ok { k with showsOctets := true }
  | "verbose" => if k.isQuiet then clash else .ok { k with isFull := true }
  | "silent" | "quiet" =>
    if k.isFull then clash else .ok { k with isQuiet := true }
  | "bytes" =>
    match leadingAmount? none v with
    | some (n, _) =>
      .ok { k with limit := some (match k.limit with
        | some m => min m n
        | none => n) }
    | none => .error ("invalid --bytes value \x27".toList ++ v ++ ['\x27'])
  | "ignore-initial" => do
    let (k, rest) ← k.skipFirst (some ':') v
    match rest with
    | [] => return { k with secondSkip := max k.secondSkip k.firstSkip }
    | _ :: second => k.skipSecond second
  | _ => .ok k

/-- A task with what the operands after the names of the files ask for. -/
def Task.addOperands (k : Task) : List Octets → Except Octets Task
  | [] => .ok k
  | a :: more => do
    let (k, _) ← k.skipFirst none a
    match more with
    | [] => return k
    | b :: more =>
      let k ← k.skipSecond b
      match more with
      | [] => return k
      | o :: _ => throw ("extra operand \x27".toList ++ o ++ ['\x27'])

/-- Compares two texts with names. -/
def Task.run (k : Task) (p q : Octets) (a b : Octets) : Work Unit := do
  let same := firstDifference a b 0
  let common := a.take same
  let lines := common.count '\n'
  let shared := min a.length b.length
  if a = b then return
  else if k.isQuiet then Work.setStatus 1
  else
    if k.isFull then
      let width := (Text.decimal shared).length
      Work.say (((a.zip b).zipIdx 1).flatMap fun (x : (Char × Char) × Nat) =>
        if x.1.1 = x.1.2 then []
        else
          (Text.decimal x.2).leftpad width ' ' ++ ' ' :: octal x.1.1 ++ ' ' ::
            (if k.showsOctets then
              (octet x.1.1).rightpad 4 ' ' ++ ' ' :: octal x.1.2 ++ ' ' ::
                octet x.1.2
            else octal x.1.2) ++ ['\n'])
      Work.setStatus 1
    else if same < shared then
      let x := (a[same]?).getD ' '
      let y := (b[same]?).getD ' '
      Work.sayLine (p ++ ' ' :: q ++ " differ: ".toList ++
        (if k.showsOctets then "byte " else "char ").toList ++
        Text.decimal (same + 1) ++ ", line ".toList ++
        Text.decimal (lines + 1) ++
        (if k.showsOctets then
          " is ".toList ++ octal x ++ ' ' :: octet x ++ ' ' :: octal y ++
            ' ' :: octet y
        else []))
      Work.setStatus 1
    if same = shared || (k.isFull && a.length ≠ b.length) then
      let short := if a.length < b.length then p else q
      let common := a.take shared
      let lines := common.count '\n'
      let place :=
        if shared = 0 then " which is empty".toList
        else
          " after byte ".toList ++ Text.decimal shared ++
            (if k.isFull then []
            else if common.getLast? = some '\n' then
              ", line ".toList ++ Text.decimal lines
            else ", in line ".toList ++ Text.decimal (lines + 1))
      Work.complain 1 ("EOF on ".toList ++ short ++ place)

/-- What can be read of a file, unless it cannot be opened. -/
def Task.open? (k : Task) (path : Octets) :
    Work (Option (Except FileError Stream)) := do
  match ← Work.source path with
  | .ok s => return some (.ok s)
  | .error r =>
    if r = .isADirectory then return some (.error r)
    else
      if k.isQuiet && path ≠ ['-'] then Work.setStatus 2
      else Work.complain 2 (path ++ ": ".toList ++ r.reason.toList)
      return none

/-- Compares two streams with names. -/
def Task.runStreams (k : Task) (p q : Octets) (s t : Stream) : Work Unit :=
  let a := (s.split k.firstSkip).2
  let b := (t.split k.secondSkip).2
  let endless := a.isEndless && b.isEndless
  match k.limit with
  | some n => k.run p q (a.split n).1 (b.split n).1
  | none =>
    let n := max a.held.length b.held.length + 1
    if endless then Work.hang else k.run p q (a.split n).1 (b.split n).1

/-- Compares two files, of which nothing is read before both are open. A file
is not compared with itself. -/
def Task.compare (k : Task) (p q : Octets) : Work Unit := do
  let refuse (path : Octets) (r : FileError) : Work Unit :=
    Work.complain 2 (path ++ ": ".toList ++ r.reason.toList)
  match ← k.open? p with
  | none => return
  | some s =>
    if p = q && k.firstSkip = k.secondSkip then return
    match s, ← k.open? q with
    | _, none => return
    | .error r, _ => refuse p r
    | _, some (.error r) => refuse q r
    | .ok s, some (.ok t) => k.runStreams p q s t

end Compared

open Compared in
/-- Says where two files differ. -/
def cmp : Program := fun c =>
  let switches : List Switch :=
    [.flag 'b' "print-bytes", .valued 'i' "ignore-initial",
     .flag 'l' "verbose", .valued 'n' "bytes", .flag 's' "silent",
     .long "quiet" .nothing, .flag 'v' "version"]
  c.asked switches true (fun m => misuse c m.message) ({} : Task)
    (fun k o => Work.accept (misuse c) (k.add o)) fun k _ args =>
    match args with
    | [] => misuse c ("missing operand after \x27".toList ++ c.name ++ ['\x27'])
    | p :: more =>
      let q := more.headD ['-']
      match k.addOperands (more.drop 1) with
      | .error m => misuse c m
      | .ok k => k.compare p q

/-! ### Lines -/

namespace Merged

/-- How the lines of two files are shown. -/
structure Task where
  /-- What ends a line. -/
  ending : Char := '\n'
  /-- What stands before a column for each column before it. -/
  tab : Octets := ['\t']
  /-- The columns that are left out. -/
  hidden : List Nat := []
  /-- Whether the order of lines matters, and whether it always does: if not,
  then only when some line has been in one of the files alone. -/
  order : Option Bool := some false
  total : Bool := false
  hasTab : Bool := false

/-- The lines of a file that are still to be read, and the last two that have
been, the later one first. -/
structure Side where
  left : List Octets
  read : List Octets := []
  /-- Whether it has been said that lines are out of order. -/
  isToldOf : Bool := false

/-- How far two files have been merged. -/
structure Progress where
  first : Side
  second : Side
  /-- Whether some line has been in one of the files alone. -/
  isUneven : Bool := false
  /-- How many lines each column has. -/
  counts : Nat × Nat × Nat := (0, 0, 0)
  isOver : Bool := false

/-- The side with the next line read. -/
def Side.advance (s : Side) : Side :=
  match s.left with
  | [] => s
  | l :: left => { s with left, read := l :: s.read.take 1 }

/-- Whether the line that has just been read is followed by a lesser one. At
the end of a file the last two lines are looked at again. -/
def Side.isDisordered (s : Side) : Bool :=
  match s.left, s.read with
  | l :: _, m :: _ => l < m
  | [], l :: m :: _ => l < m
  | _, _ => false

/-- Says that lines of a file are out of order, unless that has been said or
does not matter yet. -/
def Task.check (k : Task) (uneven : Bool) (n : Nat) (s : Side) :
    Work (Side × Bool) := do
  let status := (← get).status
  match k.order with
  | none => return (s, false)
  | some always =>
    if (always || uneven) && !s.isToldOf && s.isDisordered then
      Work.complain (if always then 1 else status)
        ("file ".toList ++ Text.decimal n ++
          " is not in sorted order".toList)
      return ({ s with isToldOf := true }, always)
    else return (s, false)

/-- Writes a line in a column, with what stands before it. -/
def Task.line (k : Task) (column : Nat) (l : Octets) : Work Unit :=
  if k.hidden.contains column then return ()
  else
    let before := ((List.range column).filter fun i =>
      0 < i && !k.hidden.contains i).flatMap fun _ => k.tab
    Work.say (before ++ l ++ [k.ending])

/-- The column of the next line: that of the first file, that of the second
one, or that of both. -/
def column (a b : List Octets) : Nat :=
  match a, b with
  | [], _ => 2
  | _, [] => 1
  | a :: _, b :: _ => if a = b then 3 else if a < b then 1 else 2

/-- One line more. -/
def Task.step (k : Task) (p : Progress) : Work Progress := do
  let n := column p.first.left p.second.left
  let l := (if n = 2 then p.second.left else p.first.left).headD []
  k.line n l
  let uneven := p.isUneven || n ≠ 3
  let (x, y, z) := p.counts
  let counts := if n = 1 then (x + 1, y, z) else if n = 2 then (x, y + 1, z)
    else (x, y, z + 1)
  let (first, ended) ← if n ≠ 2 then k.check uneven 1 p.first.advance
    else pure (p.first, false)
  if ended then return { p with isOver := true }
  let (second, ended) ← if n ≠ 1 then k.check uneven 2 p.second.advance
    else pure (p.second, false)
  return ⟨first, second, uneven, counts, ended⟩

/-- All lines. -/
def Task.run (k : Task) : Nat → Progress → Work Progress
  | 0, p => return p
  | fuel + 1, p => do
    if p.isOver || p.first.left.isEmpty && p.second.left.isEmpty then return p
    else k.run fuel (← k.step p)

/-- What follows all lines. -/
def Task.close (k : Task) (p : Progress) : Work Unit := do
  if p.isOver then return
  let (x, y, z) := p.counts
  if k.total then
    Work.say (k.tab.intercalate ([x, y, z].map Text.decimal ++
      ["total".toList]) ++ [k.ending])
  if p.first.isToldOf || p.second.isToldOf then
    Work.complain 1 "input is not in sorted order".toList

/-- The task with an option. -/
def Task.add (k : Task) (o : Opt) : Except Octets Task :=
  match o.key, o.value with
  | "zero-terminated", _ => .ok { k with ending := Char.ofNat 0 }
  | "check-order", _ => .ok { k with order := some true }
  | "nocheck-order", _ => .ok { k with order := none }
  | "total", _ => .ok { k with total := true }
  | "output-delimiter", some v =>
    if k.hasTab && k.tab ≠ v then
      .error "multiple output delimiters specified".toList
    else
      .ok { k with hasTab := true
                   tab := if v.isEmpty then [Char.ofNat 0] else v }
  | n, _ => .ok { k with hidden := (Text.decimal? n.toList).getD 0 :: k.hidden }

/-- Merges two streams. -/
def Task.merge (k : Task) (s t : Stream) : Work Unit := do
  let linesOf (s : Stream) : List Octets :=
    let o := if s.isEndless then (s.split Work.enough).1 else s.held
    (Octets.linesBy k.ending o).map (Octets.withoutEnd k.ending)
  let as := linesOf s
  let bs := linesOf t
  let p ← k.run (as.length + bs.length + 1) { first := ⟨as, [], false⟩
                                              second := ⟨bs, [], false⟩ }
  if (s.isEndless || t.isEndless) && !p.isOver then Work.hang
  else k.close p

end Merged

open Merged in
/-- The lines of two files that are in order, in three columns: those of the
first one alone, those of the second one alone and those of both. -/
def comm : Program := fun c =>
  let switches : List Switch :=
    [.flag '1' "", .flag '2' "", .flag '3' "", .flag 'z' "zero-terminated",
     .long "check-order" .nothing, .long "nocheck-order" .nothing,
     .long "output-delimiter" .value, .long "total" .nothing]
  c.asked switches true (fun m => Work.misuse 1 m.message) ({} : Task)
    (fun k o => Work.accept (Work.complain 1) (k.add o)) fun k _ args =>
    match args with
    | [] => Work.misuse 1 "missing operand".toList
    | [p] => Work.misuse 1 ("missing operand after ".toList ++ quoted p)
    | p :: q :: rest =>
      match rest with
      | extra :: _ => Work.misuse 1 ("extra operand ".toList ++ quoted extra)
      | [] => do
        match ← Work.source p with
        | .error r => Work.refuse p r
        | .ok s =>
          match ← Work.source q with
          | .error r => Work.refuse q r
          | .ok t => k.merge s t

end BitProbe.Bench

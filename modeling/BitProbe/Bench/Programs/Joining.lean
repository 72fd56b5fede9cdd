import BitProbe.Bench.Numerals
import BitProbe.Bench.Programs.Passing

/-!
Lines of two files that share a field.

Both files are in the order of that field, so that they are read once. Lines of
one field are held until a line with another field comes.

* `Joining.Task`, `Joining.Task.add`: what options ask for;
* `Joining.Line`, `Joining.Task.line`: a line with its fields;
* `Joining.Task.row`: what is written of two lines;
* `Joining.pairs`, with `Joining.length_pairs`: all lines of one group with
  all lines of another one;
* `Joining.Task.run`: reading the files side by side;
* `join`: the program.
-/

namespace BitProbe.Bench

namespace Joining

/-! ### What is asked for -/

/-- What an argument may be: a file, or what belongs to the option in front of
it. -/
inductive Role where
  | file
  /-- The field of a file, if there are files enough. -/
  | field (second : Bool)
  | columns
  deriving DecidableEq

/-- A column of what is written: a field of a file, or the one that is
shared. -/
inductive Column where
  | shared
  | field (second : Bool) (place : Nat)

/-- What the program is asked to do. -/
structure Task where
  firstField : Option Nat := none
  secondField : Option Nat := none
  showsFirst : Bool := false
  showsSecond : Bool := false
  showsPairs : Bool := true
  filler : Option Octets := none
  ignoresCase : Bool := false
  columns : List Column := []
  /-- Whether every line has as many columns as the first one. -/
  isEven : Bool := false
  tab : Option Char := none
  ending : Char := '\n'
  /-- Whether the order of lines is looked at, and whether it always is: if
  not, then only when some line has been without a partner. -/
  order : Option Bool := some false
  hasHeader : Bool := false
  files : List (Octets × Role) := []
  /-- What the next argument may be. -/
  role : Role := .file
  /-- The files whose fields have been asked for without saying which. -/
  pending : List Bool := []

/-- What is wrong with arguments. -/
structure Fault where
  message : Octets
  isMisuse : Bool := false

/-- A message about a text. -/
def fault {α : Type} (what : String) (o : Octets) : Except Fault α :=
  .error { message := what.toList ++ quoted o }

/-- The number of a field, starting at zero, which is not too large. -/
def fieldNumber (o : Octets) : Except Fault Nat :=
  match leadingInteger? false o with
  | some (n, []) =>
    if n ≤ 0 || o.contains '-' then fault "invalid field number: " o
    else .ok (min (n.toNat - 1) (2 ^ 64 - 2))
  | _ => fault "invalid field number: " o

/-- A column by its description. -/
def columnOf (o : Octets) : Except Fault Column :=
  match o with
  | ['0'] => .ok .shared
  | '0' :: _ => fault "invalid field specifier: " o
  | c :: rest =>
    if c = '1' || c = '2' then
      match rest with
      | '.' :: n => do
        return .field (c = '2') (← fieldNumber n)
      | _ => fault "invalid field specifier: " o
    else fault "invalid file number in field spec: " o
  | [] => fault "invalid file number in field spec: " o

/-- The field that is asked for, unless another one has been. -/
def settled (old : Option Nat) (n : Nat) : Except Fault (Option Nat) :=
  if old.any (· ≠ n) then
    .error { message := "incompatible join fields ".toList ++
      Text.decimal (old.getD 0) ++ ", ".toList ++ Text.decimal n }
  else .ok (some n)

namespace Task

/-- The task with a field that lines share. -/
def withField (k : Task) (second : Bool) (n : Nat) :
    Except Fault Task := do
  if second then return { k with secondField := ← settled k.secondField n }
  else return { k with firstField := ← settled k.firstField n }

/-- The task with columns. -/
def withColumns (k : Task) (o : Octets) : Except Fault Task := do
  let cs ← (o.splitOnP (· ∈ [',', ' ', '\t'])).mapM columnOf
  return { k with columns := k.columns ++ cs }

/-- The task with an argument that has turned out to be no file. -/
def withOther (k : Task) (o : Octets) : Role → Except Fault Task
  | .file => .ok k
  | .field second => do
    let k := { k with pending := k.pending.erase second }
    k.withField second (← fieldNumber o)
  | .columns => k.withColumns o

/-- The task with an argument that is a file, unless there are too many: then
one in front of it is none. -/
def withFile (k : Task) (o : Octets) : Except Fault Task := do
  let k ← match k.files with
    | [(a, ra), (b, rb)] =>
      match ra, rb with
      | .file, .file =>
        throw { message := "extra operand ".toList ++ named o, isMisuse := true }
      | .file, rb => do
        let k ← k.withOther b rb
        pure { k with files := [(a, .file)] }
      | ra, rb => do
        let k ← k.withOther a ra
        pure { k with files := [(b, rb)] }
    | _ => pure k
  return { k with
    files := k.files ++ [(o, k.role)]
    role := if k.role = .columns then .columns else .file }

/-- The octet that an option names as the one between fields. -/
def tabOf (o : Octets) : Except Fault Char :=
  match o with
  | [] => .ok '\n'
  | [c] => .ok c
  | ['\\', '0'] => .ok (Char.ofNat 0)
  | _ => fault "multi-character tab " o

/-- The task with an option or an argument, or what is wrong with it. An option
whose value may be the field or the file is told by the arguments. -/
def add (args : List Octets) (k : Task) (o : Opt) : Except Fault Task := do
  let v := o.value.getD []
  let plain := { k with role := .file }
  let lines (k : Task) : Except Fault Task :=
    match leadingInteger? false v with
    | some (1, []) => .ok { k with showsFirst := true }
    | some (2, []) => .ok { k with showsSecond := true }
    | _ => fault "invalid field number: " v
  match o.key with
  | "" => k.withFile v
  | "--" => plain.withFile v
  | "a" => lines plain
  | "v" => lines { plain with showsPairs := false }
  | "e" =>
    if k.filler.any (· ≠ v) then
      throw { message := "conflicting empty-field replacement strings".toList }
    return { plain with filler := some v }
  | "ignore-case" => return { plain with ignoresCase := true }
  | "1" => plain.withField false (← fieldNumber v)
  | "2" => plain.withField true (← fieldNumber v)
  | "j" =>
    if (v = ['1'] || v = ['2']) && args.contains ('-' :: 'j' :: v) then
      let second : Bool := v = ['2']
      return { k with role := .field second, pending := second :: k.pending }
    else
      let n ← fieldNumber v
      (← plain.withField false n).withField true n
  | "o" =>
    if v = "auto".toList then return { plain with isEven := true }
    else return { ← k.withColumns v with role := .columns }
  | "t" =>
    let c ← tabOf v
    if k.tab.any (· ≠ c) then
      throw { message := "incompatible tabs".toList }
    return { plain with tab := some c }
  | "zero-terminated" => return { plain with ending := Char.ofNat 0 }
  | "check-order" => return { plain with order := some true }
  | "nocheck-order" => return { plain with order := none }
  | "header" => return { plain with hasHeader := true }
  | _ => return plain

/-- The task once all arguments are known. -/
def ready (k : Task) : Except Fault Task := do
  let k ← k.pending.foldlM (fun (k : Task) second => do
    let n := if second then 1 else 0
    (← k.withField false n).withField true n) k
  return k

/-! ### Lines -/

end Task

/-- A line with its fields. -/
structure Line where
  text : Octets
  fields : List Octets

namespace Task

/-- The fields of a line between blanks. -/
def blankFields (o : Octets) : List Octets :=
  let isBlank (c : Char) : Bool := c = ' ' || c = '\t' || c = '\n'
  let body := o.dropWhile isBlank
  let words := (body.splitOnP isBlank).filter (!·.isEmpty)
  if body.isEmpty then []
  else words ++ if body.getLast?.any isBlank then [[]] else []

/-- A line with its fields. -/
def line (k : Task) (text : Octets) : Line :=
  { text
    fields := match k.tab with
      | none => blankFields text
      | some c =>
        if text.isEmpty then []
        else if c = '\n' then [text]
        else text.splitOn c }

/-- The place of the field that lines of a file share. -/
def place (k : Task) (second : Bool) : Nat :=
  (if second then k.secondField else k.firstField).getD 0

/-- The field by which a line is compared. -/
def key (k : Task) (second : Bool) (l : Line) : Octets :=
  let o := (l.fields[k.place second]?).getD []
  if k.ignoresCase then o.map Char.toUpper else o

/-- What separates fields that are written. -/
def separator (k : Task) : Char := k.tab.getD ' '

/-- A field as it is written. -/
def shown (k : Task) (fields : List Octets) (n : Nat) : Octets :=
  let o := (fields[n]?).getD []
  if o.isEmpty then k.filler.getD [] else o

/-- The fields of a line but for the one that is shared, so many if there is
a number. -/
def others (k : Task) (second : Bool) (count : Option Nat) (l : Option Line) :
    List Octets :=
  let fields := (l.map (·.fields)).getD []
  ((List.range (count.getD fields.length)).filter (· ≠ k.place second)).map
    (k.shown fields)

/-- What is written of a line of each file, one of which may be missing. The
numbers say how many fields lines have that are all to have as many. -/
def row (k : Task) (counts : Option (Nat × Nat)) (l r : Option Line) :
    Octets :=
  let fieldsOf (l : Option Line) : List Octets := (l.map (·.fields)).getD []
  let shared := if l.isSome then k.shown (fieldsOf l) (k.place false)
    else k.shown (fieldsOf r) (k.place true)
  let texts := if k.columns.isEmpty then
      shared :: k.others false (counts.map (·.1)) l ++
        k.others true (counts.map (·.2)) r
    else k.columns.map fun
      | .shared => shared
      | .field second n => k.shown (fieldsOf (if second then r else l)) n
  [k.separator].intercalate texts ++ [k.ending]

end Task

/-- Every item of one list with every item of another one. -/
def pairs {α β : Type} (xs : List α) (ys : List β) : List (α × β) :=
  xs.flatMap fun x => ys.map fun y => (x, y)

/-- There are as many pairs as the product of the lengths. -/
theorem length_pairs {α β : Type} (xs : List α) (ys : List β) :
    (pairs xs ys).length = xs.length * ys.length := by
  induction xs with
  | nil => simp [pairs]
  | cons x xs ih =>
    simp only [pairs, List.flatMap_cons, List.length_append, List.length_map,
      List.length_cons] at ih ⊢
    rw [ih, Nat.add_mul]
    omega

/-! ### Reading side by side -/

/-- What is left of a file. -/
structure Side where
  name : Octets
  left : List Line
  number : Nat := 0
  last : Option Line := none
  /-- Whether it has been said that lines are out of order. -/
  isTold : Bool := false

/-- How far both files have been read. -/
structure Progress where
  first : Side
  second : Side
  /-- Whether some line has been without a partner. -/
  isUneven : Bool := false

/-- Steps that may end the program. -/
abbrev Step := StateT Progress (OptionT Work)

/-- A file of the two. -/
def Progress.side (p : Progress) (second : Bool) : Side :=
  if second then p.second else p.first

/-- Both files with one of them changed. -/
def Progress.withSide (p : Progress) (second : Bool) (s : Side) : Progress :=
  if second then { p with second := s } else { p with first := s }

/-- Does some work as a step. -/
def act (w : Work Unit) : Step Unit :=
  fun p => OptionT.mk do
    w
    return some ((), p)

/-- Ends the program. -/
def stopped {α : Type} : Step α := fun _ => OptionT.mk (pure none)

namespace Task

/-- Looks at whether a line is less than the one before it. -/
def check (k : Task) (second : Bool) (l : Line) : Step Unit := do
  let p ← get
  let s := p.side second
  match k.order, s.last with
  | some always, some old =>
    if (always || p.isUneven) && !s.isTold &&
        k.key second l < k.key second old then
      act (Work.complain 1 (s.name ++ ':' :: Text.decimal s.number ++
        ": is not sorted: ".toList ++ l.text))
      if always then stopped
      else set (p.withSide second { s with isTold := true })
    else return
  | _, _ => return

/-- Reads a line of a file, if there is one. -/
def next (k : Task) (second : Bool) : Step (Option Line) := do
  let p ← get
  let s := p.side second
  match s.left with
  | [] => return none
  | l :: left =>
    set (p.withSide second { s with left, number := s.number + 1 })
    k.check second l
    modify fun p => p.withSide second { p.side second with last := some l }
    return some l

/-- Reads lines as long as they share a field with a line. What is returned
are those, the last first, and the line after them. -/
def group (k : Task) (second : Bool) (key : Octets) :
    Nat → List Line → Step (List Line × Option Line)
  | 0, ls => return (ls, none)
  | fuel + 1, ls => do
    match ← k.next second with
    | none => return (ls, none)
    | some l =>
      if k.key second l = key then k.group second key fuel (l :: ls)
      else return (ls, some l)

/-- Writes what remains of a file whose partner has ended, as far as it is
wanted or its order matters. -/
def tail (k : Task) (second wanted : Bool) (write : Line → Step Unit) :
    Nat → Step Unit
  | 0 => return
  | fuel + 1 => do
    match ← k.next second with
    | none => return
    | some l =>
      if wanted then write l
      if ((← get).side second).isTold && !wanted then return
      k.tail second wanted write fuel

/-- Says that a line is without a partner, and writes it if that is
wanted. -/
def lone (wanted : Bool) (w : Step Unit) : Step Unit := do
  if wanted then w
  modify fun p => { p with isUneven := true }

/-- Joins two files from a line of each on, until one of them ends. The lines
that are left are returned. -/
def meet (k : Task) (write : Option Line → Option Line → Step Unit) :
    Nat → Option Line → Option Line → Step (Option Line × Option Line)
  | 0, l, r => return (l, r)
  | fuel + 1, some l, some r => do
    let a := k.key false l
    let b := k.key true r
    if a < b then
      if k.showsFirst then write (some l) none
      let next ← k.next false
      modify fun p => { p with isUneven := true }
      k.meet write fuel next (some r)
    else if b < a then
      if k.showsSecond then write none (some r)
      let next ← k.next true
      modify fun p => { p with isUneven := true }
      k.meet write fuel (some l) next
    else
      let size (s : Side) : Nat := s.left.length + 1
      let (ls, next) ← k.group false b (size (← get).first) [l]
      let (rs, other) ← k.group true a (size (← get).second) [r]
      if k.showsPairs then
        (pairs ls.reverse rs.reverse).forM fun (l, r) => write (some l) (some r)
      k.meet write fuel next other
  | _, l, r => return (l, r)

/-- Joins two files. -/
def run (k : Task) : Step Unit := do
  let l ← k.next false
  let r ← k.next true
  let count (l : Option Line) : Nat := ((l.map (·.fields)).getD []).length
  let counts := if k.isEven then some (count l, count r) else none
  let write (l r : Option Line) : Step Unit :=
    act (Work.say (k.row counts l r))
  let (l, r) ←
    if k.hasHeader && (l.isSome || r.isSome) then
      write l r
      modify fun p => { p with
        first := { p.first with last := none }
        second := { p.second with last := none } }
      let l ← if l.isSome then k.next false else pure none
      let r ← if r.isSome then k.next true else pure none
      pure (l, r)
    else pure (l, r)
  let p ← get
  let size := p.first.left.length + p.second.left.length + 2
  let (l, r) ← k.meet write (size + 1) l r
  let told (p : Progress) : Bool := p.first.isTold && p.second.isTold
  let checks := k.order.isSome && !told (← get)
  match l with
  | some l =>
    if k.showsFirst || checks then
      if k.showsFirst then write (some l) none
      if r.isSome then modify fun p => { p with isUneven := true }
      k.tail false k.showsFirst (fun l => write (some l) none) (size + 1)
  | none => pure ()
  match r with
  | some r =>
    if k.showsSecond || checks then
      if k.showsSecond then write none (some r)
      if l.isSome then modify fun p => { p with isUneven := true }
      k.tail true k.showsSecond (fun r => write none (some r)) (size + 1)
  | none => pure ()
  let p ← get
  if p.first.isTold || p.second.isTold then
    act (Work.complain 1 "input is not in sorted order".toList)

/-- What can be read of a file, unless it cannot be opened. -/
def opened (path : Octets) : Work (Option (Except FileError Stream)) := do
  match ← Work.source path with
  | .ok s => return some (.ok s)
  | .error .isADirectory => return some (.error .isADirectory)
  | .error e =>
    if path = ['-'] then return some (.error e)
    Work.refuse path e
    return none

/-- Joins two files by their names. -/
def joinFiles (k : Task) (a b : Octets) : Work Unit := do
  match ← opened a with
  | none => return
  | some s =>
    match ← opened b with
    | none => return
    | some t =>
      if a = ['-'] && b = ['-'] then
        let reason := if (← get).plain then []
          else ": ".toList ++ FileError.notFound.reason.toList
        Work.complain 1
          ("both files cannot be standard input".toList ++ reason)
      else
        match s, t with
        | .error e, _ =>
          Work.complain 1 ("read error: ".toList ++ e.reason.toList)
        | _, .error e =>
          Work.complain 1 ("read error: ".toList ++ e.reason.toList)
        | .ok s, .ok t =>
          let lines (s : Stream) : List Line :=
            let o := if s.isEndless then (s.split Work.enough).1 else s.held
            (Octets.linesBy k.ending o).map fun l =>
              k.line (Octets.withoutEnd k.ending l)
          let _ ← (k.run { first := { name := a, left := lines s }
                           second := { name := b, left := lines t } }).run
          if s.isEndless || t.isEndless then Work.hang

end Task

/-- The options of the program. -/
def switches : List Switch :=
  [.valued 'a' "", .valued 'e' "", .flag 'i' "ignore-case", .valued '1' "",
   .valued '2' "", .valued 'j' "", .valued 'o' "", .valued 't' "",
   .valued 'v' "", .flag 'z' "zero-terminated",
   .long "check-order" .nothing, .long "nocheck-order" .nothing,
   .long "header" .nothing]

end Joining

open Joining in
/-- Lines of two files that share a field, as one line each. -/
def join : Program := fun c =>
  let refuse (f : Fault) : Work Unit :=
    if f.isMisuse then Work.misuse 1 f.message else Work.complain 1 f.message
  c.askedInOrder switches ({} : Task)
    (fun k o => Work.accept refuse (k.add c.args o)) fun (k : Task) =>
      match k.files with
      | [] => Work.misuse 1 "missing operand".toList
      | [_] =>
        Work.misuse 1 ("missing operand after ".toList ++
          quoted (c.args.getLastD []))
      | (a, _) :: (b, _) :: _ =>
        match k.ready with
        | .error f => refuse f
        | .ok k => k.joinFiles a b

end BitProbe.Bench

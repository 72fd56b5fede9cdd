import BitProbe.Bench.Options
import BitProbe.Bench.Programs.Passing

/-!
Lines by their columns.

* `Folding.advance`: the column that an octet leads to;
* `fold`: lines that are broken where they grow too long;
* `TabStops`, `TabStops.read`, `TabStops.next?`: where tabs lead to;
* `expand`, `unexpand`: blanks instead of tabs, and tabs instead of blanks.
-/

namespace BitProbe.Bench

namespace Folding

/-- The column that an octet leads to from a column. -/
def advance (byOctets : Bool) (column : Nat) (c : Char) : Nat :=
  if byOctets then column + 1
  else
    match c with
    | '\x08' => column - 1
    | '\x0d' => 0
    | '\t' => column / 8 * 8 + 8
    | _ => column + 1

/-- The column that octets lead to, given the last first. -/
def columnOf (byOctets : Bool) (reversed : Octets) : Nat :=
  reversed.reverse.foldl (advance byOctets) 0

/-- How lines are broken. -/
structure Style where
  width : Nat := 80
  byOctets : Bool := false
  /-- Whether they are broken after blanks if there are any. -/
  atBlanks : Bool := false

/-- How far lines have been broken: what is done and the line so far, both
the last first, and its column. -/
structure Progress where
  done : Octets := []
  line : Octets := []
  column : Nat := 0

/-- The progress by an octet that fits. -/
def Progress.put (p : Progress) (c : Char) (column : Nat) : Progress :=
  { p with line := c :: p.line, column }

/-- The progress by an octet. The octet starts a new line if the old one would
grow too long. -/
def step (y : Style) (p : Progress) (c : Char) : Progress :=
  if c = '\n' then { done := '\n' :: p.line ++ p.done }
  else
    let column := advance y.byOctets p.column c
    let fresh (p : Progress) : Progress :=
      let column := advance y.byOctets p.column c
      if column ≤ y.width || p.line.isEmpty then p.put c column
      else
        { done := '\n' :: p.line ++ p.done, line := [c]
          column := advance y.byOctets 0 c }
    if column ≤ y.width then p.put c column
    else if y.atBlanks then
      let rest := p.line.takeWhile fun c => c ≠ ' ' && c ≠ '\t'
      let kept := p.line.drop rest.length
      if kept.isEmpty then fresh p
      else fresh { done := '\n' :: kept ++ p.done, line := rest
                   column := columnOf y.byOctets rest }
    else fresh p

/-- Octets with their lines broken. -/
def apply (y : Style) (o : Octets) : Octets :=
  let p := o.foldl (step y) {}
  (p.line ++ p.done).reverse

/-- Options of digits, each of which may have more of them as its value. -/
def digitSwitches : List Switch :=
  "0123456789".toList.map fun d => .mayHave d ""

/-- The octets of an option of digits. -/
def digitsOf (o : Opt) : Octets := o.key.toList ++ o.value.getD []

end Folding

open Folding in
/-- Lines of files that are broken where they grow too long. -/
def fold : Program := fun c =>
  let switches : List Switch :=
    [.flag 'b' "bytes", .flag 's' "spaces", .valued 'w' "width"]
  let width (y : Style) (v : Octets) : Except Octets Style :=
    let l : Limits := { what := "invalid number of columns", low := 1
                        high := 2 ^ 64 - 10, isUnsigned := true }
    (l.read v).map fun n => { y with width := n.toNat }
  let add (y : Style) (o : Opt) : Except Octets Style :=
    match o.key with
    | "bytes" => .ok { y with byOctets := true }
    | "spaces" => .ok { y with atBlanks := true }
    | "width" => width y (o.value.getD [])
    | _ => width y (digitsOf o)
  c.asked (switches ++ digitSwitches) true
    (fun m => Work.misuse 1 m.message) ({} : Style)
    (fun y o => Work.accept (Work.complain 1) (add y o)) fun y _ paths => do
      Work.eachSource paths Work.refuse fun _ s => Work.pass (apply y) s
      Work.closeInput "-" paths

/-! ### Tabs -/

/-- Where tabs lead to. -/
structure TabStops where
  stops : List Nat := []
  /-- What the columns after the last stop are multiples of. -/
  multiple : Option Nat := none
  /-- How far the columns after the last stop are from one another. -/
  increment : Option Nat := none
  deriving Inhabited

namespace TabStops

/-- How a number of a list is marked. -/
inductive Mark where
  | plain | multiple | increment
  deriving DecidableEq

/-- Stops with one more number, or what is wrong with it. -/
def add (t : TabStops) (m : Mark) (n : Nat) : Except Octets TabStops :=
  let once (sign : String) (old : Option Nat) (t : TabStops) :=
    if old.any (0 < ·) then
      .error (("\x27" ++ sign ++
        "\x27 specifier only allowed with the last value").toList)
    else .ok t
  match m with
  | .plain => .ok { t with stops := t.stops ++ [n] }
  | .multiple => once "/" t.multiple { t with multiple := some n }
  | .increment => once "+" t.increment { t with increment := some n }

/-- Stops with the numbers of a list, or the complaints about it. -/
def addAll : Nat → TabStops → Mark → Octets → List Octets →
    Except (List Octets) TabStops
  | 0, t, _, _, wrong => if wrong.isEmpty then .ok t else .error wrong
  | _, t, _, [], wrong => if wrong.isEmpty then .ok t else .error wrong
  | fuel + 1, t, m, c :: cs, wrong =>
    if c = ',' || c = ' ' || c = '\t' then addAll fuel t m cs wrong
    else if c = '/' then addAll fuel t .multiple cs wrong
    else if c = '+' then addAll fuel t .increment cs wrong
    else if c.isDigit then
      let ds := (c :: cs).takeWhile Char.isDigit
      let rest := (c :: cs).drop ds.length
      let n := ofDigits 10 ds
      let (misplaced, after) := match rest with
        | s :: _ => (s = '/' || s = '+', s)
        | [] => (false, ' ')
      if 2 ^ 64 ≤ n then
        addAll fuel t m rest (wrong ++
          ["tab stop is too large ".toList ++ quoted ds])
      else if misplaced then
        addAll fuel t m (rest.drop 1) (wrong ++
          [("\x27" ++ String.ofList [after] ++
            "\x27 specifier not at start of number: ").toList ++ quoted rest])
      else if !rest.isEmpty && after ≠ ',' && after ≠ ' ' && after ≠ '\t' then
        addAll fuel t m rest wrong
      else
        match t.add m n with
        | .ok t => addAll fuel t m rest wrong
        | .error e => .error (wrong ++ [e])
    else
      .error (wrong ++ ["tab size contains invalid character(s): ".toList ++
        quoted (c :: cs)])

/-- Stops with the numbers of a list, or the complaints about it. -/
def read (t : TabStops) (o : Octets) : Except (List Octets) TabStops :=
  addAll (o.length + 1) t .plain o []

/-- What is wrong with stops that have been read, if something is. -/
def fault? (t : TabStops) : Option String :=
  let rec check : Nat → List Nat → Option String
    | _, [] => none
    | last, n :: ns =>
      if n = 0 then some "tab size cannot be 0"
      else if n ≤ last then some "tab sizes must be ascending"
      else check n ns
  match check 0 t.stops with
  | some e => some e
  | none =>
    if t.multiple.any (0 < ·) && t.increment.any (0 < ·) then
      some "\x27/\x27 specifier is mutually exclusive with \x27+\x27"
    else none

/-- The distance of stops that are all at one distance, if they are. -/
def regular? (t : TabStops) : Option Nat :=
  match t.stops, t.multiple.filter (0 < ·), t.increment.filter (0 < ·) with
  | [], some m, _ => some m
  | [], none, some i => some i
  | [], none, none => some 8
  | [n], none, none => some n
  | _, _, _ => none

/-- The stop that a tab leads to from a column, if there is one. Stops before
one that has been passed do not count any more, and their number comes
along. -/
def next? (t : TabStops) (column index : Nat) : Option Nat × Nat :=
  match t.regular? with
  | some n => (some (column / n * n + n), index)
  | none =>
    let later := t.stops.drop index
    let passed := (later.takeWhile (· ≤ column)).length
    let index := index + passed
    match later.drop passed, t.multiple.filter (0 < ·),
        t.increment.filter (0 < ·) with
    | n :: _, _, _ => (some n, index)
    | [], some m, _ => (some (column / m * m + m), index)
    | [], none, some i =>
      let last := t.stops.getLast?.getD 0
      (some (column + (i - (column - last) % i)), index)
    | [], none, none => (none, index)

/-- Stops at one distance are multiples of it. -/
theorem next?_regular (n column index : Nat) :
    ({ stops := [n] } : TabStops).next? column index =
      (some (column / n * n + n), index) := rfl

end TabStops

/-- Where a program stands in a line while it changes tabs or blanks. -/
structure TabState where
  /-- Whether the rest of the line is changed. -/
  converts : Bool := true
  column : Nat := 0
  index : Nat := 0
  /-- Whether there is a blank at the end, and what blanks have been left out,
  the last first. -/
  isBlank : Bool := true
  pending : Octets := []
  /-- Whether the first blank left out stands just before a stop. -/
  isSingle : Bool := false

namespace TabState

/-- The state at the start of a line after the end of one. -/
def after (c : Char) (s : TabState) : TabState :=
  if c = '\n' then {} else s

/-- The state one column back. -/
def back (s : TabState) : TabState :=
  { s with column := s.column - 1, index := s.index - 1 }

/-- What an octet becomes where tabs become blanks. -/
def expand (t : TabStops) (all : Bool) (s : TabState) (c : Char) :
    TabState × Octets :=
  if !s.converts then (s.after c, [c])
  else
    let (s, o) := if c = '\t' then
        let (stop, index) := t.next? s.column s.index
        let column := stop.getD (s.column + 1)
        ({ s with column, index },
          List.replicate (max 1 (column - s.column)) ' ')
      else if c = '\x08' then (s.back, [c])
      else ({ s with column := s.column + 1 }, [c])
    let s := { s with converts := all || c = ' ' || c = '\t' }
    (s.after c, o)

/-- What has been left out, before octets. -/
def release (s : TabState) (o : Octets) : TabState × Octets :=
  if s.pending.isEmpty then (s, o)
  else
    let held := s.pending.reverse
    let held := if s.isSingle && 1 < held.length then '\t' :: held.drop 1
      else held
    ({ s with pending := [], isSingle := false }, held ++ o)

/-- What an octet becomes where blanks become tabs. -/
def unexpand (t : TabStops) (all : Bool) (s : TabState) (c : Char) :
    TabState × Octets :=
  if !s.converts then (s.after c, [c])
  else
    let blank := c = ' ' || c = '\t'
    let finish (s : TabState) (c : Char) : TabState × Octets :=
      let (s, o) := s.release [c]
      let s := { s with
        isBlank := blank
        converts := s.converts && (all || blank) }
      (s.after c, o)
    if blank then
      match t.next? s.column s.index with
      | (none, index) => finish { s with index, converts := false } c
      | (some stop, index) =>
        let s := { s with index }
        -- What has been left out becomes a tab, and one more if the first
        -- blank stands just before a stop.
        let tabbed (s : TabState) (pending : Octets) : TabState × Octets :=
          let kept := if s.isSingle then pending.drop (pending.length - 1)
            else []
          finish { s with pending := kept } '\t'
        if c = '\t' then
          let pending := if s.pending.isEmpty then []
            else s.pending.dropLast ++ ['\t']
          tabbed { s with column := stop } pending
        else
          let s := { s with column := s.column + 1 }
          if s.isBlank && s.column = stop then
            tabbed s (s.pending.dropLast ++ ['\t'])
          else
            ({ s with
               isSingle := s.isSingle || s.column = stop
               pending := c :: s.pending
               isBlank := true }, [])
    else if c = '\x08' then finish s.back c
    else finish { s with column := s.column + 1 } c

/-- What octets become, from a state on. -/
def run (f : TabState → Char → TabState × Octets) (s : TabState)
    (o : Octets) : TabState × Octets :=
  let r := o.foldl (fun (a : TabState × Octets) c =>
    let (s, p) := f a.1 c
    (s, p.reverse ++ a.2)) (s, [])
  (r.1, r.2.reverse)

/-- What files become, one after another. -/
def pour (f : TabState → Char → TabState × Octets) (atEnd : TabState → Octets)
    (paths : List Octets) : Work Unit := do
  let s ← Work.foldSource paths Work.refuse (fun s _ (r : Stream) => do
    if r.isEndless then
      let o := (run f s (r.split Work.enough).1).2
      Work.pour { held := o, forever := o }
      return s
    else
      let (s, o) := run f s r.held
      Work.say o
      return s) ({} : TabState)
  Work.say (atEnd s)
  Work.closeInput "-" paths

end TabState

/-- Stops with what an option asks for. Complaints end the program. -/
def addStops (t : TabStops) (v : Octets) : Work (Option TabStops) := do
  match t.read v with
  | .ok t => return some t
  | .error wrong =>
    wrong.forM (Work.complain 1)
    return none

/-- Blanks instead of the tabs of files. -/
def expand : Program := fun c =>
  c.asked ([.flag 'i' "initial", .valued 't' "tabs"] ++
      Folding.digitSwitches) true
    (fun m => Work.misuse 1 m.message) ({} : TabStops)
    (fun t o =>
      match o.key with
      | "tabs" => addStops t (o.value.getD [])
      | "initial" => return some t
      | _ => addStops t (Folding.digitsOf o))
    fun t os paths =>
      match t.fault? with
      | some e => Work.complain 1 e.toList
      | none =>
        TabState.pour (TabState.expand t !(hasOpt os "initial"))
          (fun _ => []) paths

/-- Tabs instead of the blanks of files. -/
def unexpand : Program := fun c =>
  let older : List Switch := ",0123456789".toList.map fun d => .flag d ""
  c.asked ([.flag 'a' "all", .long "first-only" .nothing, .valued 't' "tabs"] ++
      older) true
    (fun m => Work.misuse 1 m.message) (({}, []) : TabStops × Octets)
    (fun (t, list) o => do
      match o.key with
      | "tabs" => return (← addStops t (o.value.getD [])).map (·, list)
      | "all" => return some (t, list)
      | "first-only" => return some (t, list)
      | d => return some (t, list ++ d.toList))
    fun (t, list) os paths => do
      match ← addStops t list with
      | none => return
      | some t =>
        match t.fault? with
        | some e => Work.complain 1 e.toList
        | none =>
          let all := (hasOpt os "all" || hasOpt os "tabs") &&
            !hasOpt os "first-only"
          TabState.pour (TabState.unexpand t all)
            (fun s => (s.release []).2) paths

end BitProbe.Bench

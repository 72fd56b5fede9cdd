import BitProbe.Bench.Numerals
import BitProbe.Bench.Options

/-!
Lines that repeat the line before them.

* `Repeating.Spread`: where empty lines stand between groups of lines;
* `Repeating.Task`: what the options ask for;
* `Repeating.Task.part`: what of a line is compared;
* `Repeating.Task.groups`: lines that repeat one another;
* `Repeating.Task.write`: what is written of groups;
* `uniq`: the program.
-/

namespace BitProbe.Bench

namespace Repeating

/-- Where empty lines stand between groups of lines. -/
inductive Spread where
  | never | before | after | between | around
  deriving DecidableEq

/-- What options ask for. -/
structure Task where
  skippedFields : Nat := 0
  /-- Whether the number of fields has been given digit by digit. -/
  isByDigits : Bool := false
  skipped : Nat := 0
  width : Option Nat := none
  ignoresCase : Bool := false
  counts : Bool := false
  /-- Whether lines are written that are not repeated, the last line of
  those that are, and the others. -/
  writesSingle : Bool := true
  writesLast : Bool := true
  writesOthers : Bool := false
  /-- Whether it has been said which lines are written. -/
  isChosen : Bool := false
  spread : Spread := .never
  isGrouped : Bool := false
  ending : Char := '\n'

namespace Task

/-- What of a line is compared. -/
def part (k : Task) (line : Octets) : Octets :=
  let isBlank (c : Char) : Bool := c = ' ' || c = '\t' || c = '\n'
  let rec dropFields : Nat → Octets → Octets
    | 0, o => o
    | _, [] => []
    | n + 1, o => dropFields n ((o.dropWhile isBlank).dropWhile (!isBlank ·))
  let o := (dropFields k.skippedFields line).drop k.skipped
  let o := match k.width with
    | some n => o.take n
    | none => o
  if k.ignoresCase then o.map Char.toUpper else o

/-- Lines in groups of those that repeat one another, each with the last line
first, and the last group first. -/
def groups (k : Task) (lines : List Octets) : List (List Octets) :=
  (lines.foldl (fun (r : List (List Octets) × Octets) line =>
    let part := k.part line
    match r.1 with
    | [] => ([[line]], part)
    | g :: gs =>
      if part = r.2 then ((line :: g) :: gs, part)
      else ([line] :: g :: gs, part)) ([], [])).1

/-- What is written of a group of lines: those that repeat another one, and
how many there are if that is wanted. -/
def chosen (k : Task) (group : List Octets) : List Octets :=
  let number (n : Nat) (line : Octets) : Octets :=
    if k.counts then (Nat.toDigits 10 n).leftpad 7 ' ' ++ ' ' :: line else line
  match group with
  | [] => []
  | [line] => if k.writesSingle then [number 1 line] else []
  | line :: others =>
    if k.writesOthers then
      others.reverse ++ if k.writesLast then [line] else []
    else if k.writesLast then
      [number group.length (others.getLast?.getD line)]
    else []

/-- What is written of groups. -/
def write (k : Task) (groups : List (List Octets)) : Octets :=
  let isShown (g : List Octets) : Bool := k.isGrouped || 1 < g.length
  let line (o : Octets) : Octets := o ++ [k.ending]
  (groups.foldl (fun (r : Octets × Bool) group =>
    let lines := if k.isGrouped then group.reverse else k.chosen group
    let isNext := r.2
    let isMarked := isShown group && (match k.spread with
      | .before => true
      | .around => true
      | .never => false
      | _ => isNext)
    (r.1 ++ (if isMarked then [k.ending] else []) ++ lines.flatMap line,
      isNext || isShown group)) ([], false)).1 ++
    if k.isGrouped && !groups.isEmpty &&
        (k.spread = .after || k.spread = .around) then [k.ending]
    else []

/-- Everything is written of lines that are all in groups of their own. -/
theorem chosen_single (k : Task) (line : Octets) (h : k.writesSingle = true)
    (hc : k.counts = false) : k.chosen [line] = [line] := by
  simp [chosen, h, hc]

/-- The switches with choices. -/
def repeatedSwitch : Switch :=
  .choice "all-repeated" .maybe [["none"], ["prepend"], ["separate"]]

@[inherit_doc repeatedSwitch]
def groupSwitch : Switch :=
  .choice "group" .maybe [["prepend"], ["append"], ["separate"], ["both"]]

/-- A number in an argument, or what is wrong with it. -/
def number (what : String) (o : Octets) : Except Octets Nat :=
  match leadingInteger? false o with
  | some (.ofNat n, []) => .ok n
  | _ => .error (o ++ ": invalid number of ".toList ++ what.toList)

/-- The task that writes all lines that are repeated. -/
def all (k : Task) (spread : Spread) : Task :=
  { k with writesSingle := false, writesOthers := true, isChosen := true
           spread }

/-- The task with what an option adds to it, or what is wrong with it. -/
def add (k : Task) (o : Opt) : Except Octets Task := do
  let v := o.value.getD []
  match o.key with
  | "count" => return { k with counts := true }
  | "repeated" => return { k with writesSingle := false, isChosen := true }
  | "unique" => return { k with writesLast := false, isChosen := true }
  | "D" => return k.all .never
  | "all-repeated" =>
    return k.all (match o.value.map String.ofList with
      | some "prepend" => .before
      | some "separate" => .between
      | _ => .never)
  | "group" =>
    return { k with
      isGrouped := true
      spread := match o.value.map String.ofList with
        | some "prepend" => .before
        | some "append" => .after
        | some "both" => .around
        | _ => .between }
  | "ignore-case" => return { k with ignoresCase := true }
  | "skip-fields" =>
    return { k with
      skippedFields := ← number "fields to skip" v, isByDigits := false }
  | "skip-chars" =>
    return { k with skipped := ← number "bytes to skip" v }
  | "check-chars" =>
    return { k with width := some (← number "bytes to compare" v) }
  | "zero-terminated" => return { k with ending := Char.ofNat 0 }
  | key =>
    match key.toList with
    | [d] =>
      if d.isDigit then
        let n := if k.isByDigits then k.skippedFields else 0
        return { k with
          skippedFields := min (2 ^ 64) (n * 10 + (d.toNat - '0'.toNat))
          isByDigits := true }
      else return k
    | _ => return k

/-- What does not go together in a task. -/
def fault? (k : Task) : Option String :=
  if k.isGrouped && (k.isChosen || k.counts) then
    some "--group is mutually exclusive with -c/-d/-D/-u"
  else if k.counts && k.writesOthers then
    some "printing all duplicated lines and repeat counts is meaningless"
  else none

/-- The lines of octets. -/
def lines (k : Task) (o : Octets) : List Octets :=
  let parts := o.splitOn k.ending
  if parts.getLast? = some [] then parts.dropLast else parts

/-- What is written of octets. -/
def text (k : Task) (o : Octets) : Octets :=
  k.write ((k.groups (k.lines o)).reverse)

/-- Looks through a file and writes what is found, to another file if there
is one. -/
def run (k : Task) (input : Octets) (output : Option Octets) :
    Work Unit := do
  let reason (o : Octets) (e : FileError) : Work Unit :=
    Work.complain 1 (o ++ ": ".toList ++ e.reason.toList)
  let opened ← Work.source input
  match opened with
  | .error .isADirectory =>
    Work.complain 1 ("error reading ".toList ++ named input ++ ": ".toList ++
      FileError.isADirectory.reason.toList)
  | .error e =>
    if input = ['-'] then
      Work.complain 1 ("error reading ".toList ++ named input ++ ": ".toList ++
        e.reason.toList)
    else reason (bareName input) e
  | .ok s =>
    match output with
    | some p =>
      match ← Work.write p [] with
      | .error e => reason (bareName p) e
      | .ok () =>
        if s.isEndless then Work.hang
        match ← Work.write p (k.text s.held) with
        | .ok () => return
        | .error e => reason "write error".toList e
    | none =>
      if !s.isEndless then Work.say (k.text s.held)
      else if k.isGrouped || k.writesOthers then
        let o := k.text (s.split Work.enough).1
        if o.isEmpty then Work.hang else Work.pour { held := o, forever := o }
      else Work.hang

end Task

/-- The options of the program. -/
def switches : List Switch :=
  [.flag 'c' "count", .flag 'd' "repeated", Task.repeatedSwitch,
   Task.groupSwitch, .flag 'D' "", .flag 'i' "ignore-case",
   .flag 'u' "unique", .valued 'f' "skip-fields", .valued 's' "skip-chars",
   .valued 'w' "check-chars", .flag 'z' "zero-terminated"] ++ Switch.numbers

end Repeating

open Repeating in
/-- Lines without those that repeat the line before them. -/
def uniq : Program := fun c =>
  c.asked switches true (fun m => Work.misuse 1 m.message) ({} : Task)
    (fun k o => Work.accept (Work.complain 1) (k.add o))
    fun (k : Task) _ args => do
      let older? (a : Octets) : Option Nat :=
        match a with
        | '+' :: cs => (Task.number "" ('+' :: cs)).toOption
        | _ => none
      let paths := args.filter fun a => (older? a).isNone
      let k := { k with
        skipped := ((args.filterMap older?).getLast?).getD k.skipped }
      match paths, k.fault? with
      | _ :: _ :: p :: _, _ => Work.misuse 1 ("extra operand ".toList ++ quoted p)
      | _, some m => Work.misuse 1 m.toList
      | [], none => k.run ['-'] none
      | [i], none => k.run i none
      | [i, o], none => k.run i (if o = ['-'] then none else some o)

end BitProbe.Bench

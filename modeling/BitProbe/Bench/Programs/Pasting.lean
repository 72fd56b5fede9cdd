import BitProbe.Bench.Programs.Passing

/-!
Lines side by side.

* `Pasting.delimiters`: what stands between lines, in turn;
* `Pasting.row`: one line of each file;
* `Pasting.serial`: the lines of one file as one line;
* `paste`: the program.
-/

namespace BitProbe.Bench

namespace Pasting

/-- What a list of delimiters stands for: octets, or nothing. A backslash at
the end is none. -/
def delimiters : Octets → Option (List Octets)
  | [] => some []
  | ['\\'] => none
  | '\\' :: c :: cs =>
    let o : Octets := match c with
      | '0' => []
      | 'b' => ['\x08']
      | 'f' => ['\x0c']
      | 'n' => ['\n']
      | 'r' => ['\x0d']
      | 't' => ['\t']
      | 'v' => ['\x0b']
      | c => [c]
    (delimiters cs).map (o :: ·)
  | c :: cs => (delimiters cs).map ([c] :: ·)

/-- The lines that are left of a file, if it has not been closed; or that its
lines are those of the input. -/
inductive Column where
  | closed
  | lines (ls : List Octets)
  | input

/-- The next line of a file, what is left of it, and what is left of the
input. -/
def Column.next (c : Column) (input : List Octets) :
    Option Octets × Column × List Octets :=
  match c, input with
  | lines (l :: ls), input => (some l, lines ls, input)
  | .input, l :: ls => (some l, .input, ls)
  | _, input => (none, closed, input)

/-- Whether a file has not been closed. -/
def Column.isOpen : Column → Bool
  | closed => false
  | _ => true

/-- One line of each file, the last of which is followed by the end of a line:
what is written, what is left of the files and of the input. A file without a
line leaves a delimiter that is written before the next line; once all files
are closed the others leave nothing. -/
def row (ending : Char) : List Column → List Octets → List Octets →
    (pending : Octets) → (wrote : Bool) → (others : Nat) →
    Octets × List Column × List Octets
  | [], _, input, _, _, _ => ([], [], input)
  | c :: cs, ds, input, pending, wrote, others =>
    let (l, c', rest) := c.next input
    let open_ := others + (cs.filter Column.isOpen).length +
      (if c'.isOpen then 1 else 0)
    let d := ds.headD []
    match l with
    | some l =>
      let l := Octets.withoutEnd ending l
      let after := if cs.isEmpty then [ending] else d
      let r := row ending cs (ds.tail ++ ds.take 1) rest [] true
        (others + (if c'.isOpen then 1 else 0))
      (pending ++ l ++ after ++ r.1, c' :: r.2.1, r.2.2)
    | none =>
      if c.isOpen && open_ = 0 && !cs.isEmpty then ([], c' :: cs, rest)
      else if cs.isEmpty then
        (if wrote then pending ++ [ending] else [], [c'], rest)
      else
        let r := row ending cs (ds.tail ++ ds.take 1) rest (pending ++ d) wrote
          others
        (r.1, c' :: r.2.1, r.2.2)

/-- The lines of files side by side, until all files are closed. -/
def rows (ending : Char) (ds : List Octets) :
    Nat → List Column → List Octets → List Octets → List Octets
  | 0, _, _, done => done.reverse
  | fuel + 1, cs, input, done =>
    if cs.any Column.isOpen then
      let (o, cs, input) := row ending cs ds input [] false 0
      rows ending ds fuel cs input (o :: done)
    else done.reverse

/-- The lines of a file as one line. -/
def serial (ending : Char) (ds : List Octets) (o : Octets) : Octets :=
  let rec join : List Octets → List Octets → Octets
    | [], _ => []
    | [l], _ => l
    | l :: ls, ds => l ++ ds.headD [] ++ join ls (ds.tail ++ ds.take 1)
  let ls := (Octets.linesBy ending o).map (Octets.withoutEnd ending)
  join ls ds ++ [ending]

/-- A single line stays as it is. -/
theorem serial_single (ending : Char) (ds : List Octets) :
    serial ending ds [] = [ending] := by
  simp [serial, Octets.linesBy, serial.join]

end Pasting

open Pasting in
/-- The lines of files side by side, or one after another. -/
def paste : Program := fun c =>
  let switches : List Switch :=
    [.valued 'd' "delimiters", .flag 's' "serial", .flag 'z' "zero-terminated"]
  c.given switches true 1 fun os paths => do
    let ending := if hasOpt os "zero-terminated" then Char.ofNat 0 else '\n'
    let list := (optValue? os "delimiters").getD ['\t']
    match delimiters list with
    | none =>
      Work.complain 1
        ("delimiter list ends with an unescaped backslash: ".toList ++ list)
    | some ds =>
      let ds := if ds.isEmpty then [[]] else ds
      if hasOpt os "serial" then
        let refuse (p : Octets) (r : FileError) : Work Unit := do
          if r = .isADirectory then Work.say [ending]
          Work.refuse p r
        Work.eachSource paths refuse fun _ s => do
          if s.isEndless then
            let o := (serial ending ds (s.split Work.enough).1).dropLast ++
              ds.headD []
            Work.pour { held := o, forever := o }
          else Work.say (serial ending ds s.held)
      else
        let paths := if paths.isEmpty then [['-']] else paths
        let rec gather : List Octets → List (Column × Bool) →
            Work (Option (List (Column × Bool)))
          | [], cs => return some cs.reverse
          | ['-'] :: ps, cs => gather ps ((.input, false) :: cs)
          | p :: ps, cs => do
            match ← Work.source p with
            | .ok s =>
              let o := if s.isEndless then (s.split Work.enough).1 else s.held
              gather ps ((.lines (Octets.linesBy ending o), s.isEndless) :: cs)
            | .error .isADirectory =>
              gather ps ((.lines [], false) :: cs)
            | .error r =>
              Work.refuse p r
              return none
        match ← gather paths [] with
        | none => return
        | some cs =>
          let input ← if paths.contains ['-'] then Work.takeInput
            else pure (.ok Stream.empty)
          let s := match input with
            | .ok s => s
            | .error _ => Stream.empty
          let o := if s.isEndless then (s.split Work.enough).1 else s.held
          let lines := Octets.linesBy ending o
          let fuel := o.length + 1 + (cs.map fun c => match c.1 with
            | .lines ls => ls.length + 1
            | _ => 1).sum
          let written := rows ending ds fuel (cs.map (·.1)) lines []
          if s.isEndless || cs.any (·.2) then
            Work.pour { held := written.flatten
                        forever := written.headD [] }
          else Work.say written.flatten
          let files := (← get).files
          paths.forM fun (p : Octets) =>
            match files.lookup p.toText with
            | .ok .directory => Work.refuse p .isADirectory
            | _ => return ()
      Work.closeInput "-" paths

end BitProbe.Bench

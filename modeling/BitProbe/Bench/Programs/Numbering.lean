import BitProbe.Bench.Options
import BitProbe.Bench.Programs.Passing

/-!
Numbers before lines.

A text has pages of three sections, each of which says which of its lines
have numbers. Lines that consist of a sign, repeated once to three times,
start a section and are not written.

* `Numbering.Choice`: which lines have numbers;
* `Numbering.Section`, `Numbering.Style`: the sections, and how numbers look;
* `Numbering.sectionOf`: the section that a line starts;
* `nl`: the program.
-/

namespace BitProbe.Bench

namespace Numbering

/-- Which lines have numbers. -/
inductive Choice where
  | all | filled | none
  /-- Those in which an expression is found. -/
  | matching (e : Engine)
  deriving Inhabited

/-- A part of a page. -/
inductive Section where
  | header | body | footer
  deriving DecidableEq

/-- How numbers look. -/
inductive Alignment where
  | left | right | zeros
  deriving DecidableEq

/-- How lines are numbered. -/
structure Style where
  header : Choice := .none
  body : Choice := .filled
  footer : Choice := .none
  sign : Octets := ['\\', ':']
  first : Int := 1
  increment : Int := 1
  /-- How many empty lines count as one. -/
  joined : Nat := 1
  separator : Octets := ['\t']
  width : Nat := 6
  alignment : Alignment := .right
  /-- Whether pages start anew. -/
  restarts : Bool := true
  /-- Whether something about it has been wrong. -/
  isWrong : Bool := false

/-- The lines of a section that have numbers. -/
def Style.choice (y : Style) : Section → Choice
  | .header => y.header
  | .body => y.body
  | .footer => y.footer

/-- The section that a line starts, if it starts one. -/
def sectionOf (sign line : Octets) : Option Section :=
  if sign.length < 2 then Option.none
  else if line = sign ++ sign ++ sign then some .header
  else if line = sign ++ sign then some .body
  else if line = sign then some .footer
  else Option.none

/-- A sign by itself starts the last section of a page. -/
theorem sectionOf_sign {sign : Octets} (h : 2 ≤ sign.length) :
    sectionOf sign sign = some .footer := by
  have h₁ : sign ≠ sign ++ sign ++ sign := fun e => by
    have := congrArg List.length e
    simp only [List.length_append] at this
    omega
  have h₂ : sign ≠ sign ++ sign := fun e => by
    have := congrArg List.length e
    simp only [List.length_append] at this
    omega
  unfold sectionOf
  rw [if_neg (by omega), if_neg h₁, if_neg h₂, if_pos rfl]

/-- A number as it looks. -/
def Style.shown (y : Style) (n : Int) : Octets :=
  let ds := (toString n.natAbs).toList
  let sign : Octets := if n < 0 then ['-'] else []
  match y.alignment with
  | .left => (sign ++ ds) ++
      List.replicate (y.width - (sign ++ ds).length) ' '
  | .right => (sign ++ ds).leftpad y.width ' '
  | .zeros => sign ++ ds.leftpad (y.width - sign.length) '0'

/-- How far lines have been numbered. -/
structure Progress where
  current : Section := .body
  number : Int
  blanks : Nat := 0
  /-- Whether there are no more numbers. -/
  isOver : Bool := false

/-- The dialect of expressions that lines are chosen by. -/
def dialect : Dialect :=
  { Dialect.basic with
    refusesLoneIntervals := false
    refusesEmptyRanges := false }

/-- The choice that a text stands for; what is wrong with its expression; or
nothing if it is none. -/
def choice? (plain : Bool) (v : Octets) : Option (Except RegexError Choice) :=
  match v with
  | 'a' :: _ => some (.ok .all)
  | 't' :: _ => some (.ok .filled)
  | 'n' :: _ => some (.ok .none)
  | 'p' :: e =>
    some ((Regex.read dialect plain e).map fun r =>
      .matching (Engine.ofRegex r false true))
  | _ => Option.none

/-- Whether a line has a number, and the empty lines before it. -/
def hasNumber (plain : Bool) (y : Style) (p : Progress) (line : Octets) :
    Bool × Nat :=
  match y.choice p.current with
  | .none => (false, p.blanks)
  | .filled => (!line.isEmpty, p.blanks)
  | .matching e => (e.isIn plain line, p.blanks)
  | .all =>
    if y.joined ≤ 1 then (true, p.blanks)
    else if !line.isEmpty || p.blanks + 1 = y.joined then (true, 0)
    else (false, p.blanks + 1)

/-- Writes a line. -/
def step (plain : Bool) (y : Style) (p : Progress) (line : Octets) :
    Except Unit (Progress × Octets) :=
  match sectionOf y.sign line with
  | some s =>
    let p := { p with current := s }
    let p := if y.restarts then { p with number := y.first, isOver := false }
      else p
    .ok (p, ['\n'])
  | Option.none =>
    let (numbered, blanks) := hasNumber plain y p line
    let p := { p with blanks }
    if !numbered then
      .ok (p, List.replicate (y.width + y.separator.length) ' ' ++ line ++
        ['\n'])
    else if p.isOver then .error ()
    else
      let next := p.number + y.increment
      let isOver := Limits.largest < next || next < -Limits.largest - 1
      .ok ({ p with number := next, isOver },
        y.shown p.number ++ y.separator ++ line ++ ['\n'])

/-- Writes the lines of octets. -/
def run (plain : Bool) (y : Style) :
    List Octets → Progress → List Octets → Progress × List Octets × Bool
  | [], p, done => (p, done, true)
  | l :: ls, p, done =>
    match step plain y p (Octets.withoutEnd '\n' l) with
    | .ok (p, o) => run plain y ls p (o :: done)
    | .error () => (p, done, false)

/-- A style with what an option asks for. -/
def Style.add (y : Style) (o : Opt) : Work (Option Style) := do
  let v := o.value.getD []
  let plain := (← get).plain
  let wrong (m : String) : Work (Option Style) := do
    Work.complain 1 (m.toList ++ ": ".toList ++ quoted v)
    return some { y with isWrong := true }
  let refused (m : Octets) : Work (Option Style) := do
    Work.complain 1 m
    return none
  let chosen (what : String) (f : Choice → Style) : Work (Option Style) :=
    match choice? plain v with
    | some (.ok c) => return some (f c)
    | some (.error e) => refused e.message.toList
    | Option.none => wrong ("invalid " ++ what ++ " numbering style")
  let number (l : Limits) (f : Int → Style) : Work (Option Style) :=
    match l.read v with
    | .ok n => return some (f n)
    | .error m => refused m
  match o.key with
  | "header-numbering" => chosen "header" fun c => { y with header := c }
  | "body-numbering" => chosen "body" fun c => { y with body := c }
  | "footer-numbering" => chosen "footer" fun c => { y with footer := c }
  | "starting-line-number" =>
    number ⟨"invalid starting line number", -Limits.largest - 1,
      Limits.largest, false⟩ fun n => { y with first := n }
  | "line-increment" =>
    number ⟨"invalid line number increment", -Limits.largest - 1,
      Limits.largest, false⟩ fun n => { y with increment := n }
  | "no-renumber" => return some { y with restarts := false }
  | "join-blank-lines" =>
    number ⟨"invalid line number of blank lines", 1, Limits.largest, false⟩
      fun n => { y with joined := n.toNat }
  | "number-separator" => return some { y with separator := v }
  | "number-width" =>
    number ⟨"invalid line number field width", 1, 2 ^ 31 - 1, false⟩
      fun n => { y with width := n.toNat }
  | "number-format" =>
    match String.ofList v with
    | "ln" => return some { y with alignment := .left }
    | "rn" => return some { y with alignment := .right }
    | "rz" => return some { y with alignment := .zeros }
    | _ => wrong "invalid line numbering format"
  | "section-delimiter" =>
    return some { y with
      sign := if v.length = 1 then v ++ [':'] else v }
  | _ => return some y

end Numbering

open Numbering in
/-- Numbers before the lines of files. -/
def nl : Program := fun c =>
  let switches : List Switch :=
    [.valued 'h' "header-numbering", .valued 'b' "body-numbering",
     .valued 'f' "footer-numbering", .valued 'v' "starting-line-number",
     .valued 'i' "line-increment", .flag 'p' "no-renumber",
     .valued 'l' "join-blank-lines", .valued 's' "number-separator",
     .valued 'w' "number-width", .valued 'n' "number-format",
     .valued 'd' "section-delimiter"]
  c.asked switches true (fun m => Work.misuse 1 m.message) ({} : Style)
    Style.add fun y _ paths => do
      let plain := (← get).plain
      if y.isWrong then
        Work.setStatus 1
        Work.sayOn 2 ("Try \x27".toList ++ c.name ++
          " --help\x27 for more information.\n".toList)
      else
        let _ ← Work.foldSource paths Work.refuse
          (fun (p : Option Progress) _ (s : Stream) => do
            match p with
            | none => return none
            | some p =>
              let o := if s.isEndless then (s.split Work.enough).1 else s.held
              let (p, done, finished) := run plain y (Octets.lines o) p []
              let o := done.reverse.flatten
              Work.pour { held := o, forever := if s.isEndless then o else [] }
              if finished then return some p
              else
                Work.complain 1 "line number overflow".toList
                return none) (some { number := y.first })
        Work.closeInput "-" paths

end BitProbe.Bench

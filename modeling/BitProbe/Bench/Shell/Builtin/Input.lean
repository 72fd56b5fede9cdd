import BitProbe.Bench.Shell.Builtin.Names

/-!
The commands of the shell's own that take apart what is given: a line of the
input, or arguments with options among them.

* `Line`, `Line.ofInput`: a line in which a backslash hides what follows it;
* `Line.fields`: the fields of a line, the last of which takes what is left;
* `Builtin.read`, `Builtin.getopts`.
-/

namespace BitProbe.Bench.Shell

/-- A part of a line. -/
inductive Line.Part where
  | octet (c : Char)
  /-- An octet after a backslash. -/
  | hidden (c : Char)
  /-- A backslash at the end of a line that goes on. -/
  | joint

/-- A line of the input. -/
abbrev Line := List Line.Part

namespace Line

/-- The line at the start of octets, whether it ends, and how many octets it
takes. Without `raw` a backslash hides the octet after it. -/
def ofInput (raw : Bool) : Octets → Line × Bool × Nat
  | [] => ([], false, 0)
  | '\n' :: _ => ([], true, 1)
  | '\\' :: c :: cs =>
    if raw then
      let r := ofInput raw (c :: cs)
      (.octet '\\' :: r.1, r.2.1, r.2.2 + 1)
    else
      let r := ofInput raw cs
      ((if c = '\n' then .joint else .hidden c) :: r.1, r.2.1, r.2.2 + 2)
  | c :: cs =>
    let r := ofInput raw cs
    if c = Char.ofNat 0 || c = '\\' && !raw then (r.1, r.2.1, r.2.2 + 1)
    else (.octet c :: r.1, r.2.1, r.2.2 + 1)

/-- What is known while a line is split. -/
structure Splitting where
  /-- The fields that have been found, the last first. -/
  found : List Octets := []
  /-- The field that has begun, in reverse order. -/
  begun : Octets := []
  /-- How many fields may still be found. -/
  left : Nat
  /-- Whether blanks come directly before. -/
  inBlanks : Bool := false
  /-- The size to which the last field is cut, unless more follows. -/
  cut : Option Nat := none

/-- Takes an octet that was not hidden. -/
def Splitting.take (seps : Octets) (s : Splitting) (c : Char) : Splitting :=
  let separates := seps.contains c
  let blank := separates && usualSeparators.contains c
  let kept := { s with begun := c :: s.begun }
  if s.left = 0 then
    if blank then { kept with cut := s.cut.or (some s.begun.length) }
    else if separates && s.inBlanks then { kept with inBlanks := false }
    else { kept with cut := none, inBlanks := false }
  else if s.inBlanks && blank then { s with begun := [] }
  else if s.inBlanks && separates then
    { s with begun := [], inBlanks := false }
  else if s.inBlanks then { s with begun := [c], inBlanks := false }
  else if !separates then { kept with inBlanks := false }
  else if s.begun.isEmpty && blank then { s with inBlanks := false }
  else if s.left = 1 then
    { kept with
      left := 0
      inBlanks := blank
      cut := some s.begun.length }
  else
    { s with
      found := s.begun.reverse :: s.found
      begun := []
      left := s.left - 1
      inBlanks := blank }

/-- Takes a part of a line. -/
def Splitting.step (seps : Octets) (s : Splitting) : Part → Splitting
  | .octet c => s.take seps c
  | .hidden c => { s with begun := c :: s.begun, inBlanks := false }
  | .joint => { s with inBlanks := false }

/-- The fields of a line, so many at most; the last takes what is left but for
blanks at the end. -/
def fields (seps : Octets) (most : Nat) (l : Line) : List Octets :=
  let s := l.foldl (Splitting.step seps) { left := most }
  let last := match s.cut with
    | some n => s.begun.reverse.take n
    | none => s.begun.reverse
  s.found.reverse ++ if last.isEmpty then [] else [last]

end Line

namespace Builtin

/-- Reads a line into variables. -/
def read : Builtin := fun _ args st =>
  withFlags ['r'] ['p'] args (fun fs names st =>
    if names.isEmpty then st.fail "arg count".toList
    else
      let s := st.streamAt 0
      let o := s.held ++ s.forever
      let (line, ended, size) := Line.ofInput (hasFlag fs 'r') o
      let st := st.leave 0 (s.split size).2
      let fields := line.fields st.separators names.length
      let st := (names.zipIdx).foldl (fun st n =>
        if st.isRunning then setChecked n.1 ((fields[n.2]?).getD []) st
        else st) st
      if st.isRunning then ending (if ended then 0 else 1) st else st) st

/-- What reading an option leads to. -/
structure Found where
  letter : Char
  value : Option Octets := none
  message : Option Octets := none
  index : Nat
  place : Option Nat := none

/-- The next option among arguments, if there is one; otherwise where the
arguments go on. -/
def nextOption (letters : Octets) (args : List Octets) (index : Nat)
    (place : Option Nat) : Found ⊕ Nat :=
  let before := (args[index - 2]?).getD []
  let inside := match place with
    | some k => if 1 < index && k ≤ before.length then before.drop k else []
    | none => []
  let quiet := letters.head? = some ':'
  let go (index : Nat) (word rest : Octets) (c : Char) : Found ⊕ Nat :=
    let after : Option Nat :=
      if rest.isEmpty then none else some (word.length - rest.length)
    let at? := letters.dropWhile (· ≠ c)
    let takes := (at?.drop 1).head? = some ':'
    if c = ':' || at?.isEmpty then
      .inl { letter := '?', index, place := after,
             value := if quiet then some [c] else none,
             message := if quiet then none
               else some ("Illegal option -".toList ++ [c]) }
    else if !takes then .inl { letter := c, index, place := after, value := some [] }
    else if !rest.isEmpty then .inl { letter := c, index, value := some rest }
    else
      match args[index - 1]? with
      | some v => .inl { letter := c, index := index + 1, value := some v }
      | none =>
        .inl { letter := if quiet then ':' else '?', index,
               value := if quiet then some [c] else none,
               message := if quiet then none
                 else some ("No arg for -".toList ++ c :: " option".toList) }
  match inside with
  | c :: rest => go index before rest c
  | [] =>
    match args[index - 1]? with
    | some ('-' :: '-' :: []) => .inr (index + 1)
    | some ('-' :: c :: rest) => go (index + 1) ('-' :: c :: rest) rest c
    | _ => .inr index

/-- Takes one option from the arguments. -/
def getopts : Builtin := fun _ args st =>
  match args with
  | letters :: name :: more =>
    let among := if more.isEmpty then st.args else more
    let after (index : Nat) (place : Option Nat) (letter : Char)
        (status : Nat) (st : State) : State :=
      let st := setChecked "OPTIND".toList (Text.decimal index) st
      let st := setChecked name [letter] st
      if st.isRunning then
        { st with optionIndex := index, optionPlace := place, status }
      else st
    match nextOption letters among st.optionIndex st.optionPlace with
    | .inr index => after index none '?' 1 st
    | .inl f =>
      let st := match f.message with
        | some m => st.sendOr 2 (m ++ ['\n'])
        | none => st
      let st := match f.value with
        | some o => setChecked "OPTARG".toList o st
        | none => { st with bindings := st.bindings.drop "OPTARG".toList }
      after f.index f.place f.letter 0 st
  | _ => st.fail "Usage: getopts optstring var [arg...]".toList

/-- The commands that take apart what is given. -/
def input : List (String × Bool × Builtin) :=
  [("read", false, read), ("getopts", false, getopts)]

end Builtin

end BitProbe.Bench.Shell

import BitProbe.Bench.Regex.Reading
import Std.Data.HashSet

/-!
Searching with regular expressions.

An expression is turned into steps, each of which leads to others. A search
follows every way through the steps from one place of a text and keeps the
longest match; of several ways to the same end the first one counts, where
alternatives come in the order they are written in and a repetition goes on
before it ends. A step that has been at a place before is not followed from
there again, unless what groups have matched can come back.

* `Step`, `Steps.ofRegex`: an expression as steps;
* `Match`: a place in a text and the places of groups;
* `Engine`: an expression that is ready to search with;
* `Engine.matchAt?`, `Engine.search?`: the match at a place, and the first one
  from a place on.
-/

namespace BitProbe.Bench

/-- One step of a search and where it leads. -/
inductive Step where
  | octet (c : Char) (next : Nat)
  | one (s : CharSet) (next : Nat)
  | anchor (a : Anchor) (next : Nat)
  | back (n : Nat) (next : Nat)
  | opened (n : Nat) (next : Nat)
  | closed (n : Nat) (isOptional : Bool) (next : Nat)
  | fork (first second : Nat)
  /-- A repetition: once more, or on. -/
  | again (body next : Nat)
  | done
  deriving Inhabited

namespace Step

/-- The steps of octets one after another before others, and the number of
the first of them. -/
def addOctets (next : Nat) (steps : Array Step) : Octets → Nat × Array Step
  | [] => (next, steps)
  | c :: cs =>
    let r := addOctets next steps cs
    (r.2.size, r.2.push (octet c r.1))

/-- The steps of an expression before others, and the number of the first of
them. -/
def add (ignoringCase : Bool) (next : Nat) (steps : Array Step) :
    Regex → Nat × Array Step
  | .nothing => (next, steps)
  | .octets o =>
    match ignoringCase, encodedAt? o, o with
    | true, some (_, c), _ => (steps.size, steps.push (one (CharSet.one c) next))
    | true, none, [c] => (steps.size, steps.push (one (CharSet.one c) next))
    | _, _, o => addOctets next steps o
  | .one s => (steps.size, steps.push (one s next))
  | .anchor a => (steps.size, steps.push (anchor a next))
  | .back n => (steps.size, steps.push (back n next))
  | .group n isOptional r =>
    let inner := add ignoringCase steps.size
      (steps.push (closed n isOptional next)) r
    (inner.2.size, inner.2.push (opened n inner.1))
  | .both r s =>
    let after := add ignoringCase next steps s
    add ignoringCase after.1 after.2 r
  | .either r s =>
    let second := add ignoringCase next steps s
    let first := add ignoringCase next second.2 r
    (first.2.size, first.2.push (fork first.1 second.1))
  | .many r =>
    let here := steps.size
    let body := add ignoringCase here (steps.push done) r
    (here, body.2.setIfInBounds here (again body.1 next))

end Step

/-- The places of groups: where they start and where they end. -/
abbrev Groups := Array (Option (Nat × Option Nat))

/-- A match: its place in a text, and the places of the groups, the first of
which is the match itself. -/
structure Match where
  start : Nat
  finish : Nat
  groups : Groups

namespace Match

/-- The place of a group that has matched. -/
def group? (m : Match) (n : Nat) : Option (Nat × Nat) :=
  if n = 0 then some (m.start, m.finish)
  else
    match m.groups[n]? with
    | some (some (a, some b)) => some (a, b)
    | _ => none

/-- Whether nothing has been matched. -/
def isEmpty (m : Match) : Bool := m.start = m.finish

end Match

/-- An expression that is ready to search with. -/
structure Engine where
  steps : Array Step
  first : Nat
  groups : Nat
  hasBack : Bool
  ignoringCase : Bool
  /-- Whether the ends of lines within a text count. -/
  isByLines : Bool

namespace Engine

/-- An expression made ready. -/
def ofRegex (r : Regex) (ignoringCase isByLines : Bool) : Engine :=
  let s := Step.add ignoringCase 0 #[.done] r
  { steps := s.2, first := s.1, groups := r.groups, hasBack := r.hasBack
    ignoringCase, isByLines }

/-- Whether an anchor holds at a place. -/
def holds (e : Engine) (t : Subject) (i : Nat) (a : Anchor) : Bool :=
  let word (c : Option Char) := t.isWordAt c
  let around : Bool × Bool := match a with
    | .lineStart => (false, false)
    | .lineEnd => (false, false)
    | .textStart => (false, false)
    | .textEnd => (false, false)
    | _ => (word (t.before? i), word ((t.after? i).map (·.1)))
  match a with
  | .lineStart => i = 0 || e.isByLines && t.octet (i - 1) = '\n'
  | .lineEnd => i = t.size || e.isByLines && t.octet i = '\n'
  | .textStart => i = 0
  | .textEnd => i = t.size
  | .wordStart => !around.1 && around.2
  | .wordEnd => around.1 && !around.2
  | .insideWord => around.1 && around.2
  | .outsideWord => !around.1 && !around.2

/-- Where a way through the steps has come to: the step and the place, the
groups, the groups as they were when one of them last matched something, and
the repetitions that have been entered since the place was reached. -/
structure Way where
  step : Nat
  place : Nat
  groups : Groups
  settled : Groups
  entered : List Nat := []

/-- A way that goes on with another step. -/
def Way.to (w : Way) (step : Nat) : Way := { w with step }

/-- A way that goes on with another step at another place. -/
def Way.on (w : Way) (step place : Nat) : Way :=
  { w with step, place, entered := if place = w.place then w.entered else [] }

/-- A way that closes a group. A group that may be left out and has matched
nothing does not count after it has matched something. -/
def Way.close (w : Way) (n : Nat) (isOptional : Bool) (next : Nat) : Way :=
  match w.groups[n]? with
  | some (some (a, _)) =>
    let closed := w.groups.setIfInBounds n (some (a, some w.place))
    if a < w.place then
      { w with step := next, groups := closed, settled := closed }
    else
      match isOptional, w.settled[n]? with
      | true, some (some _) => { w with step := next, groups := w.settled }
      | _, _ => { w with step := next, groups := closed }
  | _ => w.to next

/-- Whether a text repeats octets at a place. -/
def repeatsAt (e : Engine) (t : Subject) (a b i : Nat) : Bool :=
  i + (b - a) ≤ t.size && (List.range (b - a)).all fun k =>
    let c := t.octet (a + k)
    let d := t.octet (i + k)
    c = d || e.ignoringCase && c.toUpper = d.toUpper

/-- The ways that follow a way, the first one first. -/
def next (e : Engine) (t : Subject) (w : Way) : List Way :=
  match e.steps.getD w.step .done with
  | .octet c n =>
    if t.octets[w.place]? = some c then [w.on n (w.place + 1)] else []
  | .one s n =>
    match t.after? w.place with
    | some (c, k) =>
      if t.admits e.ignoringCase s c then [w.on n (w.place + k)] else []
    | none => []
  | .anchor a n => if e.holds t w.place a then [w.to n] else []
  | .back g n =>
    match w.groups[g]? with
    | some (some (a, some b)) =>
      if e.repeatsAt t a b w.place then [w.on n (w.place + (b - a))] else []
    | _ => []
  | .opened g n =>
    [{ w with
       step := n
       groups := w.groups.setIfInBounds g (some (w.place, none)) }]
  | .closed g isOptional n => [w.close g isOptional n]
  | .fork a b => [w.to a, w.to b]
  | .again body n =>
    let inside := { w with step := body, entered := w.step :: w.entered }
    [inside, w.to n]
  | .done => []

/-- The places of steps that have been looked at, each as one number. -/
abbrev Seen := Std.HashSet Nat

/-- The number of a step at a place. -/
def spot (e : Engine) (w : Way) : Nat :=
  w.place * e.steps.size + w.step

/-- Whether a way has been followed before, as far as it matters. -/
def wasSeen (e : Engine) (seen : Seen) (w : Way) : Bool :=
  if e.hasBack then w.entered.contains w.step
  else seen.contains (e.spot w)

/-- Follows ways until there are none left, and keeps the longest match. A
repetition that is entered again at the same place ends. -/
def follow (e : Engine) (t : Subject) (start : Nat) :
    Nat → List Way → Seen → Option Match → Option Match × Seen
  | 0, _, seen, best => (best, seen)
  | _, [], seen, best => (best, seen)
  | fuel + 1, w :: ws, seen, best =>
    if e.wasSeen seen w then
      match e.steps.getD w.step .done with
      | .again _ n => follow e t start fuel (w.to n :: ws) seen best
      | _ => follow e t start fuel ws seen best
    else
      let seen := if e.hasBack then seen else seen.insert (e.spot w)
      match e.steps.getD w.step .done with
      | .done =>
        if best.all (·.finish < w.place) then
          let m : Match := ⟨start, w.place, w.groups⟩
          if w.place = t.size then (some m, seen)
          else follow e t start fuel ws seen (some m)
        else follow e t start fuel ws seen best
      | _ => follow e t start fuel (e.next t w ++ ws) seen best

/-- How many steps a search takes at most. -/
def patience (e : Engine) (t : Subject) : Nat :=
  if e.hasBack then 4000000
  else 4 * (e.steps.size + 1) * (e.steps.size + 1) * (t.size + 1)

/-- The longest match at a place, and what has been looked at. -/
def matchSeen (e : Engine) (t : Subject) (i : Nat) (seen : Seen) :
    Option Match × Seen :=
  let groups : Groups := Array.replicate (e.groups + 1) none
  e.follow t i (e.patience t) [⟨e.first, i, groups, groups, []⟩] seen none

/-- The longest match at a place. -/
def matchAt? (e : Engine) (t : Subject) (i : Nat) : Option Match :=
  (e.matchSeen t i {}).1

/-- The first match at a place or later, the longest one there. What has been
looked at in vain leads to no match from later places either. -/
def searchFrom (e : Engine) (t : Subject) : Nat → Nat → Seen → Option Match
  | 0, _, _ => none
  | fuel + 1, i, seen =>
    match e.matchSeen t i seen with
    | (some m, _) => some m
    | (none, seen) =>
      if i < t.size then e.searchFrom t fuel (i + t.width i) seen else none

/-- The first match at a place or later, the longest one there. -/
def search? (e : Engine) (t : Subject) (i : Nat) : Option Match :=
  e.searchFrom t (t.size - i + 1) i {}

/-- Whether there is a match somewhere in octets. -/
def isIn (e : Engine) (plain : Bool) (o : Octets) : Bool :=
  (e.search? (Subject.ofOctets plain o) 0).isSome

end Engine

end BitProbe.Bench

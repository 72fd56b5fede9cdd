import BitProbe.Bench.Regex

/-!
Expressions that are tried way by way.

Here the first way counts on which an expression matches, and not the longest
match: alternatives are tried in the order they are written in, and a
repetition goes on as long as it can, or as little as it must.

* `Trial`: such expressions;
* `Trial.Spot`: how far a match has come;
* `Trial.run`: the first way through an expression after which another step
  succeeds;
* `Trial.search?`: the first match from a place on;
* `Trial.width?`: how many characters every match has;
* `Trial.run_nothing`, `Trial.run_either`: the order of the ways.
-/

namespace BitProbe.Bench.Searching

/-- How far a repetition goes. -/
inductive Greed where
  | asFar | asLittle
  /-- As far as it can, and never less. -/
  | wholly
  deriving DecidableEq

/-- An expression that is tried way by way. -/
inductive Trial where
  | nothing
  | never
  | one (ignoresCase : Bool) (s : CharSet)
  | lineStart | lineEnd
  | textStart | textEnd
  /-- The place that the search has started from. -/
  | searchStart
  /-- Between a character of a word and none, or not there. -/
  | wordEdge (isEdge : Bool)
  | group (n : Nat) (r : Trial)
  | both (r s : Trial)
  | either (r s : Trial)
  | repeated (r : Trial) (least : Nat) (most : Option Nat) (g : Greed)
  | back (n : Nat) (ignoresCase : Bool)
  /-- What follows a place, or does not. -/
  | ahead (isWanted : Bool) (r : Trial)
  /-- What stands before a place, or does not. -/
  | behind (isWanted : Bool) (r : Trial)
  /-- The first way through an expression and no other. -/
  | wholly (r : Trial)
  /-- The match starts here. -/
  | keep

namespace Trial

/-- How far a match has come: the place, the groups and where the match
starts. -/
structure Spot where
  place : Nat
  start : Nat
  groups : Array (Option (Nat × Nat))

/-- The characters that words are made of. -/
def wordSet : CharSet :=
  { members := [.range 48 57, .range 65 90, .range 97 122, .range 95 95] }

/-- Whether a place of a text is at the edge of a word. -/
def isEdge (t : Subject) (i : Nat) : Bool :=
  (t.before? i).any wordSet.has != (t.after? i).any (wordSet.has ·.1)

/-- Whether a text repeats a part of it at a place. -/
def repeats (t : Subject) (ignoresCase : Bool) (a b i : Nat) : Bool :=
  i + (b - a) ≤ t.size && (List.range (b - a)).all fun k =>
    let c := t.octet (a + k)
    let d := t.octet (i + k)
    c = d || ignoresCase && c.toUpper = d.toUpper

/-- The first way through an expression from a spot, of those after which
another step succeeds; and what comes of that step. -/
def run (t : Subject) (origin : Nat) :
    Nat → Trial → Spot → (Spot → Option Spot) → Option Spot
  | 0, _, _, _ => none
  | fuel + 1, r, s, next =>
    let at_ (holds : Bool) : Option Spot := if holds then next s else none
    match r with
    | nothing => next s
    | never => none
    | one ignoresCase set =>
      match t.after? s.place with
      | some (c, n) =>
        if t.admits ignoresCase set c then
          next { s with place := s.place + n }
        else none
      | none => none
    | lineStart => at_ (s.place = 0)
    | lineEnd => at_ (s.place = t.size)
    | textStart => at_ (s.place = 0)
    | textEnd => at_ (s.place = t.size)
    | searchStart => at_ (s.place = origin)
    | wordEdge wanted => at_ (isEdge t s.place = wanted)
    | group n r =>
      run t origin fuel r s fun s' =>
        next { s' with
          groups := s'.groups.setIfInBounds n (some (s.place, s'.place)) }
    | both a b =>
      run t origin fuel a s fun s' => run t origin fuel b s' next
    | either a b =>
      match run t origin fuel a s next with
      | some r => some r
      | none => run t origin fuel b s next
    | repeated r least most g =>
      let more (next : Spot → Option Spot) : Option Spot :=
        if most = some 0 then none
        else
          run t origin fuel r s fun s' =>
            if s'.place = s.place && least = 0 then none
            else
              run t origin fuel
                (repeated r (least - 1) (most.map (· - 1)) g) s' next
      if 0 < least then more next
      else
        match g with
        | .asFar =>
          match more next with
          | some r => some r
          | none => next s
        | .asLittle =>
          match next s with
          | some r => some r
          | none => more next
        | .wholly =>
          match more some with
          | some s' => next s'
          | none => next s
    | back n ignoresCase =>
      match s.groups[n]? with
      | some (some (a, b)) =>
        if repeats t ignoresCase a b s.place then
          next { s with place := s.place + (b - a) }
        else none
      | _ => none
    | ahead wanted r =>
      match run t origin fuel r s some, wanted with
      | some s', true => next { s with groups := s'.groups, start := s'.start }
      | none, false => next s
      | _, _ => none
    | behind wanted r =>
      let found := (List.range (s.place + 1)).findSome? fun n =>
        run t origin fuel r { s with place := s.place - n } fun s' =>
          if s'.place = s.place then some s' else none
      match found, wanted with
      | some s', true => next { s with groups := s'.groups }
      | none, false => next s
      | _, _ => none
    | wholly r =>
      match run t origin fuel r s some with
      | some s' => next s'
      | none => none
    | keep => next { s with start := s.place }

/-- Nothing matches wherever the next step succeeds. -/
theorem run_nothing (t : Subject) (origin fuel : Nat) (s : Spot)
    (next : Spot → Option Spot) :
    run t origin (fuel + 1) nothing s next = next s := rfl

/-- Of two alternatives the second one counts only if the first one leads
nowhere. -/
theorem run_either (t : Subject) (origin fuel : Nat) (a b : Trial) (s : Spot)
    (next : Spot → Option Spot) :
    run t origin (fuel + 1) (either a b) s next =
      (run t origin fuel a s next).or (run t origin fuel b s next) := by
  rw [run]
  cases run t origin fuel a s next <;> rfl

/-- How many parts an expression has. -/
def size : Trial → Nat
  | group _ r => r.size + 1
  | both r s => r.size + s.size + 1
  | either r s => r.size + s.size + 1
  | repeated r least most _ =>
    (r.size + 1) * (most.getD least + least + 2)
  | ahead _ r => r.size + 1
  | behind _ r => r.size + 1
  | wholly r => r.size + 1
  | _ => 1

/-- The number of the last group of an expression. -/
def groups : Trial → Nat
  | group n r => max n r.groups
  | both r s => max r.groups s.groups
  | either r s => max r.groups s.groups
  | repeated r _ _ _ => r.groups
  | ahead _ r => r.groups
  | behind _ r => r.groups
  | wholly r => r.groups
  | _ => 0

/-- How many characters every match of an expression has, if that is one
number. -/
def width? : Trial → Option Nat
  | one _ _ => some 1
  | group _ r => r.width?
  | both r s => do return (← r.width?) + (← s.width?)
  | either r s =>
    match r.width?, s.width? with
    | some a, some b => if a = b then some a else none
    | _, _ => none
  | repeated r least most _ =>
    if most = some least then r.width?.map (· * least) else none
  | back _ _ => none
  | wholly r => r.width?
  | _ => some 0

/-- Whether every alternative has matches of one width. -/
def isFixed : Trial → Bool
  | either r s => r.isFixed && s.isFixed
  | group _ r => r.width?.isSome
  | r => r.width?.isSome

/-- The match at a place. -/
def matchAt? (r : Trial) (t : Subject) (origin i : Nat) :
    Option (Nat × Nat) :=
  let fuel := (t.size + 2) * (r.size + 2) + 100
  (run t origin fuel r ⟨i, i, Array.replicate (r.groups + 1) none⟩ some).map
    fun s => (s.start, s.place)

/-- The first match at a place or later. -/
def searchFrom (r : Trial) (t : Subject) (origin : Nat) :
    Nat → Nat → Option (Nat × Nat)
  | 0, _ => none
  | fuel + 1, i =>
    match r.matchAt? t origin i with
    | some m => some m
    | none =>
      if i < t.size then r.searchFrom t origin fuel (i + t.width i) else none

/-- The first match from a place on. -/
def search? (r : Trial) (t : Subject) (i : Nat) : Option (Nat × Nat) :=
  r.searchFrom t i (t.size - i + 1) i

end Trial

end BitProbe.Bench.Searching

import BitProbe.Bench.Regex.Search
import BitProbe.Bench.Searching.Trial.Reading

/-!
Patterns that lines are searched for.

There may be several patterns, each of which is a line of its own: a line is
found if one of them matches. A match may have to be all of a line, or to
stand between what is no part of a word.

* `Writing`: how patterns are written;
* `Wanted`: what is wanted of matches;
* `Wanted.engine`, `Wanted.trial`: a pattern that is ready to search with;
* `Remark`, `Wanted.remarks`: what is odd about a pattern that can be read;
* `Finder`: patterns that are ready, with `Finder.find?`, the first match of
  any of them, and `Finder.parts`, all matches in a line.
-/

namespace BitProbe.Bench.Searching

/-- How patterns are written. -/
inductive Writing where
  | basic | extended
  /-- Every sign stands for itself. -/
  | fixed
  /-- The first way counts on which a pattern matches. -/
  | tried
  deriving DecidableEq

/-- What signs mean. -/
def Writing.dialect : Writing → Dialect
  | extended =>
    { Dialect.extended with
      refusesLoneRepeats := false
      allowsStrayClose := true
      allowsStrayBrace := true
      newlineDivides := true }
  | _ =>
    { Dialect.basic with
      refusesLoneIntervals := false
      newlineDivides := true }

/-- What is wanted of matches. -/
structure Wanted where
  writing : Writing := .basic
  ignoresCase : Bool := false
  /-- Whether a match is all of a line. -/
  isLine : Bool := false
  /-- Whether a match stands between what is no part of a word. -/
  isWord : Bool := false
  /-- Whether texts are just octets. -/
  plain : Bool := false

namespace Wanted

/-- The characters of octets. -/
def characters (plain : Bool) : Nat → Octets → List Octets
  | 0, _ => []
  | _, [] => []
  | fuel + 1, o =>
    let c := Regex.firstCharacter plain o
    c :: characters plain fuel (o.drop c.length)

/-- The expression of a pattern. -/
def regex (w : Wanted) (o : Octets) : Except RegexError Regex :=
  match w.writing with
  | .fixed => .ok (Regex.literal (characters w.plain o.length o))
  | d => Regex.read d.dialect w.plain o

/-- A pattern that is ready to search with. -/
def engine (w : Wanted) (o : Octets) : Except RegexError Engine :=
  (w.regex o).map fun r => Engine.ofRegex r w.ignoresCase false

/-- A pattern that is ready to be tried way by way. That a match stands
between what is no part of a word is written around it. -/
def trial (w : Wanted) (o : Octets) : Except TrialError Trial :=
  let text :=
    if w.isWord && !w.isLine then
      "(?<!\\w)(?:".toList ++ o ++ ")(?!\\w)".toList
    else o
  (Trial.read w.plain w.ignoresCase text).map fun r =>
    if w.isLine then .both .lineStart (.both r .lineEnd) else r

end Wanted

/-- What is odd about a pattern that can be read. -/
inductive Remark where
  /-- A sign of repetition has nothing before it. -/
  | loneSign (sign : String)
  /-- A class has no brackets around it. -/
  | bareClass
  deriving DecidableEq

namespace Remark

/-- What is said about it. -/
def message : Remark → Octets
  | loneSign sign =>
    "warning: ".toList ++ sign.toList ++ " at start of expression".toList
  | bareClass =>
    "character class syntax is [[:space:]], not [:space:]".toList

/-- Whether what stands in brackets looks like a class: its members are
characters, colons come first and last, and others stand between them. -/
def isBareClass (plain : Bool) (s : CharSet) (inside : Octets) : Bool :=
  let count := (Wanted.characters plain inside.length inside).length
  let single (m : CharSet.Member) : Bool := match m with
    | .range a b => a = b
    | .named _ => false
  s.members.all single && s.members.length = count && !inside.contains '[' &&
    inside.head? = some ':' && inside.getLast? = some ':' &&
    inside.any (· ≠ ':')

/-- What is odd about the rest of a pattern, and whether an expression starts
there. -/
def ofRest (d : Dialect) (plain : Bool) : Nat → Bool → Octets → List Remark
  | 0, _, _ => []
  | fuel + 1, isStart, o =>
    let t := Regex.token d plain true o
    let sign (name : String) : List Remark :=
      let more := ofRest d plain fuel isStart t.2
      if isStart && d.freeRepeats then loneSign name :: more else more
    match t.1 with
    | .finish => []
    | .many => sign "*"
    | .plus => sign "+"
    | .maybe => sign "?"
    | .openBrace =>
      match Regex.interval d plain t.2 with
      | .ok (some (_, _, rest)) =>
        let more := ofRest d plain fuel false rest
        if isStart && d.freeRepeats then
          loneSign "\x7b...\x7d" :: more
        else more
      | _ => ofRest d plain fuel false t.2
    | .openBracket =>
      match Regex.bracket d plain t.2 with
      | .error _ => []
      | .ok (s, rest) =>
        let inside := t.2.take (t.2.length - rest.length - 1)
        let inside := if s.isNegated then inside.drop 1 else inside
        let more := ofRest d plain fuel false rest
        if isBareClass plain s inside then bareClass :: more else more
    | .anchor _ => ofRest d plain fuel isStart t.2
    | .wordEdge _ => ofRest d plain fuel isStart t.2
    | .openGroup => ofRest d plain fuel true t.2
    | .bar => ofRest d plain fuel true t.2
    | _ => ofRest d plain fuel false t.2

end Remark

/-- What is odd about a pattern. -/
def Wanted.remarks (w : Wanted) (o : Octets) : List Remark :=
  if w.writing = .fixed || w.writing = .tried then []
  else Remark.ofRest w.writing.dialect w.plain (o.length + 1) true o

/-- Nothing is odd about a pattern without signs. -/
theorem Wanted.remarks_fixed (w : Wanted) (o : Octets)
    (h : w.writing = .fixed) : w.remarks o = [] := by
  simp [remarks, h]

/-- Patterns that are ready to search with. -/
structure Finder where
  engines : List Engine
  isLine : Bool
  isWord : Bool
  /-- What is searched for instead, if it is tried way by way. -/
  trial : Option Trial := none

namespace Finder

/-- Whether no word goes on at either end of a part of a line. -/
def isApart (t : Subject) (a b : Nat) : Bool :=
  !t.isWordAt (t.before? a) && !t.isWordAt ((t.after? b).map (·.1))

/-- The first part of a line from a place on that a pattern matches and that
is a word. Of matches at one place the longest one counts that is a word. -/
def word? (e : Engine) (t : Subject) : Nat → Nat → Option (Nat × Nat)
  | 0, _ => none
  | fuel + 1, i => do
    let m ← e.search? t i
    let rec shorter : Nat → Nat → Option (Nat × Nat)
      | 0, _ => none
      | n + 1, b =>
        if isApart t m.start b then some (m.start, b)
        else if b ≤ m.start then none
        else
          let cut := { t with octets := t.octets.extract 0 (b - 1) }
          match e.matchAt? cut m.start with
          | some m' => if m.start < m'.finish then shorter n m'.finish else none
          | none => none
    match shorter (m.finish - m.start + 1) m.finish with
    | some r => some r
    | none =>
      if m.start < t.size then word? e t fuel (m.start + t.width m.start)
      else none

/-- The first match of a pattern from a place on. -/
def first? (f : Finder) (t : Subject) (i : Nat) (e : Engine) :
    Option (Nat × Nat) :=
  if f.isWord && !f.isLine then word? e t (t.size - i + 1) i
  else (e.search? t i).map fun m => (m.start, m.finish)

/-- The first match from a place on, the longest one there. -/
def find? (f : Finder) (t : Subject) (i : Nat) : Option (Nat × Nat) :=
  match f.trial with
  | some r => r.search? t i
  | none =>
    f.engines.foldl (fun best e =>
      match best, f.first? t i e with
      | some b, some m =>
        if m.1 < b.1 || m.1 = b.1 && b.2 < m.2 then some m else some b
      | none, m => m
      | b, none => b) none

/-- Whether one of the patterns matches in a line, or all of it. -/
def finds (f : Finder) (t : Subject) : Bool :=
  f.trial.any (fun r => (r.search? t 0).isSome) || f.engines.any fun e =>
    if f.isLine then (e.matchAt? t 0).any (·.finish = t.size)
    else (f.first? t 0 e).isSome

/-- The matches in a line from a place on that are not empty. -/
def partsFrom (f : Finder) (t : Subject) : Nat → Nat → List (Nat × Nat)
  | 0, _ => []
  | fuel + 1, i =>
    match f.find? t i with
    | none => []
    | some (a, b) =>
      if a < b then (a, b) :: partsFrom f t fuel b
      else if t.size ≤ a then []
      else partsFrom f t fuel (a + 1)

/-- The matches in a line that are not empty. -/
def parts (f : Finder) (t : Subject) : List (Nat × Nat) :=
  f.partsFrom t (t.size + 1) 0

/-- Without patterns nothing is found. -/
theorem finds_nil (t : Subject) (isLine isWord : Bool) :
    finds ⟨[], isLine, isWord, none⟩ t = false := rfl

end Finder

end BitProbe.Bench.Searching

import BitProbe.Bench.Regex
import BitProbe.Text.Numeral

/-!
How regular expressions are written.

Signs that mean something are those of a dialect: in some a bracket groups,
in others it does so behind a backslash. A text is taken apart into tokens as
an expression is read, since what a sign means depends on where it stands.

* `Dialect`, `Dialect.basic`, `Dialect.extended`: what signs mean;
* `RegexError`: what can be wrong with an expression;
* `Regex.Token`, `Regex.token`: the next token of a text;
* `Regex.bracket`: the set after an opening bracket;
* `Regex.read`: the expression of a text.
-/

namespace BitProbe.Bench

/-- What signs in regular expressions mean. -/
structure Dialect where
  /-- Which signs mean something only behind a backslash. -/
  slashedGroups : Bool
  slashedBraces : Bool
  slashedBar : Bool
  slashedPlus : Bool
  hasIntervals : Bool := true
  hasClasses : Bool := true
  hasBacks : Bool := true
  /-- Whether signs for the ends of lines mean that everywhere. -/
  freeAnchors : Bool
  /-- Whether a sign of repetition means that everywhere. -/
  freeRepeats : Bool
  /-- Whether a sign of repetition after nothing is wrong. -/
  refusesLoneRepeats : Bool := false
  /-- Whether an interval after nothing is wrong, and a repetition of a
  repetition. -/
  refusesLoneIntervals : Bool := false
  /-- Whether a closing bracket without an opening one stands for itself. -/
  allowsStrayClose : Bool := false
  /-- Whether an interval that is none stands for itself. -/
  allowsStrayBrace : Bool := false
  /-- Whether a line feed stands between alternatives. -/
  newlineDivides : Bool := false
  dotCoversNewline : Bool := true
  dotCoversNull : Bool := true
  complementsCoverNewline : Bool := true
  refusesEmptyRanges : Bool := true
  /-- Whether a backslash means something in a set. -/
  slashedMembers : Bool := false

namespace Dialect

/-- Brackets, braces and bars mean something behind a backslash. -/
def basic : Dialect :=
  { slashedGroups := true, slashedBraces := true, slashedBar := true
    slashedPlus := true, freeAnchors := false, freeRepeats := false
    refusesLoneIntervals := true }

/-- Brackets, braces and bars mean something by themselves. -/
def extended : Dialect :=
  { slashedGroups := false, slashedBraces := false, slashedBar := false
    slashedPlus := false, freeAnchors := true, freeRepeats := true
    refusesLoneRepeats := true }

end Dialect

/-- What can be wrong with a regular expression. -/
inductive RegexError where
  | badPattern | badCollation | badClass | trailingBackslash | badBack
  | openBracket | openGroup | openBrace | badInterval | badRange | badRepeat
  | tooBig | strayClose
  deriving DecidableEq

/-- What is said about an error. -/
def RegexError.message : RegexError → String
  | badPattern => "Invalid regular expression"
  | badCollation => "Invalid collation character"
  | badClass => "Invalid character class name"
  | trailingBackslash => "Trailing backslash"
  | badBack => "Invalid back reference"
  | openBracket => "Unmatched [, [^, [:, [., or [="
  | openGroup => "Unmatched ( or \\("
  | openBrace => "Unmatched \\\x7b"
  | badInterval => "Invalid content of \\\x7b\\\x7d"
  | badRange => "Invalid range end"
  | badRepeat => "Invalid preceding regular expression"
  | tooBig => "Regular expression too big"
  | strayClose => "Unmatched ) or \\)"

namespace Regex

/-- What a text of an expression is made of. -/
inductive Token where
  /-- A character that stands for itself. -/
  | itself (o : Octets)
  | many | plus | maybe
  | openBrace | closeBrace | openGroup | closeGroup | openBracket
  | bar | dot | backslash | finish
  | anchor (a : Anchor)
  | back (n : Nat)
  | set (s : CharSet)
  /-- Between a word and what is none, or not there. -/
  | wordEdge (isEdge : Bool)

/-- The octets of the character that a text starts with. -/
def firstCharacter (plain : Bool) (o : Octets) : Octets :=
  match if plain then none else encodedAt? o with
  | some (w, _) => w
  | none => o.take 1

/-- What a character behind a backslash means. -/
def slashed (d : Dialect) (c : Char) : Option Token :=
  match c with
  | '|' => if d.slashedBar then some .bar else none
  | '(' => if d.slashedGroups then some .openGroup else none
  | ')' => if d.slashedGroups then some .closeGroup else none
  | '+' => if d.slashedPlus then some .plus else none
  | '?' => if d.slashedPlus then some .maybe else none
  | '\x7b' =>
    if d.hasIntervals && d.slashedBraces then some .openBrace else none
  | '\x7d' =>
    if d.hasIntervals && d.slashedBraces then some .closeBrace else none
  | '<' => some (.anchor .wordStart)
  | '>' => some (.anchor .wordEnd)
  | 'b' => some (.wordEdge true)
  | 'B' => some (.wordEdge false)
  | 'w' => some (.set CharSet.word)
  | 'W' => some (.set CharSet.word.complement)
  | 's' => some (.set { members := [.named .space] })
  | 'S' => some (.set { isNegated := true, members := [.named .space] })
  | '\x60' => some (.anchor .textStart)
  | '\x27' => some (.anchor .textEnd)
  | c => if d.hasBacks && '1' ≤ c && c ≤ '9' then
      some (.back (c.toNat - '0'.toNat))
    else none

/-- What a character by itself means. -/
def bare (d : Dialect) (c : Char) : Option Token :=
  match c with
  | '\n' => if d.newlineDivides then some .bar else none
  | '|' => if d.slashedBar then none else some .bar
  | '*' => some .many
  | '+' => if d.slashedPlus then none else some .plus
  | '?' => if d.slashedPlus then none else some .maybe
  | '\x7b' =>
    if d.hasIntervals && !d.slashedBraces then some .openBrace else none
  | '\x7d' =>
    if d.hasIntervals && !d.slashedBraces then some .closeBrace else none
  | '(' => if d.slashedGroups then none else some .openGroup
  | ')' => if d.slashedGroups then none else some .closeGroup
  | '[' => some .openBracket
  | '.' => some .dot
  | _ => none

/-- Whether a branch ends where a text goes on, so that a sign before it
stands for the end of a line. -/
def endsBranch (d : Dialect) : Octets → Bool
  | [] => true
  | '\\' :: c :: _ =>
    c = '|' && d.slashedBar || c = ')' && d.slashedGroups
  | c :: _ =>
    c = '|' && !d.slashedBar || c = ')' && !d.slashedGroups ||
      c = '\n' && d.newlineDivides

/-- The next token of a text, and the rest; whether a branch starts here. -/
def token (d : Dialect) (plain isStart : Bool) : Octets → Token × Octets
  | [] => (.finish, [])
  | ['\\'] => (.backslash, [])
  | '\\' :: c :: cs =>
    match slashed d c with
    | some t => (t, cs)
    | none =>
      let o := firstCharacter plain (c :: cs)
      (.itself o, (c :: cs).drop o.length)
  | '^' :: cs =>
    (if d.freeAnchors || isStart then .anchor .lineStart else .itself ['^'], cs)
  | '$' :: cs =>
    (if d.freeAnchors || endsBranch d cs then .anchor .lineEnd
      else .itself ['$'], cs)
  | c :: cs =>
    match bare d c with
    | some t => (t, cs)
    | none =>
      let o := firstCharacter plain (c :: cs)
      (.itself o, (c :: cs).drop o.length)

/-! ### Sets -/

/-- What stands for members of a set. -/
inductive Item where
  | one (c : Char)
  | symbol (name : Octets)
  | equals (name : Octets)
  | named (name : Octets)

/-- A name up to its end, which is a sign and a closing bracket, and the
rest. -/
def nameUpTo (sign : Char) : Nat → Octets → Octets →
    Except RegexError (Octets × Octets)
  | 0, _, _ => .error .openBracket
  | n + 1, name, c :: d :: cs =>
    if c = sign && d = ']' then .ok (name.reverse, cs)
    else nameUpTo sign n (c :: name) (d :: cs)
  | _, _, _ => .error .openBracket

/-- The first item of a text and the rest. A hyphen stands for itself only
where one is expected, or at the end. -/
def item (d : Dialect) (plain hyphen : Bool) (o : Octets) :
    Except RegexError (Item × Octets) :=
  match o with
  | [] => .error .openBracket
  | '[' :: '.' :: cs => (nameUpTo '.' 32 [] cs).map fun r => (.symbol r.1, r.2)
  | '[' :: '=' :: cs => (nameUpTo '=' 32 [] cs).map fun r => (.equals r.1, r.2)
  | '-' :: '-' :: '-' :: cs => .ok (.one '-', cs)
  | '-' :: cs =>
    if hyphen || cs.head? = some ']' then .ok (.one '-', cs)
    else .error .badRange
  | c :: cs =>
    if c = '[' && cs.head? = some ':' && d.hasClasses then
      (nameUpTo ':' 32 [] (cs.drop 1)).map fun r => (.named r.1, r.2)
    else if c = '\\' && d.slashedMembers && !cs.isEmpty then
      .ok (.one (cs.headD c), cs.drop 1)
    else
      match if plain then none else encodedAt? (c :: cs) with
      | some (w, u) => .ok (.one u, (c :: cs).drop w.length)
      | none => .ok (.one c, cs)

/-- The character that an item stands for, if it stands for one. -/
def Item.character : Item → Except RegexError Char
  | one c => .ok c
  | symbol [c] => .ok c
  | equals [c] => .ok c
  | symbol _ => .error .badCollation
  | equals _ => .error .badCollation
  | named _ => .error .badRange

/-- The end of a range that an item may be. -/
def Item.edge : Item → Except RegexError Char
  | equals _ => .error .badRange
  | i => i.character

/-- The members that an item stands for. -/
def Item.member (i : Item) : Except RegexError CharSet.Member :=
  match i with
  | named name =>
    match CharClass.names.lookup (String.ofList name) with
    | some k => .ok (.named k)
    | none => .error .badClass
  | i => i.character.map fun c => .range c.toNat c.toNat

/-- The members of a set up to the bracket that closes it, and the rest. A
bracket that comes first stands for itself. -/
def members (d : Dialect) (plain : Bool) : Nat → Bool →
    List CharSet.Member → Octets →
    Except RegexError (List CharSet.Member × Octets)
  | 0, _, _, _ => .error .openBracket
  | _, _, _, [] => .error .openBracket
  | fuel + 1, first, ms, c :: cs =>
    if c = ']' && !first then .ok (ms.reverse, cs)
    else do
      let (i, rest) ← item d plain first (c :: cs)
      let isRange := match i, rest with
        | .named _, _ => false
        | .equals _, _ => false
        | _, '-' :: '-' :: '-' :: _ => false
        | _, '-' :: ']' :: _ => false
        | _, '-' :: _ => true
        | _, _ => false
      if isRange then
        let (j, rest) ← item d plain true (rest.drop 1)
        let a ← i.edge
        let b ← j.edge
        if b < a && d.refusesEmptyRanges then .error .badRange
        else members d plain fuel false (.range a.toNat b.toNat :: ms) rest
      else
        members d plain fuel false ((← i.member) :: ms) rest

/-- The set after an opening bracket, and the rest. -/
def bracket (d : Dialect) (plain : Bool) (o : Octets) :
    Except RegexError (CharSet × Octets) := do
  let isNegated := o.head? = some '^'
  let o := if isNegated then o.drop 1 else o
  if o.isEmpty then throw .badPattern
  let (ms, rest) ← members d plain (o.length + 1) true [] o
  let ms := if isNegated && !d.complementsCoverNewline then
      .range 10 10 :: ms
    else ms
  return ({ isNegated, members := ms }, rest)

/-! ### Expressions -/

/-- The largest number of an interval. -/
def largestCount : Nat := 0x7FFF

/-- The largest size of an expression that is allowed. -/
def largestSize : Nat := 200000

/-- What a number in an interval can be. -/
inductive Count where
  | missing
  | wrong
  | number (n : Nat)
  deriving DecidableEq

/-- The count at the start of a text, whether a comma follows, and the rest
from there on; nothing if the text ends. -/
def count (d : Dialect) (plain : Bool) : Nat → Count → Octets →
    Option (Count × Option Token × Octets)
  | 0, _, _ => none
  | fuel + 1, n, o =>
    match token d plain false o with
    | (.finish, _) => none
    | (.closeBrace, rest) => some (n, none, rest)
    | (.itself [','], rest) => some (n, some (.itself [',']), rest)
    | (.itself [c], rest) =>
      let v := c.toNat - '0'.toNat
      let next : Count := if !c.isDigit then .wrong
        else match n with
          | .wrong => .wrong
          | .missing => .number v
          | .number m => .number (min (largestCount + 1) (m * 10 + v))
      count d plain fuel next rest
    | (_, rest) => count d plain fuel .wrong rest

/-- The least and the most of an interval, and what follows it. Where the
interval is none, that may be no error. -/
def interval (d : Dialect) (plain : Bool) (o : Octets) :
    Except RegexError (Option (Nat × Option Nat × Octets)) :=
  let bad (e : RegexError) : Except RegexError (Option (Nat × Option Nat × Octets)) :=
    if d.allowsStrayBrace then .ok none else .error e
  let fuel := o.length + 1
  let checked (least : Nat) (most : Option Nat) (rest : Octets) :=
    if most.any (· < least) then .error .badInterval
    else if largestCount < most.getD least then .error .tooBig
    else .ok (some (least, most, rest))
  match count d plain fuel .missing o with
  | none => bad .openBrace
  | some (.missing, none, _) => .error .badInterval
  | some (.wrong, _, _) => bad .badInterval
  | some (.number n, none, rest) => checked n (some n) rest
  | some (n, some _, rest) =>
    let least := match n with
      | .number n => n
      | _ => 0
    match count d plain fuel .missing rest with
    | none => bad .openBrace
    | some (.wrong, _, _) => bad .badInterval
    | some (_, some _, _) => .error .badInterval
    | some (.missing, none, rest) => checked least none rest
    | some (.number m, none, rest) => checked least (some m) rest

/-- Where reading stands: the next token, the text after it, the groups that
have been opened and those that have been closed. -/
structure Reader where
  next : Token
  rest : Octets
  opened : Nat := 0
  closed : List Nat := []

/-- The steps of reading. -/
abbrev Reading := StateT Reader (Except RegexError)

/-- Moves on by a token. -/
def advance (d : Dialect) (plain isStart : Bool) : Reading Unit :=
  modify fun r =>
    let t := token d plain isStart r.rest
    { r with next := t.1, rest := t.2 }

/-- The character that a dot stands for. -/
def dotSet (d : Dialect) : CharSet :=
  { isNegated := true
    members := (if d.dotCoversNewline then [] else [.range 10 10]) ++
      (if d.dotCoversNull then [] else [.range 0 0]) }

/-- The repetitions that follow an expression, with it. -/
def repeats (d : Dialect) (plain : Bool) : Nat → Regex → Reading Regex
  | 0, r => return r
  | fuel + 1, r => do
    let s ← get
    let again (r : Regex) : Reading Regex := do
      if largestSize < r.size then throw .tooBig
      match (← get).next with
      | .many => if d.refusesLoneIntervals then throw .badRepeat
      | .openBrace => if d.refusesLoneIntervals then throw .badRepeat
      | _ => pure ()
      repeats d plain fuel r
    match s.next with
    | .many =>
      advance d plain false
      again (r.repeated 0 none)
    | .plus =>
      advance d plain false
      again (r.repeated 1 none)
    | .maybe =>
      advance d plain false
      again (r.repeated 0 (some 1))
    | .openBrace =>
      match ← (interval d plain s.rest : Except _ _) with
      | some (least, most, rest) =>
        set { s with rest }
        advance d plain false
        again (r.repeated least most)
      | none =>
        set { s with next := .itself ['\x7b'] }
        return r
    | _ => return r

/-- A part of an expression, read by `group` where it is a group. -/
def part (d : Dialect) (plain : Bool) (fuel : Nat) (depth : Nat)
    (group : Reading Regex) (again : Reading Regex) : Reading Regex := do
  let s ← get
  let single (r : Regex) : Reading Regex := do
    advance d plain false
    repeats d plain fuel r
  let sign (o : Octets) : Reading Regex := do
    if d.refusesLoneRepeats && !d.refusesLoneIntervals then throw .badRepeat
    else if d.freeRepeats then
      advance d plain false
      again
    else single (.octets o)
  match s.next with
  | .itself o => single (.octets o)
  | .set c => single (.one c)
  | .dot => single (.one (dotSet d))
  | .openBracket =>
    let (c, rest) ← (bracket d plain s.rest : Except _ _)
    set { s with rest }
    single (.one c)
  | .openGroup =>
    let r ← group
    single r
  | .back n =>
    if s.closed.contains n then single (.back n) else throw .badBack
  | .openBrace =>
    if d.refusesLoneIntervals then throw .badRepeat
    else if d.freeRepeats && !d.refusesLoneRepeats then
      match ← (interval d plain s.rest : Except _ _) with
      | some (_, _, rest) =>
        set { s with rest }
        advance d plain false
        again
      | none => single (.octets ['\x7b'])
    else sign ['\x7b']
  | .many => sign ['*']
  | .plus => sign ['+']
  | .maybe => sign ['?']
  | .closeGroup =>
    if d.allowsStrayClose || depth ≠ 0 then single (.octets [')'])
    else throw .strayClose
  | .closeBrace => single (.octets ['\x7d'])
  | .anchor a =>
    advance d plain true
    return .anchor a
  | .wordEdge isEdge =>
    advance d plain true
    return if isEdge then either (.anchor .wordStart) (.anchor .wordEnd)
      else either (.anchor .insideWord) (.anchor .outsideWord)
  | .backslash => throw .trailingBackslash
  | .bar => return nothing
  | .finish => return nothing

/-- Whether a branch ends at a token. -/
def Token.endsBranch (depth : Nat) : Token → Bool
  | .bar => true
  | .finish => true
  | .closeGroup => depth ≠ 0
  | _ => false

/-- One expression after another, nothing being left out. -/
def joined : Regex → Regex → Regex
  | nothing, s => s
  | r, nothing => r
  | r, s => both r s

mutual

/-- Alternatives up to the end of the text or of a group. -/
def alternatives (d : Dialect) (plain : Bool) : Nat → Nat → Reading Regex
  | 0, _ => throw .tooBig
  | fuel + 1, depth => do
    let before := (← get).closed
    let r ← branch d plain fuel depth nothing
    moreAlternatives d plain fuel depth before r
termination_by structural fuel => fuel

/-- Alternatives after others. Groups of another alternative have matched
nothing that could come back. -/
def moreAlternatives (d : Dialect) (plain : Bool) :
    Nat → Nat → List Nat → Regex → Reading Regex
  | 0, _, _, _ => throw .tooBig
  | fuel + 1, depth, before, r => do
    match (← get).next with
    | .bar =>
      advance d plain true
      if (← get).next.endsBranch depth then
        moreAlternatives d plain fuel depth before (either r nothing)
      else
        let others := (← get).closed
        modify fun s => { s with closed := before }
        let s ← branch d plain fuel depth nothing
        modify fun s => { s with closed := others ++ s.closed }
        moreAlternatives d plain fuel depth before (either r s)
    | _ => return r
termination_by structural fuel => fuel

/-- One part, which may be a group. -/
def expression (d : Dialect) (plain : Bool) : Nat → Nat → Reading Regex
  | 0, _ => throw .tooBig
  | fuel + 1, depth => do
    let group : Reading Regex := do
      let n := (← get).opened + 1
      modify fun s => { s with opened := n }
      advance d plain true
      let inner ← match (← get).next with
        | .closeGroup => pure nothing
        | _ => alternatives d plain fuel (depth + 1)
      match (← get).next with
      | .closeGroup => pure ()
      | _ => throw .openGroup
      modify fun s => { s with closed := n :: s.closed }
      return .group n false inner
    part d plain fuel depth group (expression d plain fuel depth)
termination_by structural fuel => fuel

/-- Parts one after another, after others. -/
def branch (d : Dialect) (plain : Bool) : Nat → Nat → Regex → Reading Regex
  | 0, _, _ => throw .tooBig
  | fuel + 1, depth, r => do
    let s ← expression d plain fuel depth
    let r := joined r s
    if (← get).next.endsBranch depth then return r
    else branch d plain fuel depth r
termination_by structural fuel => fuel

end

/-- The expression of a text. -/
def read (d : Dialect) (plain : Bool) (o : Octets) : Except RegexError Regex :=
  let t := token d plain true o
  let work : Reading Regex := alternatives d plain (4 * o.length + 8) 0
  (work.run { next := t.1, rest := t.2 }).map (·.1)

/-- An empty text is an expression for nothing. -/
theorem read_nil (d : Dialect) (plain : Bool) :
    read d plain [] = .ok nothing := rfl

end Regex

end BitProbe.Bench

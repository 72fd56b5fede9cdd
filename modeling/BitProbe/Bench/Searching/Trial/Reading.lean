import BitProbe.Bench.Numerals
import BitProbe.Bench.Searching.Trial

/-!
How expressions are written that are tried way by way.

* `TrialError`: what can be wrong with such an expression;
* `Trial.Flags`, `Trial.Reader`: what signs mean, and where reading stands;
* `Trial.escape`: what a letter behind a backslash means;
* `Trial.read`: the expression of a text;
* `Trial.read_nil`: an empty text is an expression for nothing.
-/

namespace BitProbe.Bench.Searching

/-- What can be wrong with an expression. -/
inductive TrialError where
  | openGroup | strayClose | loneRepeat | openClass | badRange | classRange
  | backslash | noGroup | notFixed | badSign | badName | sameName
  | badProperty | badClass | tooLarge | notHex | outOfOrder | tooBig
  | unsupported | controlEnd | badEscape
  deriving DecidableEq

/-- What is said about an error. -/
def TrialError.message : TrialError → String
  | openGroup => "missing closing parenthesis"
  | strayClose => "unmatched closing parenthesis"
  | loneRepeat => "quantifier does not follow a repeatable item"
  | openClass => "missing terminating ] for character class"
  | badRange => "range out of order in character class"
  | classRange => "invalid range in character class"
  | backslash => "\\ at end of pattern"
  | noGroup => "reference to non-existent subpattern"
  | notFixed => "lookbehind assertion is not fixed length"
  | badSign => "unrecognized character after (? or (?-"
  | badName => "syntax error in subpattern name (missing terminator?)"
  | sameName =>
    "two named subpatterns have the same name (PCRE2_DUPNAMES not set)"
  | badProperty => "unknown property after \\P or \\p"
  | badClass => "unknown POSIX class name"
  | tooLarge =>
    "character code point value in \\x\x7b\x7d or \\o\x7b\x7d is too large"
  | notHex => "non-hex character in \\x\x7b\x7d (closing brace missing?)"
  | outOfOrder => "numbers out of order in \x7b\x7d quantifier"
  | tooBig => "number too big in \x7b\x7d quantifier"
  | unsupported =>
    "PCRE2 does not support \\F, \\L, \\l, \\N\x7bname\x7d, \\U, or \\u"
  | controlEnd => "\\c at end of pattern"
  | badEscape => "unrecognized character follows \\"

namespace Trial

/-- What signs mean from a place on. -/
structure Flags where
  ignoresCase : Bool := false
  /-- Whether blanks and comments mean nothing. -/
  isSpaced : Bool := false
  dotCoversNewline : Bool := false

/-- Where reading stands. -/
structure Reader where
  rest : Octets
  plain : Bool
  flags : Flags
  groups : Nat := 0
  names : List (Octets × Nat) := []
  /-- The groups that have been spoken of. -/
  wanted : List Nat := []
  wantedNames : List Octets := []

/-- The steps of reading. -/
abbrev Reading := StateT Reader (Except TrialError)

/-! ### Sets -/

/-- Ranges of code points. -/
abbrev Ranges := List (Nat × Nat)

/-- The last code point. -/
def lastCode : Nat := 0x10FFFF

/-- What lies between ranges that are in order, from a code point on. -/
def between (start : Nat) : Ranges → Ranges
  | [] => if start ≤ lastCode then [(start, lastCode)] else []
  | (a, b) :: rs =>
    if start < a then (start, a - 1) :: between (b + 1) rs
    else between (b + 1) rs

/-- The sets that letters stand for. -/
def lettered : List (Char × Ranges) :=
  [('d', [(48, 57)]), ('w', [(48, 57), (65, 90), (95, 95), (97, 122)]),
   ('s', [(9, 13), (32, 32)]),
   ('h', [(9, 9), (32, 32), (0xA0, 0xA0), (0x1680, 0x1680), (0x180E, 0x180E),
     (0x2000, 0x200A), (0x202F, 0x202F), (0x205F, 0x205F),
     (0x3000, 0x3000)]),
   ('v', [(10, 13), (0x85, 0x85), (0x2028, 0x2029)])]

/-- The set that a letter stands for; a large letter stands for what is not
in the set. -/
def rangesOf? (c : Char) : Option Ranges :=
  match lettered.lookup c with
  | some rs => some rs
  | none =>
    if c.isUpper then (lettered.lookup c.toLower).map (between 0) else none

/-- The sets that names stand for. -/
def namedRanges : List (String × Ranges) :=
  [("alnum", [(48, 57), (65, 90), (97, 122)]),
   ("alpha", [(65, 90), (97, 122)]), ("ascii", [(0, 127)]),
   ("blank", [(9, 9), (32, 32)]), ("cntrl", [(0, 31), (127, 127)]),
   ("digit", [(48, 57)]), ("graph", [(33, 126)]), ("lower", [(97, 122)]),
   ("print", [(32, 126)]),
   ("punct", [(33, 47), (58, 64), (91, 96), (123, 126)]),
   ("space", [(9, 13), (32, 32)]), ("upper", [(65, 90)]),
   ("word", [(48, 57), (65, 90), (95, 95), (97, 122)]),
   ("xdigit", [(48, 57), (65, 70), (97, 102)])]

/-- The classes that properties stand for. -/
def properties : List (String × CharClass) :=
  [("L", .alpha), ("L&", .alpha), ("Lu", .upper), ("Ll", .lower),
   ("N", .digit), ("Nd", .digit), ("P", .punct), ("Z", .space),
   ("Zs", .blank), ("Cc", .cntrl)]

/-- Ranges as members of a set. -/
def membersOf (rs : Ranges) : List CharSet.Member :=
  rs.map fun r => .range r.1 r.2

/-- The set of some ranges. -/
def setOf (rs : Ranges) : CharSet := { members := membersOf rs }

/-! ### Signs -/

/-- The next octet, if there is one, without moving on. -/
def look : Reading (Option Char) := do return (← get).rest.head?

/-- Moves on by so many octets. -/
def skip (n : Nat) : Reading Unit :=
  modify fun s => { s with rest := s.rest.drop n }

/-- Whether octets come next, which are then taken. -/
def accept (o : String) : Reading Bool := do
  let s ← get
  if o.toList.isPrefixOf s.rest then
    skip o.length
    return true
  else return false

/-- The next character, if there is one. -/
def character : Reading (Option Char) := do
  let s ← get
  match s.rest with
  | [] => return none
  | c :: cs =>
    match if s.plain then none else encodedAt? (c :: cs) with
    | some (w, u) =>
      skip w.length
      return some u
    | none =>
      skip 1
      return some c

/-- The octets up to a sign, which is taken as well. -/
def upTo (sign : Char) (e : TrialError) : Reading Octets := do
  let s ← get
  let o := s.rest.takeWhile (· ≠ sign)
  if o.length = s.rest.length then throw e
  skip (o.length + 1)
  return o

/-- The digits of a base that come next, so many at most. -/
def digits (base most : Nat) : Reading Octets := do
  let o := digitsIn base ((← get).rest.take most)
  skip o.length
  return o

/-- What a letter behind a backslash means. -/
inductive Escape where
  | code (n : Nat)
  | set (s : CharSet)
  | back (n : Nat)
  | backNamed (name : Octets)
  | step (r : Trial)
  /-- Everything up to a sign stands for itself. -/
  | quotes
  | nothing

/-- A number in braces. -/
def braced (base : Nat) : Reading Escape := do
  let o ← upTo '\x7d' .notHex
  if o.isEmpty || (digitsIn base o).length ≠ o.length then throw .notHex
  let n := ofDigits base o
  if lastCode < n then throw .tooLarge
  return .code n

/-- A group that is spoken of by its number, which may be counted back, or by
its name. -/
def reference (o : Octets) : Reading Escape := do
  let s ← get
  match leadingInteger? false o with
  | some (n, []) =>
    if n < 0 then return .back (s.groups + 1 - n.natAbs)
    else if o.head? = some '+' then return .back (s.groups + n.natAbs)
    else return .back n.natAbs
  | _ => return .backNamed o

/-- A property of characters, or that they do not have it. -/
def property (isWanted : Bool) : Reading Escape := do
  let hasBraces ← accept "\x7b"
  let name ← if hasBraces then upTo '\x7d' .badProperty
    else do
      let c ← character
      pure c.toList
  let isTurned := name.head? = some '^'
  let name := if isTurned then name.drop 1 else name
  if String.ofList name = "Any" then
    return .set { isNegated := !isWanted, members := [.range 0 lastCode] }
  match properties.lookup (String.ofList name) with
  | some k =>
    return .set { isNegated := isWanted = isTurned, members := [.named k] }
  | none => throw .badProperty

/-- What follows a backslash, in a class or outside of one. -/
def escape (inClass : Bool) : Reading Escape := do
  let start := (← get).rest
  match ← character with
  | none => throw .backslash
  | some c =>
    match rangesOf? c with
    | some rs => return .set (setOf rs)
    | none =>
      if c = 'Q' then return .quotes
      else if c = 'E' then return .nothing
      else if c = 'a' then return .code 7
      else if c = 'e' then return .code 27
      else if c = 'f' then return .code 12
      else if c = 'n' then return .code 10
      else if c = 'r' then return .code 13
      else if c = 't' then return .code 9
      else if c = 'c' then
        match ← character with
        | none => throw .controlEnd
        | some d => return .code (d.toUpper.toNat ^^^ 64)
      else if c = 'x' then
        let hasBraces ← accept "\x7b"
        if hasBraces then braced 16
        else return .code (ofDigits 16 (← digits 16 2))
      else if c = 'o' then
        let hasBraces ← accept "\x7b"
        if hasBraces then braced 8 else throw .badEscape
      else if c = 'p' then property true
      else if c = 'P' then property false
      else if c = '0' then return .code (ofDigits 8 (← digits 8 2))
      else if c.isDigit then
        let ds := start.takeWhile Char.isDigit
        let n := ofDigits 10 ds
        if !inClass && (n < 10 || n ≤ (← get).groups) then
          skip (ds.length - 1)
          return .back n
        else
          let octal := digitsIn 8 (start.take 3)
          if octal.isEmpty then return .code c.toNat
          skip (octal.length - 1)
          return .code (ofDigits 8 octal)
      else if inClass then
        if c = 'b' then return .code 8
        else if c.isAlphanum then throw .badEscape
        else return .code c.toNat
      else if c = 'b' then return .step (.wordEdge true)
      else if c = 'B' then return .step (.wordEdge false)
      else if c = 'A' then return .step .textStart
      else if c = 'Z' then return .step .textEnd
      else if c = 'z' then return .step .textEnd
      else if c = 'G' then return .step .searchStart
      else if c = 'K' then return .step .keep
      else if c = 'N' then
        let isCode ← accept "\x7bU+"
        if isCode then braced 16
        else return .set { isNegated := true, members := [.range 10 10] }
      else if c = 'X' then
        return .set { members := [.range 0 lastCode] }
      else if c = 'R' then return .set (setOf ((rangesOf? 'v').getD []))
      else if c = 'g' then
        let hasBraces ← accept "\x7b"
        if hasBraces then reference (← upTo '\x7d' .badName)
        else
          let sign ← accept "-"
          let ds ← digits 10 20
          reference ((if sign then ['-'] else []) ++ ds)
      else if c = 'k' then
        let isAngled ← accept "<"
        let isBraced ← accept "\x7b"
        let isQuoted ← accept "\x27"
        if isAngled then return .backNamed (← upTo '>' .badName)
        else if isBraced then return .backNamed (← upTo '\x7d' .badName)
        else if isQuoted then return .backNamed (← upTo '\x27' .badName)
        else throw .badName
      else if c ∈ ['F', 'L', 'l', 'U', 'u'] then throw .unsupported
      else if c.isAlphanum then throw .badEscape
      else return .code c.toNat

/-! ### Classes -/

/-- A member of a class: a character, or a whole set. -/
inductive Item where
  | one (n : Nat)
  | many (ms : List CharSet.Member)

/-- The members of a set, which is none of what others are not. -/
def membersIn (s : CharSet) : Except TrialError (List CharSet.Member) :=
  if s.isNegated then .error .badProperty else .ok s.members

/-- The next item of a class, if there is one. -/
def item : Reading (Option Item) := do
  match ← look with
  | none => throw .openClass
  | some '[' =>
    let s ← get
    match s.rest with
    | '[' :: ':' :: cs =>
      let name := cs.takeWhile fun c => c.isAlpha || c = '^'
      if [':', ']'].isPrefixOf (cs.drop name.length) then
        skip (name.length + 4)
        let isTurned := name.head? = some '^'
        let word := if isTurned then name.drop 1 else name
        match namedRanges.lookup (String.ofList word) with
        | some rs =>
          return some (.many (membersOf (if isTurned then between 0 rs
            else rs)))
        | none => throw .badClass
      else
        skip 1
        return some (.one '['.toNat)
    | _ =>
      skip 1
      return some (.one '['.toNat)
  | some '\\' =>
    skip 1
    match ← escape true with
    | .code n => return some (.one n)
    | .set s => return some (.many (← (membersIn s : Except _ _)))
    | _ => return none
  | some _ =>
    match ← character with
    | some c => return some (.one c.toNat)
    | none => throw .openClass

/-- The members of a class up to the bracket that closes it. -/
def members : Nat → Bool → List CharSet.Member →
    Reading (List CharSet.Member)
  | 0, _, _ => throw .openClass
  | fuel + 1, isFirst, ms => do
    match ← look, isFirst with
    | some ']', false =>
      skip 1
      return ms.reverse
    | _, _ =>
      match ← item with
      | none => members fuel false ms
      | some (.many more) =>
        members fuel false (more.reverse ++ ms)
      | some (.one a) =>
        let s ← get
        match s.rest with
        | '-' :: ']' :: _ => members fuel false (.range a a :: ms)
        | '-' :: _ =>
          skip 1
          match ← item with
          | some (.one b) =>
            if b < a then throw .badRange
            members fuel false (.range a b :: ms)
          | some (.many _) => throw .classRange
          | none => members fuel false (.range a a :: ms)
        | _ => members fuel false (.range a a :: ms)

/-- The class after an opening bracket. -/
def class_ : Reading CharSet := do
  let isNegated ← accept "^"
  let s ← get
  let ms ← members (s.rest.length + 1) true []
  return { isNegated, members := ms }

/-! ### Expressions -/

/-- How often something is repeated: at least, at most and how far; nothing
if no repetition comes next. -/
def repetition : Reading (Option (Nat × Option Nat × Greed)) := do
  let s ← get
  let counts : Option (Nat × Option Nat × Nat) ← match s.rest with
    | '*' :: _ => pure (some (0, none, 1))
    | '+' :: _ => pure (some (1, none, 1))
    | '?' :: _ => pure (some (0, some 1, 1))
    | '\x7b' :: cs =>
      let least := cs.takeWhile Char.isDigit
      let rest := cs.drop least.length
      if least.isEmpty then pure none
      else
        let found : Option (Octets × Nat) := match rest with
          | '\x7d' :: _ => some (least, least.length + 2)
          | ',' :: more =>
            let most := more.takeWhile Char.isDigit
            if (more.drop most.length).head? = some '\x7d' then
              some (most, least.length + most.length + 3)
            else none
          | _ => none
        match found with
        | none => pure none
        | some (most, n) =>
          let a := ofDigits 10 least
          let b := if most.isEmpty then none else some (ofDigits 10 most)
          if 65535 < a || b.any (65535 < ·) then throw .tooBig
          if b.any (· < a) then throw .outOfOrder
          pure (some (a, b, n))
    | _ => pure none
  match counts with
  | none => return none
  | some (a, b, n) =>
    skip n
    let isLazy ← accept "?"
    if isLazy then return some (a, b, .asLittle)
    let isWhole ← accept "+"
    return some (a, b, if isWhole then .wholly else .asFar)

/-- A set as a step. -/
def oneOf (s : CharSet) : Reading Trial := do
  return .one (← get).flags.ignoresCase s

/-- A character as a step. -/
def exactly (n : Nat) : Reading Trial := oneOf { members := [.range n n] }

/-- Skips blanks and comments, if they mean nothing. -/
def skipSpaces : Nat → Reading Unit
  | 0 => return ()
  | fuel + 1 => do
    let s ← get
    if !s.flags.isSpaced then return
    match s.rest with
    | '#' :: cs =>
      skip ((cs.takeWhile (· ≠ '\n')).length + 1)
      skipSpaces fuel
    | c :: _ =>
      if isSpace c then
        skip 1
        skipSpaces fuel
    | [] => return

/-- One step for a group that is spoken of. -/
def backTo (n : Nat) : Reading Trial := do
  modify fun s => { s with wanted := n :: s.wanted }
  return .back n (← get).flags.ignoresCase

/-- Everything up to the end of quotes, one character after another. -/
def quotedText : Nat → Reading Trial
  | 0 => return .nothing
  | fuel + 1 => do
    let isOver ← accept "\\E"
    if isOver then return .nothing
    match ← character with
    | none => return .nothing
    | some c => return .both (← exactly c.toNat) (← quotedText fuel)

/-- The flags that letters stand for, up to a sign that is none. -/
def setFlags : Nat → Bool → Flags → Reading Flags
  | 0, _, f => return f
  | fuel + 1, on, f => do
    match ← look with
    | some 'i' =>
      skip 1
      setFlags fuel on { f with ignoresCase := on }
    | some 'x' =>
      skip 1
      setFlags fuel on { f with isSpaced := on }
    | some 's' =>
      skip 1
      setFlags fuel on { f with dotCoversNewline := on }
    | some 'm' =>
      skip 1
      setFlags fuel on f
    | some 'n' =>
      skip 1
      setFlags fuel on f
    | some '-' =>
      skip 1
      setFlags fuel false f
    | _ => return f

/-- What a group is for. -/
inductive Opening where
  | numbered
  | named (name : Octets)
  | bare
  | ahead (isWanted : Bool)
  | behind (isWanted : Bool)
  | wholly
  /-- Nothing but other flags from here on. -/
  | flags (f : Flags)
  | flagged (f : Flags)
  | comment

/-- What a group is for, after its bracket. -/
def opening : Reading Opening := do
  let isSpecial ← accept "?"
  if !isSpecial then return .numbered
  let s ← get
  match s.rest with
  | [] => throw .openGroup
  | ':' :: _ => skip 1; return .bare
  | '|' :: _ => skip 1; return .bare
  | '=' :: _ => skip 1; return .ahead true
  | '!' :: _ => skip 1; return .ahead false
  | '>' :: _ => skip 1; return .wholly
  | '#' :: _ =>
    let _ ← upTo ')' .openGroup
    return .comment
  | '<' :: '=' :: _ => skip 2; return .behind true
  | '<' :: '!' :: _ => skip 2; return .behind false
  | '<' :: _ => skip 1; return .named (← upTo '>' .badName)
  | '\x27' :: _ => skip 1; return .named (← upTo '\x27' .badName)
  | 'P' :: '<' :: _ => skip 2; return .named (← upTo '>' .badName)
  | _ =>
    let f ← setFlags (s.rest.length + 1) true s.flags
    match ← look with
    | some ')' => skip 1; return .flags f
    | some ':' => skip 1; return .flagged f
    | none => throw .openGroup
    | _ => throw .badSign

/-- A part with the repetition that follows it. -/
def withRepetition (r : Trial) : Reading Trial := do
  skipSpaces ((← get).rest.length + 1)
  match ← repetition with
  | none => return r
  | some (a, b, g) => return .repeated r a b g

mutual

/-- Alternatives up to the end of the text or of a group. -/
def alternatives : Nat → Reading Trial
  | 0 => throw .openGroup
  | fuel + 1 => do
    let r ← branch fuel
    let isMore ← accept "|"
    if isMore then return .either r (← alternatives fuel) else return r
termination_by structural fuel => fuel

/-- Parts one after another. -/
def branch : Nat → Reading Trial
  | 0 => throw .openGroup
  | fuel + 1 => do
    skipSpaces (fuel + 1)
    match ← look with
    | none => return .nothing
    | some '|' => return .nothing
    | some ')' => return .nothing
    | some _ =>
      let (r, canRepeat) ← part fuel
      let r ← if canRepeat then withRepetition r else pure r
      match r, ← branch fuel with
      | r, .nothing => return r
      | .nothing, s => return s
      | r, s => return .both r s
termination_by structural fuel => fuel

/-- A part, and whether it can be repeated. -/
def part : Nat → Reading (Trial × Bool)
  | 0 => throw .openGroup
  | fuel + 1 => do
    match ← repetition with
    | some _ => throw .loneRepeat
    | none =>
      match ← look with
      | none => return (.nothing, false)
      | some '(' =>
        skip 1
        groupPart fuel
      | some '[' =>
        skip 1
        return (← oneOf (← class_), true)
      | some '.' =>
        skip 1
        let s ← get
        return (← oneOf { isNegated := true, members :=
          if s.flags.dotCoversNewline then [] else [.range 10 10] }, true)
      | some '^' =>
        skip 1
        return (.lineStart, true)
      | some '$' =>
        skip 1
        return (.lineEnd, true)
      | some '\\' =>
        skip 1
        match ← escape false with
        | .code n => return (← exactly n, true)
        | .set s => return (← oneOf s, true)
        | .back n => return (← backTo n, true)
        | .backNamed name =>
          let s ← get
          match s.names.lookup name with
          | some n => return (← backTo n, true)
          | none => throw .noGroup
        | .step r => return (r, true)
        | .quotes => return (← quotedText ((← get).rest.length + 1), true)
        | .nothing => return (.nothing, false)
      | some _ =>
        match ← character with
        | some c => return (← exactly c.toNat, true)
        | none => return (.nothing, false)
termination_by structural fuel => fuel

/-- A group after its bracket, and whether it can be repeated. -/
def groupPart : Nat → Reading (Trial × Bool)
  | 0 => throw .openGroup
  | fuel + 1 => do
    let before := (← get).flags
    let inside : Reading Trial := do
      let r ← alternatives fuel
      let isClosed ← accept ")"
      if !isClosed then throw .openGroup
      modify fun s => { s with flags := before }
      return r
    let numbered (name : Option Octets) : Reading Trial := do
      let n := (← get).groups + 1
      modify fun s => { s with
        groups := n
        names := match name with
          | some o => (o, n) :: s.names
          | none => s.names }
      return .group n (← inside)
    match ← opening with
    | .numbered => return (← numbered none, true)
    | .named name =>
      let s ← get
      if (s.names.lookup name).isSome then throw .sameName
      return (← numbered (some name), true)
    | .bare => return (← inside, true)
    | .ahead isWanted => return (.ahead isWanted (← inside), true)
    | .behind isWanted =>
      let r ← inside
      if !r.isFixed then throw .notFixed
      return (.behind isWanted r, true)
    | .wholly => return (.wholly (← inside), true)
    | .flags f =>
      modify fun s => { s with flags := f }
      return (.nothing, false)
    | .flagged f =>
      modify fun s => { s with flags := f }
      return (← inside, true)
    | .comment => return (.nothing, false)
termination_by structural fuel => fuel

end

/-- The expression of a text. -/
def read (plain ignoresCase : Bool) (o : Octets) : Except TrialError Trial :=
  let work : Reading Trial := do
    let r ← alternatives (4 * o.length + 8)
    let s ← get
    if !s.rest.isEmpty then throw .strayClose
    if s.wanted.any fun n => n = 0 || s.groups < n then throw .noGroup
    return r
  (work.run { rest := o, plain, flags := { ignoresCase } }).map (·.1)

/-- An empty text is an expression for nothing. -/
theorem read_nil (plain ignoresCase : Bool) :
    read plain ignoresCase [] = .ok nothing := rfl

end Trial

end BitProbe.Bench.Searching

import BitProbe.Bench.Editor.Script
import BitProbe.Bench.Numerals

/-!
How scripts are written.

A script comes in parts, each from an argument or a file. A text may go on
from one part to the next, and so may a block.

* `Editor.Cause`, `Editor.Fault`: what can be wrong with a script;
* `Editor.Reader`, `Editor.Reading`: reading a part octet by octet;
* `Editor.delimited`: what stands before a delimiter;
* `Editor.address`, `Editor.pieces`, `Editor.substitution`, `Editor.action`:
  the parts of a command;
* `Editor.readPart`, `Editor.Reader.script`: the script of some parts.
-/

namespace BitProbe.Bench.Editor

/-- What can be wrong with a script. -/
inductive Cause where
  | twoNegations | strayComma | relativeFirst | openBlock | strayBrace | junk
  | missingText | braceAddress | labelAddress | commentAddress | noCommand
  | oneAddress | openAddress | openSubstitution | openTranslation | badFlag
  | twoPrints | twoGlobals | twoNumbers | zeroNumber | lengths | wideDelimiter
  | tooOld | zeroLine | unknown (c : Char) | noLabel | nestedEscape | sandbox
  | noFileName | emptyFlags | badGroup (n : Nat) | badRegex (e : RegexError)
  | noRegex
  /-- These are not told with a place. -/
  | missingLabel (o : Octets)
  | looseClass

/-- What is said about a cause. -/
def Cause.message : Cause → Octets
  | twoNegations => "multiple \x60!\x27s".toList
  | strayComma => "unexpected \x60,\x27".toList
  | relativeFirst => "invalid usage of +N or ~N as first address".toList
  | openBlock => "unmatched \x60\x7b\x27".toList
  | strayBrace => "unexpected \x60\x7d\x27".toList
  | junk => "extra characters after command".toList
  | missingText =>
    "expected \\ after \x60a\x27, \x60c\x27 or \x60i\x27".toList
  | braceAddress => "\x60\x7d\x27 doesn\x27t want any addresses".toList
  | labelAddress => ": doesn\x27t want any addresses".toList
  | commentAddress => "comments don\x27t accept any addresses".toList
  | noCommand => "missing command".toList
  | oneAddress => "command only uses one address".toList
  | openAddress => "unterminated address regex".toList
  | openSubstitution => "unterminated \x60s\x27 command".toList
  | openTranslation => "unterminated \x60y\x27 command".toList
  | badFlag => "unknown option to \x60s\x27".toList
  | twoPrints => "multiple \x60p\x27 options to \x60s\x27 command".toList
  | twoGlobals => "multiple \x60g\x27 options to \x60s\x27 command".toList
  | twoNumbers => "multiple number options to \x60s\x27 command".toList
  | zeroNumber => "number option to \x60s\x27 command may not be zero".toList
  | lengths =>
    "strings for \x60y\x27 command are different lengths".toList
  | wideDelimiter =>
    "delimiter character is not a single-byte character".toList
  | tooOld => "expected newer version of sed".toList
  | zeroLine => "invalid usage of line address 0".toList
  | unknown c => "unknown command: \x60".toList ++ [c, '\x27']
  | noLabel => "\x22:\x22 lacks a label".toList
  | nestedEscape => "recursive escaping after \\c not allowed".toList
  | sandbox => "e/r/w commands disabled in sandbox mode".toList
  | noFileName => "missing filename in r/R/w/W commands".toList
  | emptyFlags => "cannot specify modifiers on empty regexp".toList
  | badGroup n => "invalid reference \\".toList ++ Nat.toDigits 10 n ++
      " on \x60s\x27 command\x27s RHS".toList
  | badRegex e => e.message.toList
  | noRegex => "no previous regular expression".toList
  | missingLabel o =>
    "can\x27t find label for jump to \x60".toList ++ o ++ ['\x27']
  | looseClass =>
    "character class syntax is [[:space:]], not [:space:]".toList

/-- What is wrong with a script, with the place where that was found: how many
octets of an argument have been read, or which line of a file. -/
structure Fault where
  cause : Cause
  origin : Origin
  place : Nat

namespace Fault

/-- What is said about a fault. -/
def message (f : Fault) : Octets :=
  match f.cause with
  | .missingLabel _ => f.cause.message
  | .looseClass => f.cause.message
  | _ =>
    (match f.origin with
      | .argument n => "-e expression #".toList ++ Nat.toDigits 10 n ++
          ", char ".toList
      | .file path => "file ".toList ++ path ++ " line ".toList) ++
      Nat.toDigits 10 f.place ++ ": ".toList ++ f.cause.message

/-- The status that a fault leads to. -/
def status (f : Fault) : Nat :=
  match f.cause with
  | .missingLabel _ => 4
  | .looseClass => 4
  | _ => 1

end Fault

/-- How scripts are read. -/
structure Manner where
  plain : Bool
  isExtended : Bool := false
  isSandboxed : Bool := false

/-- Where reading stands. -/
structure Reader where
  rest : Octets := []
  /-- How many octets of the part have been read, and the line. -/
  used : Nat := 0
  line : Nat := 0
  origin : Origin := .argument 0
  isFirstPart : Bool := true
  commands : Array Command := #[]
  /-- The blocks that are open: their commands, and from where and in which
  line they have been opened. -/
  blocks : List (Nat × Origin × Nat) := []
  labels : List (Octets × Nat) := []
  /-- The text that the last command goes on with in the next part. -/
  pending : Option Octets := none
  isSilent : Bool := false

/-- The steps of reading. -/
abbrev Reading := ExceptT Cause (StateM Reader)

/-- The next octet, which is passed. -/
def take : Reading (Option Char) := do
  let r ← get
  match r.rest with
  | [] => return none
  | c :: cs =>
    set { r with
      rest := cs
      used := r.used + 1
      line := if c = '\n' then r.line + 1 else r.line }
    return some c

/-- Goes back by an octet that has been passed. -/
def giveBack (c : Option Char) : Reading Unit :=
  match c with
  | none => return ()
  | some c => modify fun r => { r with
      rest := c :: r.rest
      used := r.used - 1
      line := if c = '\n' then r.line - 1 else r.line }

/-- Passes octets as long as they satisfy a test. -/
def takeWhile (p : Char → Bool) : Reading Octets := do
  let r ← get
  let o := r.rest.takeWhile p
  set { r with
    rest := r.rest.drop o.length
    used := r.used + o.length
    line := r.line + o.count '\n' }
  return o

/-- Whether an octet is a blank within a line. -/
def isBlankHere (c : Char) : Bool := c = ' ' || c = '\t'

/-- The next octet that is no blank, which is passed. -/
def takeFilled : Reading (Option Char) := do
  let _ ← takeWhile isBlankHere
  take

/-- A number whose first octet has been passed; without digits it is zero. -/
def numeral (c : Option Char) : Reading Nat := do
  giveBack c
  let ds ← takeWhile Char.isDigit
  return ofDigits 10 ds

/-- The end of a command. -/
def endCommand : Reading Unit := do
  let c ← takeFilled
  match c with
  | none => return ()
  | some '\n' => return ()
  | some ';' => return ()
  | some '\x7d' => giveBack c
  | some '#' => giveBack c
  | some _ => throw .junk

/-- Where reading stands in an expression: outside a set, before the first
member of one, within it, or within the name of a class. -/
inductive InSet where
  | outside
  | start
  | inside
  | named (sign : Char)
  deriving DecidableEq

/-- What stands before a delimiter, which is passed; nothing if the line or
the text ends first. In an expression a delimiter in a set is none. -/
def delimitedFrom (delimiter : Char) (isRegex : Bool) :
    Nat → InSet → Octets → Reading (Option Octets)
  | 0, _, _ => return none
  | fuel + 1, place, done => do
    let go (place : InSet) (done : Octets) : Reading (Option Octets) :=
      delimitedFrom delimiter isRegex fuel place done
    match ← take with
    | none => return none
    | some '\n' =>
      giveBack (some '\n')
      return none
    | some c =>
      match place with
      | .outside =>
        if c = delimiter then return some done.reverse
        else if c = '\\' then
          match ← take with
          | none => return none
          | some 'n' =>
            if isRegex then
              if delimiter = 'n' then go .outside ('n' :: done)
              else go .outside ('\n' :: done)
            else if delimiter = 'n' then go .outside ('n' :: done)
            else go .outside ('n' :: '\\' :: done)
          | some '\n' => go .outside ('\n' :: done)
          | some d =>
            if d = delimiter && (isRegex || d ≠ '&') then go .outside (d :: done)
            else go .outside (d :: '\\' :: done)
        else if isRegex && c = '[' then go .start (c :: done)
        else go .outside (c :: done)
      | .start =>
        if c = '^' && done.head? = some '[' then go .start (c :: done)
        else memberFrom go c done
      | .inside =>
        if c = ']' then go .outside (c :: done) else memberFrom go c done
      | .named sign =>
        if c = ']' && done.head? = some sign then go .inside (c :: done)
        else go (.named sign) (c :: done)
where
  /-- A member of a set. -/
  memberFrom (go : InSet → Octets → Reading (Option Octets)) (c : Char)
      (done : Octets) : Reading (Option Octets) := do
    let r ← get
    match c, r.rest with
    | '[', s :: _ =>
      if s = ':' || s = '.' || s = '=' then
        let _ ← take
        go (.named s) (s :: c :: done)
      else go .inside (c :: done)
    | '\\', 'n' :: _ =>
      let _ ← take
      go .inside ('\n' :: done)
    | _, _ => go .inside (c :: done)

/-- What stands before a delimiter. -/
def delimited (m : Manner) (delimiter : Option Char) (isRegex : Bool) :
    Reading (Option Octets) := do
  let r ← get
  match delimiter with
  | none => return none
  | some c =>
    if !m.plain && (encodedAt? (c :: r.rest)).isSome then
      throw .wideDelimiter
    delimitedFrom c isRegex (r.rest.length + 1) .outside []

/-! ### Expressions -/

/-- The dialect of expressions. -/
def dialect (m : Manner) (byLines : Bool) : Dialect :=
  { (if m.isExtended then Dialect.extended else Dialect.basic) with
    dotCoversNewline := !byLines
    complementsCoverNewline := !byLines }

/-- Whether a set that stands between colons is taken for a class. -/
def hasLooseClass : Nat → Octets → Bool
  | 0, _ => false
  | _, [] => false
  | fuel + 1, '\\' :: cs => hasLooseClass fuel (cs.drop 1)
  | fuel + 1, '[' :: cs =>
    let body := if cs.head? = some '^' then cs.drop 1 else cs
    let members := body.takeWhile fun c => c ≠ ']' && c ≠ '['
    let rest := body.drop members.length
    if 2 < members.length && members.head? = some ':' &&
        members.getLast? = some ':' && rest.head? = some ']' then true
    else hasLooseClass fuel (afterSet body)
  | fuel + 1, _ :: cs => hasLooseClass fuel cs
where
  /-- What follows a set. -/
  afterSet (body : Octets) : Octets :=
    let body := if body.head? = some ']' then body.drop 1 else body
    afterMembers (body.length + 1) body
  /-- What follows the members of a set. -/
  afterMembers : Nat → Octets → Octets
    | 0, o => o
    | _, [] => []
    | _, ']' :: cs => cs
    | fuel + 1, '[' :: s :: cs =>
      if s = ':' || s = '.' || s = '=' then
        let rest := afterName s (cs.length + 1) cs
        afterMembers fuel rest
      else afterMembers fuel (s :: cs)
    | fuel + 1, _ :: cs => afterMembers fuel cs
  /-- What follows a name in a set. -/
  afterName (s : Char) : Nat → Octets → Octets
    | 0, o => o
    | fuel + 1, c :: d :: cs =>
      if c = s && d = ']' then cs else afterName s fuel (d :: cs)
    | _, o => o

/-- The expression of a text, with flags for case and for lines; how many
groups must be there. An empty text stands for the last expression. -/
def compile (m : Manner) (o : Octets) (anyCase byLines : Bool)
    (needed : Nat) : Reading (Option Engine) := do
  if o.isEmpty then
    if anyCase || byLines then throw .emptyFlags
    return none
  match pattern o with
  | none => throw .nestedEscape
  | some o =>
    match Regex.read (dialect m byLines) m.plain o with
    | .error e => throw (.badRegex e)
    | .ok r =>
      if r.groups < needed then throw (.badGroup needed)
      if hasLooseClass (o.length + 1) o then throw .looseClass
      return some (Engine.ofRegex r anyCase byLines)

/-! ### Addresses -/

/-- The flags after an expression of an address. -/
def addressFlags : Nat → Bool → Bool → Reading (Bool × Bool)
  | 0, i, l => return (i, l)
  | fuel + 1, i, l => do
    match ← takeFilled with
    | some 'I' => addressFlags fuel true l
    | some 'M' => addressFlags fuel i true
    | c =>
      giveBack c
      return (i, l)

/-- An address, or a distance that can only end a range. -/
inductive Place where
  | address (a : Address)
  | after (n : Nat)
  | multiple (n : Nat)

/-- The place at an octet that has been passed, if there is one. -/
def place? (m : Manner) (c : Option Char) : Reading (Option Place) := do
  let expression (delimiter : Option Char) : Reading (Option Place) := do
    match ← delimited m delimiter true with
    | none => throw .openAddress
    | some o =>
      let (i, l) ← addressFlags ((← get).rest.length + 1) false false
      return some (.address (.matching (← compile m o i l 0)))
  match c with
  | some '/' => expression c
  | some '\\' =>
    let d ← take
    expression d
  | some '$' => return some (.address .last)
  | some '+' => return some (.after (← numeral (← takeFilled)))
  | some '~' => return some (.multiple (← numeral (← takeFilled)))
  | some d =>
    if d.isDigit then
      let n ← numeral c
      match ← takeFilled with
      | some '~' =>
        let step ← numeral (← takeFilled)
        return some (.address (if step = 0 then .line n else .every n step))
      | e =>
        giveBack e
        return some (.address (.line n))
    else return none
  | none => return none

/-- Whether an address is the line before the first one. -/
def Address.isZero : Address → Bool
  | .line 0 => true
  | _ => false

/-- Whether a range can start before the first line. -/
def Bound.isMatching : Bound → Bool
  | .at_ (.matching _) => true
  | _ => false

/-- The lines that a command is for, and the octet that follows, which is
passed. -/
def choice (m : Manner) (c : Option Char) :
    Reading (Choice × Option Char) := do
  let (first, bound, c) ← match ← place? m c with
    | none => pure (none, none, c)
    | some (.after _) => throw .relativeFirst
    | some (.multiple _) => throw .relativeFirst
    | some (.address a) => do
      let c ← takeFilled
      if c = some ',' then
        let d ← takeFilled
        let bound ← match ← place? m d with
          | none => throw .strayComma
          | some (.address b) => pure (Bound.at_ b)
          | some (.after n) => pure (Bound.after n)
          | some (.multiple n) => pure (Bound.multiple n)
        let c ← takeFilled
        if a.isZero && !bound.isMatching then throw .zeroLine
        pure (some a, some bound, c)
      else
        if a.isZero then throw .zeroLine
        pure (some a, none, c)
  if c = some '!' then
    let c ← takeFilled
    if c = some '!' then throw .twoNegations
    return ({ first, bound, isNegated := true }, c)
  else return ({ first, bound }, c)

/-! ### Replacements -/

/-- The octets of a replacement with escapes made out: an octet that is given
by its number stands for itself. -/
def replacementFrom : Nat → Octets → Octets → Option Octets
  | 0, _, done => some done.reverse
  | _, [], done => some done.reverse
  | _, ['\\', 'c'], done => some ('\\' :: done).reverse
  | fuel + 1, '\\' :: cs, done =>
    match escape cs with
    | .octet c rest isNumbered =>
      if isNumbered && (c = '&' || c = '\\') then
        replacementFrom fuel rest (c :: '\\' :: done)
      else replacementFrom fuel rest (c :: done)
    | .nested => none
    | .none =>
      match cs with
      | c :: rest => replacementFrom fuel rest (c :: '\\' :: done)
      | [] => some ('\\' :: done).reverse
  | fuel + 1, c :: cs, done => replacementFrom fuel cs (c :: done)

/-- The pieces of a replacement. What is said about letters holds for all
that follows, or for the next piece alone: `letters` is what holds for the
next piece, `kept` what holds after it, and `text` is what has been read of
it, the last first. -/
def piecesFrom : Octets → Letters → Letters → Octets → List Piece
  | [], letters, _, text =>
    if text.isEmpty then [] else [⟨letters, text.reverse, none⟩]
  | ['\\'], letters, _, text => [⟨letters, ('\\' :: text).reverse, none⟩]
  | '\\' :: c :: cs, letters, kept, text =>
    let piece (g : Option Nat) : Piece := ⟨letters, text.reverse, g⟩
    let whole (m : Letters) : List Piece :=
      piece none :: piecesFrom cs m m []
    match c with
    | 'L' => whole { all := some false }
    | 'U' => whole { all := some true }
    | 'E' => whole {}
    | 'l' => piece none :: piecesFrom cs { kept with first := some false } kept []
    | 'u' => piece none :: piecesFrom cs { kept with first := some true } kept []
    | c =>
      if c.isDigit then
        piece (some (c.toNat - 48)) :: piecesFrom cs kept kept []
      else
        ⟨letters, (c :: text).reverse, none⟩ :: piecesFrom cs kept kept []
  | '&' :: cs, letters, kept, text =>
    ⟨letters, text.reverse, some 0⟩ :: piecesFrom cs kept kept []
  | c :: cs, letters, kept, text => piecesFrom cs letters kept (c :: text)

/-- The pieces of a replacement. -/
def pieces (o : Octets) : Reading (List Piece) :=
  match replacementFrom (o.length + 1) o [] with
  | some o => return piecesFrom o {} {} []
  | none => throw .nestedEscape

/-- Where a path leads to. -/
def Target.ofPath (path : Octets) : Target :=
  if path = "/dev/stdout".toList then .output
  else if path = "/dev/stderr".toList then .messages
  else .file path

/-- The rest of a line as the name of a file. -/
def fileName (m : Manner) : Reading Octets := do
  if m.isSandboxed then throw .sandbox
  let _ ← takeWhile isBlankHere
  let o ← takeWhile (· ≠ '\n')
  let _ ← take
  if o.isEmpty then throw .noFileName
  return o

/-- A substitution with flags, and those for case and for lines. -/
def flags (m : Manner) : Nat → Substitution → Bool → Bool →
    Reading (Substitution × Bool × Bool)
  | 0, s, i, l => return (s, i, l)
  | fuel + 1, s, i, l => do
    let c ← take
    match c with
    | some 'i' => flags m fuel s true l
    | some 'I' => flags m fuel s true l
    | some 'm' => flags m fuel s i true
    | some 'M' => flags m fuel s i true
    | some 'e' =>
      if m.isSandboxed then throw .sandbox
      flags m fuel s i l
    | some 'p' =>
      if s.prints then throw .twoPrints
      flags m fuel { s with prints := true } i l
    | some 'g' =>
      if s.isGlobal then throw .twoGlobals
      flags m fuel { s with isGlobal := true } i l
    | some 'w' =>
      let path ← fileName m
      return ({ s with target := some (.ofPath path) }, i, l)
    | some '\x7d' =>
      giveBack c
      return (s, i, l)
    | some '#' =>
      giveBack c
      return (s, i, l)
    | some '\n' => return (s, i, l)
    | some ';' => return (s, i, l)
    | none => return (s, i, l)
    | some ' ' => flags m fuel s i l
    | some '\t' => flags m fuel s i l
    | some '\x0d' =>
      match ← take with
      | some '\n' => return (s, i, l)
      | _ => throw .badFlag
    | some d =>
      if d.isDigit then
        if s.number ≠ 0 then throw .twoNumbers
        let n ← numeral c
        if n = 0 then throw .zeroNumber
        flags m fuel { s with number := n } i l
      else throw .badFlag

/-- A substitution. -/
def substitution (m : Manner) : Reading Action := do
  let delimiter ← take
  match ← delimited m delimiter true with
  | none => throw .openSubstitution
  | some o =>
    match ← delimited m delimiter false with
    | none => throw .openSubstitution
    | some r =>
      let ps ← pieces r
      let fuel := (← get).rest.length + 1
      let (s, i, l) ← flags m fuel { engine := none, pieces := ps } false false
      let needed := (ps.filterMap (·.group)).foldl max 0
      return .substitute { s with engine := ← compile m o i l needed }

/-- The characters of one side of a translation. -/
def side (m : Manner) (o : Octets) : Reading (List Octets) :=
  match unescaped o with
  | none => throw .nestedEscape
  | some o => return (shownParts m.plain (o.length + 1) o).map (·.1)

/-- A translation. -/
def translation (m : Manner) : Reading Action := do
  let delimiter ← take
  match ← delimited m delimiter false with
  | none => throw .openTranslation
  | some a =>
    match ← delimited m delimiter false with
    | none => throw .openTranslation
    | some b =>
      let a ← side m a
      let b ← side m b
      if a.length ≠ b.length then throw .lengths
      endCommand
      return .translate (a.zip b)

/-! ### Texts and labels -/

/-- The lines of a text after others, up to one that does not end in a
backslash; whether the part of the script has ended first. -/
def textFrom : Nat → Octets → Reading (Octets × Bool)
  | 0, done => return (done, false)
  | fuel + 1, done => do
    match ← take with
    | none => return (done, false)
    | some '\n' => return (done, false)
    | some '\\' =>
      match ← take with
      | none => return (done, true)
      | some c => textFrom fuel (c :: '\\' :: done)
    | some c => textFrom fuel (c :: done)

/-- A text after another one. -/
def text (use : TextUse) (before : Octets) : Reading Action := do
  let (done, isOpen) ← textFrom ((← get).rest.length + 1) before.reverse
  if isOpen then
    modify fun r => { r with pending := some (done.reverse ++ ['\n']) }
  match unescaped (done.reverse ++ ['\n']) with
  | some o => return .text use o
  | none => throw .nestedEscape

/-- A text that a command starts. -/
def startText (use : TextUse) : Reading Action := do
  let c ← takeFilled
  match c with
  | none => throw .missingText
  | some '\\' =>
    match ← take with
    | none =>
      modify fun r => { r with pending := some [] }
      return .text use []
    | some '\n' => text use []
    | d =>
      giveBack d
      text use []
  | _ =>
    giveBack c
    text use []

/-- A label. -/
def label : Reading Octets := do
  let _ ← takeWhile isBlankHere
  takeWhile fun c => !isSpace c && c ≠ ';' && c ≠ '\x7d'

/-- A number that may follow a command. -/
def count? : Reading (Option Nat) := do
  let c ← takeFilled
  if c.any Char.isDigit then return some (← numeral c)
  else
    giveBack c
    return none

/-- A version as numbers. -/
def versionNumbers (o : Octets) : List Nat :=
  (o.splitOn '.').map fun p => ofDigits 10 (p.takeWhile Char.isDigit)

/-- Whether a list of numbers stands after another. -/
def isLater : List Nat → List Nat → Bool
  | [], _ => false
  | _ :: _, [] => true
  | a :: as, b :: bs => b < a || a = b && isLater as bs

/-! ### Commands -/

/-- The commands of one letter that have no more to them. -/
def simple : List (Char × Action) :=
  [('=', .number), ('d', .delete), ('D', .deleteFirst), ('F', .name),
   ('g', .recall), ('G', .recallMore), ('h', .hold), ('H', .holdMore),
   ('n', .next), ('N', .append), ('p', .print), ('P', .printFirst),
   ('z', .empty), ('x', .exchange)]

/-- The action of a command by its letter. -/
def action (m : Manner) (k : Choice) (c : Char) : Reading Action := do
  let here := (← get).commands.size
  match c with
  | '\x7b' =>
    modify fun r => { r with blocks := (here, r.origin, r.line) :: r.blocks }
    return .block 0
  | '\x7d' =>
    match (← get).blocks with
    | [] => throw .strayBrace
    | (b, _) :: bs =>
      if k.first.isSome then throw .braceAddress
      endCommand
      modify fun r => { r with
        blocks := bs
        commands := r.commands.modify b fun k => { k with action := .block here } }
      return .nothing
  | 'a' => startText .append
  | 'i' => startText .insert
  | 'c' => startText .change
  | ':' =>
    if k.first.isSome then throw .labelAddress
    let l ← label
    if l.isEmpty then throw .noLabel
    modify fun r => { r with labels := (l, here) :: r.labels }
    return .nothing
  | 'b' => return .jump .always (← label) 0
  | 't' => return .jump .replaced (← label) 0
  | 'T' => return .jump .unreplaced (← label) 0
  | 'q' =>
    if k.bound.isSome then throw .oneAddress
    let n ← count?
    endCommand
    return .quit (n.getD 0) false
  | 'Q' =>
    if k.bound.isSome then throw .oneAddress
    let n ← count?
    endCommand
    return .quit (n.getD 0) true
  | 'l' =>
    let n ← count?
    endCommand
    return .list n
  | 'L' =>
    let _ ← count?
    endCommand
    return .unknown 'L'
  | 'r' => return .readFile (← fileName m)
  | 'R' => return .readLine (← fileName m)
  | 'w' => return .write (.ofPath (← fileName m))
  | 'W' => return .writeFirst (.ofPath (← fileName m))
  | 's' => substitution m
  | 'y' => translation m
  | 'e' =>
    if m.isSandboxed then throw .sandbox
    let _ ← takeWhile (· ≠ '\n')
    return .unknown 'e'
  | c =>
    match simple.lookup c with
    | some a =>
      endCommand
      return a
    | none => throw (.unknown c)

/-- A comment; one at the very start of a script may ask for silence. -/
def comment : Reading Unit := do
  let r ← get
  if r.isFirstPart && r.used = 1 && r.rest.head? = some 'n' then
    set { r with isSilent := true }
  let _ ← takeWhile (· ≠ '\n')

/-- The commands of a part. -/
def commands (m : Manner) : Nat → Reading Unit
  | 0 => return ()
  | fuel + 1 => do
    let _ ← takeWhile fun c => isSpace c || c = ';'
    let c ← take
    if c.isNone then return ()
    let (k, c) ← choice m c
    match c with
    | none => throw .noCommand
    | some '#' =>
      if k.first.isSome then throw .commentAddress
      comment
      commands m fuel
    | some 'v' =>
      let l ← label
      if isLater (versionNumbers l) [4, 9] then throw .tooOld
      commands m fuel
    | some c =>
      let a ← action m k c
      modify fun r => { r with commands := r.commands.push ⟨k, a⟩ }
      commands m fuel

/-- The text that the last part has left open. -/
def openText : Reading Unit := do
  match (← get).pending with
  | none => return ()
  | some before =>
    modify fun r => { r with pending := none }
    let last := (← get).commands.size - 1
    match (← get).commands.back? with
    | some ⟨k, .text use _⟩ =>
      let before := if before.isEmpty then []
        else before.dropLast ++ ['\\', '\n']
      let a ← text use before
      modify fun r => { r with commands := r.commands.setIfInBounds last ⟨k, a⟩ }
    | _ => return ()

/-- The place of a fault that is found now. -/
def Reader.place (r : Reader) : Nat :=
  match r.origin with
  | .argument _ => r.used
  | .file _ => r.line

/-- Reads a part that comes from somewhere after others. -/
def readPart (m : Manner) (origin : Origin) (o : Octets) (r : Reader) :
    Except Fault Reader :=
  let start : Reader := { r with
    rest := o
    used := 0
    line := match origin with
      | .argument _ => 0
      | .file _ => 1
    origin }
  let work : Reading Unit := do
    openText
    commands m (o.length + 2)
  match work.run.run start with
  | (.error cause, r) => .error ⟨cause, r.origin, r.place⟩
  | (.ok (), r) => .ok { r with isFirstPart := false }

/-- The commands with their jumps leading to labels. -/
def linked (r : Reader) : Except Cause (Array Command) :=
  r.commands.mapM fun k =>
    match k.action with
    | .jump w l _ =>
      if l.isEmpty then .ok { k with action := .jump w l r.commands.size }
      else
        match r.labels.reverse.lookup l with
        | some goal => .ok { k with action := .jump w l goal }
        | none => .error (.missingLabel l)
    | _ => .ok k

/-- The script of the parts that have been read. -/
def Reader.script (r : Reader) : Except Fault Script :=
  match r.blocks with
  | (_, origin, line) :: _ =>
    let place := match origin with
      | .argument _ => 0
      | .file _ => line
    .error ⟨.openBlock, origin, place⟩
  | [] =>
    match linked r with
    | .error cause => .error ⟨cause, r.origin, 0⟩
    | .ok commands =>
      .ok { commands, isSilent := r.isSilent, origin := r.origin
            lastLine := r.line }

/-- Nothing is the script without commands. -/
theorem script_start : Reader.script {} = .ok {} := by
  simp only [Reader.script, linked, Array.mapM_empty]
  rfl

end BitProbe.Bench.Editor

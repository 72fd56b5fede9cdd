import BitProbe.Bench.Rules.Pattern
import BitProbe.Bench.Rules.Cell
import BitProbe.Text.Blank

/-!
The tokens of scripts of rules.

A slash starts an expression to look for unless what stands before it can be
divided. Lines end by themselves, but not after a backslash.

* `Word`, `Token`: words with a meaning, and tokens;
* `Token.shown`: how a token is told in a message;
* `unescaped`: a text with what backslashes stand for;
* `Token.next`: the token at the start of octets;
* `tokensOf`: all tokens, with their lines.
-/

namespace BitProbe.Bench.Rules

/-- Words with a meaning of their own. -/
def words : List String :=
  ["BEGIN", "END", "break", "continue", "delete", "do", "else", "exit", "for",
   "function", "getline", "if", "in", "next", "nextfile", "print", "printf",
   "return", "while", "split", "sub", "gsub", "match", "length"]

/-- The names of what can be called otherwise. -/
def builtinWords : List String :=
  ["index", "substr", "sprintf", "tolower", "toupper", "sin", "cos", "atan2",
   "exp", "log", "sqrt", "int", "rand", "srand", "system", "close", "fflush",
   "systime", "mktime", "strftime"]

/-- A token. -/
inductive Token where
  | number (x : Float) (shown : Octets)
  | text (o : Octets)
  | regex (o : Octets)
  | name (o : Octets)
  /-- A name before a parenthesis. -/
  | calling (o : Octets)
  | builtin (o : Octets)
  | word (o : Octets)
  | sign (o : Octets)
  | newline
  /-- The end of a line that cannot stand where it does. -/
  | stray
  | finish
  deriving Inhabited

namespace Token

/-- How a token is told in a message. -/
def shown : Token → Octets
  | number _ o => o
  | text o => o
  | regex o => '/' :: o ++ ['/']
  | name o => o
  | calling o => o
  | builtin o => o
  | word o => o
  | sign o => o
  | newline => "end of line".toList
  | stray => "end of line".toList
  | finish => "end of file".toList

/-- Whether a token is a sign. -/
def isSign (t : Token) (s : String) : Bool :=
  match t with
  | sign o => o = s.toList
  | _ => false

/-- Whether a token is a word. -/
def isWord (t : Token) (s : String) : Bool :=
  match t with
  | word o => o = s.toList
  | _ => false

/-- Whether what a token ends can be divided. -/
def canBeDivided : Token → Bool
  | number _ _ => true
  | text _ => true
  | regex _ => true
  | name _ => true
  | word o => o = "getline".toList
  | sign o => o = [')'] || o = [']'] || o = "++".toList || o = "--".toList
  | _ => false

end Token

/-- What keeps a script from being read: its line, and a message that may
stand without the word for it. -/
structure Misreading where
  line : Nat
  message : Octets
  isBare : Bool := false
  deriving Inhabited

/-- The octet that a backslash and what follows it stand for, and what follows
that; nothing if the backslash stands for itself. -/
def textEscape? (o : Octets) : Option (Char × Octets) :=
  match o with
  | '\x22' :: cs => some ('\x22', cs)
  | '\\' :: cs => some ('\\', cs)
  | c :: cs =>
    match Pattern.letters.lookup c, Pattern.numbered 8 3 o with
    | some d, _ => some (d, cs)
    | none, some r => some r
    | none, none => if c = 'x' then Pattern.numbered 16 2 cs else none
  | [] => none

/-- A text with what backslashes in it stand for, after octets that are the
last first. -/
def unescapedFrom : Nat → Octets → Octets → Octets
  | 0, _, done => done.reverse
  | _, [], done => done.reverse
  | fuel + 1, '\\' :: cs, done =>
    match textEscape? cs with
    | some (c, rest) => unescapedFrom fuel rest (c :: done)
    | none =>
      match cs with
      | c :: rest => unescapedFrom fuel rest (c :: '\\' :: done)
      | [] => ('\\' :: done).reverse
  | fuel + 1, c :: cs, done => unescapedFrom fuel cs (c :: done)

@[inherit_doc unescapedFrom]
def unescaped (o : Octets) : Octets := unescapedFrom (o.length + 1) o []

/-- The octets of a text up to its quote, the last first, and what follows;
nothing if its line ends first. A line goes on after a backslash. -/
def quotedText : Nat → Octets → Octets → Option (Octets × Octets)
  | 0, _, _ => none
  | fuel + 1, o, done =>
    match o with
    | [] => none
    | '\n' :: _ => none
    | '\x22' :: cs => some (done.reverse, cs)
    | '\\' :: '\n' :: cs => quotedText fuel cs done
    | '\\' :: c :: cs => quotedText fuel cs (c :: '\\' :: done)
    | c :: cs => quotedText fuel cs (c :: done)

/-- The octets of an expression up to its slash, and what follows; nothing if
its line ends first. A slash in a set is none. -/
def slashedText : Nat → Bool → Octets → Octets → Option (Octets × Octets)
  | 0, _, _, _ => none
  | fuel + 1, inSet, o, done =>
    match o with
    | [] => none
    | '\n' :: _ => none
    | '/' :: cs =>
      if inSet then slashedText fuel true cs ('/' :: done)
      else some (done.reverse, cs)
    | '\\' :: '\n' :: cs => slashedText fuel inSet cs done
    | '\\' :: '/' :: cs => slashedText fuel inSet cs ('/' :: done)
    | '\\' :: c :: cs => slashedText fuel inSet cs (c :: '\\' :: done)
    | '[' :: cs =>
      if inSet then
        match cs with
        | ':' :: rest =>
          let name := rest.takeWhile Char.isAlpha
          if ":]".toList.isPrefixOf (rest.drop name.length) then
            slashedText fuel true (rest.drop (name.length + 2))
              (("[:".toList ++ name ++ ":]".toList).reverse ++ done)
          else slashedText fuel true cs ('[' :: done)
        | _ => slashedText fuel true cs ('[' :: done)
      else
        match cs with
        | '^' :: ']' :: rest => slashedText fuel true rest (']' :: '^' :: '[' :: done)
        | '^' :: rest => slashedText fuel true rest ('^' :: '[' :: done)
        | ']' :: rest => slashedText fuel true rest (']' :: '[' :: done)
        | _ => slashedText fuel true cs ('[' :: done)
    | ']' :: cs => slashedText fuel false cs (']' :: done)
    | c :: cs => slashedText fuel inSet cs (c :: done)

/-- The signs of several octets, and those of one. -/
def signs : List Octets :=
  (["&&", "||", "==", "!=", "<=", ">=", ">>", "!~", "++", "--", "+=", "-=",
    "*=", "/=", "%=", "^="].map String.toList) ++
  "\x7b\x7d()[],;?:~<>=+-*/%^!|$".toList.map ([·])

/-- Whether an octet can start a name. -/
def startsName (c : Char) : Bool := c.isAlpha || c = '_'

/-- What keeps a text or an expression that has begun from being read. -/
def runaway (what : String) (line : Nat) (o : Octets) : Misreading :=
  { line
    message := "runaway ".toList ++ what.toList ++ ' ' ::
      Text.dropRight (· = '\\') ((o.takeWhile (· ≠ '\n')).take 11) ++
      " ...".toList }

namespace Token

/-- The number at the start of octets, and what follows. -/
def numberAt? (o : Octets) : Option (Token × Octets) :=
  match pointed? 10 o with
  | none => none
  | some (_, _, rest) =>
    let (_, rest) := exponentAt 'e' rest
    let shown := o.take (o.length - rest.length)
    some (number (leadingFloat shown).1 shown, rest)

/-- The token at the start of octets, which are neither blank nor the end of a
line, and what follows it. -/
def next (line : Nat) (divides : Bool) (o : Octets) :
    Except Misreading (Token × Octets) :=
  match o with
  | [] => .ok (finish, [])
  | c :: cs =>
    if startsName c then
      let rest := o.dropWhile fun c => startsName c || c.isDigit
      let n := o.take (o.length - rest.length)
      if words.any (·.toList = n) then .ok (word n, rest)
      else if builtinWords.any (·.toList = n) then .ok (builtin n, rest)
      else if rest.head? = some '(' then .ok (calling n, rest)
      else .ok (name n, rest)
    else if c.isDigit || c = '.' then
      match numberAt? o with
      | some r => .ok r
      | none =>
        .error { line, message := "unexpected character \x27.\x27".toList
                 isBare := true }
    else if c = '\x22' then
      match quotedText (o.length + 1) cs [] with
      | some (t, rest) => .ok (text (unescaped t), rest)
      | none => .error (runaway "string constant" line o)
    else if c = '/' && !divides then
      match slashedText (o.length + 1) false cs [] with
      | some (t, rest) => .ok (regex t, rest)
      | none => .error (runaway "regular expression" line o)
    else
      match signs.find? (·.isPrefixOf o) with
      | some s => .ok (sign s, o.drop s.length)
      | none =>
        .error { line
                 message := "unexpected character \x27".toList ++ [c, '\x27']
                 isBare := true }

end Token

/-- The tokens of a script with their lines, what keeps more of them from being
read, and what is left out because nothing has been opened for it, with how
many tokens there are before it. -/
structure Tokens where
  list : List (Token × Nat) := []
  trouble : Option Misreading := none
  extras : List (Nat × Misreading) := []
  deriving Inhabited

/-- What is open while tokens are read, and what has been left out. -/
structure Openings where
  parentheses : Nat := 0
  braces : Nat := 0
  /-- Whether the last sign has been left out. -/
  hasLost : Bool := false
  count : Nat := 0
  extras : List (Nat × Misreading) := []

/-- What is open after a token, unless the token is left out. -/
def Openings.after (w : Openings) (t : Token) (line : Nat) :
    Bool × Openings :=
  let lost (sign : String) : Bool × Openings :=
    let m : Misreading :=
      { line, message := "extra \x27".toList ++ sign.toList ++ ['\x27'] }
    (false, { w with hasLost := true, extras := (w.count, m) :: w.extras })
  let kept (w : Openings) : Bool × Openings :=
    (true, { w with hasLost := false, count := w.count + 1 })
  if t.isSign "(" then kept { w with parentheses := w.parentheses + 1 }
  else if t.isSign "\x7b" then kept { w with braces := w.braces + 1 }
  else if t.isSign ")" then
    if w.parentheses = 0 then lost ")"
    else kept { w with parentheses := w.parentheses - 1 }
  else if t.isSign "\x7d" then
    if w.braces = 0 then lost "\x7d"
    else kept { w with braces := w.braces - 1 }
  else kept w

/-- The tokens of octets with their lines, after others that are the last
first. -/
def tokensFrom : Nat → Nat → Token → Openings → Octets →
    List (Token × Nat) → Tokens
  | 0, _, _, _, _, done => { list := done.reverse }
  | fuel + 1, line, past, w, o, done =>
    match o with
    | [] =>
      { list := ((Token.finish, line) :: done).reverse
        extras := w.extras.reverse }
    | '\n' :: cs =>
      let isDone := match done with
        | [] => true
        | (.newline, _) :: _ => true
        | (t, _) :: _ => t.isSign "\x7d"
      let t := if w.hasLost && w.braces = 0 && isDone then Token.stray
        else .newline
      tokensFrom fuel (line + 1) .newline (w.after t line).2 cs
        ((t, line) :: done)
    | '\\' :: '\n' :: cs => tokensFrom fuel (line + 1) past w cs done
    | '\\' :: '\x0d' :: '\n' :: cs => tokensFrom fuel (line + 1) past w cs done
    | '#' :: cs => tokensFrom fuel line past w (cs.dropWhile (· ≠ '\n')) done
    | c :: cs =>
      if isSpace c then tokensFrom fuel line past w cs done
      else
        match Token.next line past.canBeDivided o with
        | .error m =>
          { list := done.reverse, trouble := some m, extras := w.extras.reverse }
        | .ok (t, rest) =>
          let used := o.take (o.length - rest.length)
          let line' := line + used.count '\n'
          let (isKept, w) := w.after t line
          tokensFrom fuel line' t w rest
            (if isKept then (t, line) :: done else done)

/-- The tokens of a script. -/
def tokensOf (o : Octets) : Tokens :=
  tokensFrom (o.length + 2) 1 .newline {} (o ++ ['\n']) []

/-- Nothing has nothing escaped in it. -/
theorem unescaped_nil : unescaped [] = [] := rfl

end BitProbe.Bench.Rules

import BitProbe.Bench.Shell.Syntax

/-!
A script that is being read.

* `Token`: what a script is cut into, and how messages show it;
* `Source`: what is left of a script;
* `Trouble`, `Reader`: reading, which may fail on some line;
* `Reader.look`, `Reader.next`: octets, between which a backslash at the end
  of a line does not count;
* `Reader.startLine`, `Reader.within`, `Reader.without`: texts that end with
  a certain line;
* `Reader.unexpected`: failing because of a token.
-/

namespace BitProbe.Bench.Shell

/-- The sign of a redirection. -/
inductive Sign where
  | plain (kind : Redirect.Kind)
  /-- The text in the lines to come, from which tabs may be taken. -/
  | here (tabs : Bool)
  deriving DecidableEq

/-- What a script is cut into. -/
inductive Token where
  | word (p : Phrase)
  | reserved (w : String)
  | operator (o : String)
  | redirection (way : Nat) (sign : Sign)
  | newline
  | ending

/-- Words that have a meaning of their own where a command may start. -/
def reservedWords : List String :=
  ["!", "case", "do", "done", "elif", "else", "esac", "fi", "for", "if", "in",
   "then", "until", "while", "\x7b", "\x7d"]

/-- A token as messages show it. -/
def Token.text : Token → Octets
  | word _ => "word".toList
  | reserved w => '\x22' :: w.toList ++ ['\x22']
  | operator o => '\x22' :: o.toList ++ ['\x22']
  | redirection _ _ => "redirection".toList
  | newline => "newline".toList
  | ending => "end of file".toList

/-- Whether a token ends a list of commands. -/
def Token.endsList : Token → Bool
  | ending => true
  | operator o => o ∈ [")", ";;"]
  | reserved w =>
    w ∈ ["then", "else", "elif", "fi", "do", "done", "esac", "\x7d"]
  | _ => false

/-- A text that stands in lines to come. -/
structure Awaited where
  number : Nat
  /-- The line after the last one. -/
  stop : Octets
  tabs : Bool
  quoted : Bool

/-- What is left of a script, and what has been found out about it. -/
structure Source where
  rest : Octets
  line : Nat := 1
  /-- A token that has been put back. -/
  pushed : Option Token := none
  /-- The last word that has been read. -/
  lastWord : Phrase := []
  awaited : List Awaited := []
  /-- The text that is being read, and whether its last line has been
  reached. -/
  text : Option (Awaited × Bool) := none
  /-- Texts that have been read from lines, by their numbers. -/
  texts : List (Nat × Phrase) := []
  nextText : Nat := 0
  aliases : List (Octets × Octets) := []
  /-- The aliases that have been put in place: how much of the script is left
  behind each of them, and whether the next word may be one. -/
  placed : List (Octets × Nat × Bool) := []

/-- Why a script cannot be read, and on which line that shows. -/
structure Trouble where
  message : Octets
  line : Nat

/-- What reads a script. -/
abbrev Reader := StateT Source (Except Trouble)

namespace Reader

/-- Fails on the line that has been reached. -/
def fail {α : Type} (message : String) : Reader α := do
  throw ⟨message.toList, (← get).line⟩

/-- What follows backslashes at the ends of lines, and how many there are. -/
def joined : Octets → Octets × Nat
  | '\\' :: '\n' :: cs =>
    let r := joined cs
    (r.1, r.2 + 1)
  | cs => (cs, 0)

/-- What is left at the start of a line: the line that ends a text which is
being read is gone past, and so are tabs that do not belong to the text. -/
def startLine (s : Source) : Source :=
  match s.text with
  | some (a, false) =>
    let (rest, n) := if a.quoted then (s.rest, 0) else joined s.rest
    let rest := if a.tabs then rest.dropWhile (· = '\t') else rest
    let l := rest.takeWhile (· ≠ '\n')
    let line := s.line + n
    if l = a.stop then { s with
      rest := rest.drop (l.length + 1)
      line := line + 1
      text := some (a, true) }
    else { s with rest, line }
  | _ => s

/-- Whether the end of a text has been reached that is being read. -/
def isOver (s : Source) : Bool :=
  s.text.any (·.2)

/-- Goes past one octet, which is returned. -/
def nextRaw : Reader (Option Char) := do
  let s ← get
  if isOver s then return none
  match s.rest with
  | [] => return none
  | '\n' :: rest =>
    set (startLine { s with rest, line := s.line + 1 })
    return some '\n'
  | c :: rest =>
    set { s with rest }
    return some c

/-- The next octet. -/
def look : Reader (Option Char) := do
  let s ← get
  if isOver s then return none
  let (rest, n) := joined s.rest
  set { s with rest, line := s.line + n }
  return rest.head?

/-- Goes past the next octet, which is returned. -/
def next : Reader (Option Char) := do
  let _ ← look
  nextRaw

/-- Goes past the next octet if it is a certain one. -/
def accept (c : Char) : Reader Bool := do
  if (← look) = some c then
    let _ ← nextRaw
    return true
  else return false

/-- Goes past octets as long as they satisfy a test. -/
def takeWhile (p : Char → Bool) : Nat → Reader Octets
  | 0 => return []
  | fuel + 1 => do
    match ← look with
    | some c =>
      if p c then
        let _ ← nextRaw
        return c :: (← takeWhile p fuel)
      else return []
    | none => return []

/-- How much of the script is left. -/
def remaining : Reader Nat := do
  return (← get).rest.length

/-- Reads a text that ends with a certain line. -/
def within {α : Type} (a : Awaited) (r : Reader α) : Reader α := do
  modify fun s => startLine { s with text := some (a, false) }
  let x ← r
  modify fun s => { s with text := none }
  return x

/-- Reads something within a text in which the line that ends the text does
not count. -/
def without {α : Type} (r : Reader α) : Reader α := do
  let outer := (← get).text
  modify fun s => { s with text := none }
  let x ← r
  modify fun s => { s with text := outer }
  return x

/-- Fails because quotes, or braces in a text of lines, are not closed. -/
def unclosed {α : Type} : Reader α := do
  if (← get).text.isSome then fail "Missing \x27\x7d\x27"
  else fail "Unterminated quoted string"

/-- Puts a token back. -/
def push (t : Token) : Reader Unit :=
  modify fun s => { s with pushed := some t }

/-- Fails because of a token. -/
def unexpected {α : Type} (t : Token) (wanted : Option Token) : Reader α := do
  let tail : Octets := match wanted with
    | some w => " (expecting ".toList ++ w.text ++ [')']
    | none => []
  throw ⟨t.text ++ " unexpected".toList ++ tail, (← get).line⟩

/-- Puts the value of an alias in its place. -/
def place (name value : Octets) : Reader Unit :=
  modify fun s => { s with
    rest := value ++ s.rest
    placed := (name, s.rest.length,
      value.getLast? = some ' ' || value.getLast? = some '\t') :: s.placed }

/-- Forgets the aliases whose values have been read, and says whether the
next word may be an alias because of one of them. -/
def settle : Reader Bool := do
  let s ← get
  let (done, open_) := s.placed.partition fun p => s.rest.length ≤ p.2.1
  set { s with placed := open_ }
  return done.any (·.2.2)

/-- The value of an alias, unless it is being read already. -/
def alias? (name : Octets) : Reader (Option Octets) := do
  let s ← get
  if s.placed.any (·.1 = name) then return none
  else return s.aliases.lookup name

end Reader

end BitProbe.Bench.Shell

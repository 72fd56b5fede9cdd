import BitProbe.Bench.Octets

/-!
What a script asks for.

Words are made of octets and of what stands for a value, the output of
commands or a number; commands are made of words and of other commands.

* `Piece`, `Edit`, `Phrase`: words and their parts;
* `Redirect`: a way in or out of a command;
* `Command`: commands;
* `Phrase.literal?`, `Phrase.isQuoted`: words that stand for themselves.
-/

namespace BitProbe.Bench.Shell

/-- What a redirection does. -/
inductive Redirect.Kind where
  | read
  | write
  /-- Writes even where a setting keeps files from being written anew. -/
  | overwrite
  | append
  | both
  /-- Goes where another number goes, as one that is read from or one that is
  written to. -/
  | copyIn
  | copyOut
  /-- Reads a text of the script, by its number among such texts. -/
  | text (n : Nat)
  deriving DecidableEq

mutual

/-- A part of a word. -/
inductive Piece where
  | octet (c : Char) (quoted : Bool)
  /-- Quotes, which make a word even if there is nothing in them. -/
  | quotes
  | value (quoted : Bool) (name : Octets) (edit : Edit)
  | output (quoted : Bool) (command : Command)
  | number (quoted : Bool) (expression : List Piece)

/-- What is done with the value of a variable. A flag says whether an empty
value counts as none. -/
inductive Edit where
  | whole
  | size
  | fallback (emptyToo : Bool) (word : List Piece)
  | setting (emptyToo : Bool) (word : List Piece)
  | alternative (emptyToo : Bool) (word : List Piece)
  | demand (emptyToo : Bool) (word : List Piece)
  /-- Drops what a pattern covers at one end. -/
  | cut (atEnd longest : Bool) (word : List Piece)
  /-- There is no such edit, which is found out when it is needed. -/
  | wrong

/-- What a script asks for. Most commands know their line. -/
inductive Command where
  | nothing
  | simple (line : Nat) (assignments : List (Octets × List Piece))
      (words : List (List Piece))
      (redirects : List (Nat × Redirect.Kind × List Piece))
  /-- Each reads what the one before it writes. -/
  | pipe (stages : List Command)
  | negated (c : Command)
  | both (a b : Command)
  | either (a b : Command)
  | sequence (a b : Command)
  /-- Runs without being waited for. -/
  | detached (c : Command)
  | branch (test yes no : Command)
  | choose (line : Nat) (subject : List Piece)
      (arms : List (List (List Piece) × Command))
  /-- Repeats as long as the test ends well, or as long as it does not. -/
  | loop (positive : Bool) (test body : Command)
  | each (line : Nat) (name : Octets) (items : Option (List (List Piece)))
      (body : Command)
  /-- Runs without a lasting effect on the shell. -/
  | separate (line : Nat) (c : Command)
      (redirects : List (Nat × Redirect.Kind × List Piece))
  | redirected (line : Nat) (c : Command)
      (redirects : List (Nat × Redirect.Kind × List Piece))
  | define (line : Nat) (name : Octets) (body : Command)

end

/-- A word of a script. -/
abbrev Phrase := List Piece

/-- What one of the numbered ways in and out of a command is to be. -/
abbrev Redirect := Nat × Redirect.Kind × Phrase

namespace Phrase

/-- The octets of a word without quotes, values, outputs and numbers. -/
def literal? : Phrase → Option Octets
  | [] => some []
  | .octet c false :: p => (literal? p).map (c :: ·)
  | _ => none

/-- Whether something in a word is quoted. -/
def isQuoted (p : Phrase) : Bool :=
  p.any fun
    | .octet _ quoted => quoted
    | .quotes => true
    | _ => false

/-- The octets of a word in which nothing stands for something else. -/
def octets (p : Phrase) : Octets :=
  p.filterMap fun
    | .octet c _ => some c
    | _ => none

/-- Octets as a quoted word. -/
def ofQuoted (o : Octets) : Phrase :=
  .quotes :: o.map fun c => .octet c true

end Phrase

/-- Whether a name can start with an octet. -/
def startsName (c : Char) : Bool := c.isAlpha || c = '_'

/-- Whether a name can go on with an octet. -/
def continuesName (c : Char) : Bool := c.isAlphanum || c = '_'

/-- The name at the start of octets, which may be empty. -/
def nameAt (o : Octets) : Octets :=
  match o with
  | c :: _ => if startsName c then o.takeWhile continuesName else []
  | [] => []

/-- Whether octets are a name. -/
def isName (o : Octets) : Bool :=
  !o.isEmpty && nameAt o = o

end BitProbe.Bench.Shell

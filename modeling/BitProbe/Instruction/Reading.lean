import BitProbe.Instruction
import BitProbe.Text.Blank

/-!
Reading an instruction from a line of disassembly.

The tokens of a line are, in this order: an opening brace, a predicate that
starts with `@`, the mnemonic with its modifiers, the operands, and a comment
with the encoding. The first two may be missing; the delimiters of the
comment may stand alone or touch the number, and either of them may be
missing.

* `ReadError`: what a line can lack;
* `splitEncoding`: the tokens before the comment, and the word in it;
* `Instruction.ofTokens`, `Instruction.ofLine`: the instruction.
-/

namespace BitProbe

/-- Why a line is no instruction. -/
inductive ReadError where
  /-- There are no tokens. -/
  | empty
  /-- There is no mnemonic where it should be. -/
  | missingOpcode
  /-- There is no comment with a number at the end. -/
  | missingEncoding
  /-- The number at the end is no word. -/
  | invalidEncoding (token : String)
  /-- The bytes of the line are no text. -/
  | invalidUtf8
  deriving DecidableEq, Repr

/-- What is wrong with the line, as text. -/
def ReadError.message : ReadError → String
  | .empty => "empty instruction line"
  | .missingOpcode => "no opcode token"
  | .missingEncoding => "no trailing encoding token"
  | .invalidEncoding token =>
    "invalid encoding token \x27" ++ token ++ "\x27"
  | .invalidUtf8 => "line is not valid UTF-8"

/-- The word that a token stands for. -/
def Word.ofString (token : String) : Except ReadError Word :=
  match Word.read? token.toList with
  | some w => .ok w
  | none => .error (.invalidEncoding token)

namespace Reading

/-- A text without the comment openings that it starts with. -/
def afterOpenings : List Char → List Char
  | '/' :: '*' :: cs => afterOpenings cs
  | cs => cs

/-- A text without the comment closings that it ends with: read backwards, a
closing is an opening. -/
def beforeClosings (cs : List Char) : List Char :=
  (afterOpenings cs.reverse).reverse

/-- Whether a text starts like a number in base sixteen. -/
def startsHexadecimal : List Char → Bool
  | '0' :: 'x' :: _ => true
  | '0' :: 'X' :: _ => true
  | _ => false

/-- The tokens before the comment that ends a line, and the word in the
comment. The tokens are taken from the end: a closing delimiter that stands
alone, the number, an opening delimiter that stands alone. -/
def splitEncoding (tokens : List String) :
    Except ReadError (List String × Word) :=
  let fromEnd := match tokens.reverse with
    | [] => []
    | t :: ts => if t = "*/" then ts else t :: ts
  match fromEnd with
  | [] => .error .missingEncoding
  | number :: before =>
    let digits := beforeClosings (afterOpenings number.toList)
    if startsHexadecimal digits then
      match Word.ofString (String.ofList digits) with
      | .error e => .error e
      | .ok w =>
        let before := match before with
          | [] => []
          | t :: ts => if t = "/*" then ts else t :: ts
        .ok (before.reverse, w)
    else .error .missingEncoding

/-- The tokens after an opening brace. -/
def afterBrace : List String → List String
  | [] => []
  | t :: ts => if t = "\x7b" then ts else t :: ts

/-- A predicate, if the tokens start with one, and the tokens after it. -/
def takePredicate : List String → Option String × List String
  | [] => (none, [])
  | t :: ts =>
    if t.toList.head? = some '@' then (some t, ts) else (none, t :: ts)

/-- A token without one final semicolon. -/
def beforeTerminator (cs : List Char) : List Char :=
  if cs.getLast? = some ';' then cs.dropLast else cs

/-- Whether a character is punctuation after an operand. -/
def isSeparator (c : Char) : Bool :=
  c = ',' || c = ';'

/-- An operand without the punctuation after it. -/
def operand (token : String) : String :=
  String.ofList (Text.dropRight isSeparator token.toList)

/-- The operands among some tokens; a token of punctuation alone is none. -/
def readOperands (tokens : List String) : List String :=
  (tokens.map operand).filter (· ≠ "")

/-- A mnemonic and its modifiers; empty modifiers do not count. -/
def readHead (token : String) :
    Except ReadError (String × SortedSet String) :=
  match (beforeTerminator token.toList).splitOn '.' with
  | [] => .error .missingOpcode
  | opcode :: rest =>
    if opcode.isEmpty then .error .missingOpcode
    else .ok (String.ofList opcode,
      .ofList ((rest.filter (! ·.isEmpty)).map String.ofList))

end Reading

open Reading in
/-- Reads an instruction from the tokens of a line. -/
def Instruction.ofTokens (tokens : List String) :
    Except ReadError Instruction :=
  if tokens.isEmpty then .error .empty
  else
    match splitEncoding tokens with
    | .error e => .error e
    | .ok (before, encoding) =>
      let (predicate, rest) := takePredicate (afterBrace before)
      match rest with
      | [] => .error .missingOpcode
      | head :: rest =>
        match readHead head with
        | .error e => .error e
        | .ok (opcode, modifiers) =>
          .ok {
            predicate, opcode, modifiers, encoding
            operands := readOperands rest
            tokenCount := tokens.length }

/-- Reads an instruction from a line. -/
def Instruction.ofLine (line : String) : Except ReadError Instruction :=
  Instruction.ofTokens (Text.wordsOf line)

end BitProbe

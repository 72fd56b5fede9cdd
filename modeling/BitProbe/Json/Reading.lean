import BitProbe.Json

/-!
Reading JSON.

A text is cut into tokens, and the tokens are read as a value. The reader is
strict: it accepts what the grammar of JSON allows and nothing else, as far
as values without other numbers than natural ones go. Numbers have no
leading zeros, control characters do not stand in strings, and an escaped
surrogate needs its partner.

* `Json.tokenize`: the tokens of a text;
* `Json.ofTokens?`: the value of a sequence of tokens;
* `Json.read?`: the value of a text.
-/

namespace BitProbe.Json

/-! ### Tokens -/

/-- The blanks between tokens. -/
def isSpace (c : Char) : Bool :=
  c = ' ' || c = '\n' || c = '\t' || c = '\x0d'

/-- The characters that are tokens on their own. -/
def isMark (c : Char) : Bool :=
  c ∈ ['[', ']', '\x7b', '\x7d', ':', ',']

/-- The character that a short escape stands for; a slash may be escaped
too. -/
def unescape? (c : Char) : Option Char :=
  if c = '/' then some '/' else (shortEscapes.find? (·.1 = c)).map (·.2)

/-- The body of a string up to its closing quote, as code units: a character
is its number, and an escape by number is that number. The rest after the
quote comes second. -/
def readUnits : List Char → Option (List Nat × List Char)
  | [] => none
  | '\x22' :: rest => some ([], rest)
  | '\\' :: 'u' :: a :: b :: c :: d :: rest =>
    match Text.hexadecimal? [a, b, c, d] with
    | none => none
    | some n => (readUnits rest).map fun r => (n :: r.1, r.2)
  | '\\' :: e :: rest =>
    match unescape? e with
    | none => none
    | some c => (readUnits rest).map fun r => (c.toNat :: r.1, r.2)
  | c :: rest =>
    if c.toNat < 0x20 || c = '\\' then none
    else (readUnits rest).map fun r => (c.toNat :: r.1, r.2)

/-- The characters of code units: a high surrogate and the low one after it
are one character, and neither stands alone. -/
def joinUnits : List Nat → Option (List Char)
  | [] => some []
  | u :: us =>
    if 0xD800 ≤ u && u < 0xDC00 then
      match us with
      | [] => none
      | v :: vs =>
        if 0xDC00 ≤ v && v < 0xE000 then
          (joinUnits vs).map
            (Char.ofNat (0x10000 + (u - 0xD800) * 0x400 + (v - 0xDC00)) :: ·)
        else none
    else if 0xDC00 ≤ u && u < 0xE000 then none
    else (joinUnits us).map (Char.ofNat u :: ·)

/-- A string without its opening quote, and the rest after it. -/
def readText (cs : List Char) : Option (List Char × List Char) :=
  (readUnits cs).bind fun r => (joinUnits r.1).map fun s => (s, r.2)

/-- A number, and the rest after its digits. -/
def readNumber (cs : List Char) : Option (Nat × List Char) :=
  let digits := cs.takeWhile Char.isDigit
  if digits.head? = some '0' && digits.length ≠ 1 then none
  else (Text.decimal? digits).map fun n => (n, cs.dropWhile Char.isDigit)

/-- The rest of a text after a word at its beginning. -/
def afterWord? (word : String) (cs : List Char) : Option (List Char) :=
  let w := word.toList
  if w.isPrefixOf cs then some (cs.drop w.length) else none

/-- The first token of a text that starts with none of the blanks, and the
rest after it. -/
def readToken : List Char → Option (Token × List Char)
  | [] => none
  | c :: cs =>
    if isMark c then some (.mark c, cs)
    else if c = '\x22' then
      (readText cs).map fun r => (.text (String.ofList r.1), r.2)
    else if c.isDigit then
      (readNumber (c :: cs)).map fun r => (.number r.1, r.2)
    else if c = 't' then
      (afterWord? "true" (c :: cs)).map fun r => (.bool true, r)
    else if c = 'f' then
      (afterWord? "false" (c :: cs)).map fun r => (.bool false, r)
    else (afterWord? "null" (c :: cs)).map fun r => (.null, r)

/-- The tokens of a text, of which at most `fuel` are looked for. -/
def tokenizeWith : Nat → List Char → Option (List Token)
  | 0, cs => if (cs.dropWhile isSpace).isEmpty then some [] else none
  | fuel + 1, cs =>
    let cs := cs.dropWhile isSpace
    if cs.isEmpty then some []
    else
      match readToken cs with
      | none => none
      | some (t, rest) => (tokenizeWith fuel rest).map (t :: ·)

/-- The tokens of a text. There are no more of them than characters. -/
def tokenize (cs : List Char) : Option (List Token) :=
  tokenizeWith cs.length cs

/-! ### Values -/

mutual

/-- A value at the head of some tokens, and the rest after it. -/
def readValue : Nat → List Token → Option (Json × List Token)
  | 0, _ => none
  | fuel + 1, ts =>
    match ts with
    | .null :: ts => some (.null, ts)
    | .bool b :: ts => some (.bool b, ts)
    | .number n :: ts => some (.number n, ts)
    | .text s :: ts => some (.text s, ts)
    | .mark '[' :: .mark ']' :: ts => some (.array [], ts)
    | .mark '[' :: ts =>
      (readItems fuel ts).map fun r => (.array r.1, r.2)
    | .mark '\x7b' :: .mark '\x7d' :: ts => some (.object [], ts)
    | .mark '\x7b' :: ts =>
      (readMembers fuel ts).map fun r => (.object r.1, r.2)
    | _ => none

/-- The items of an array up to its closing bracket, one at least. -/
def readItems : Nat → List Token → Option (List Json × List Token)
  | 0, _ => none
  | fuel + 1, ts =>
    match readValue fuel ts with
    | some (x, .mark ',' :: ts) =>
      (readItems fuel ts).map fun r => (x :: r.1, r.2)
    | some (x, .mark ']' :: ts) => some ([x], ts)
    | _ => none

/-- The members of an object up to its closing brace, one at least. -/
def readMembers :
    Nat → List Token → Option (List (String × Json) × List Token)
  | 0, _ => none
  | fuel + 1, ts =>
    match ts with
    | .text k :: .mark ':' :: ts =>
      match readValue fuel ts with
      | some (v, .mark ',' :: ts) =>
        (readMembers fuel ts).map fun r => ((k, v) :: r.1, r.2)
      | some (v, .mark '\x7d' :: ts) => some ([(k, v)], ts)
      | _ => none
    | _ => none

end

/-- The value of a sequence of tokens. Each step down takes a token at least
at every other level. -/
def ofTokens? (ts : List Token) : Option Json :=
  match readValue (2 * ts.length) ts with
  | some (j, []) => some j
  | _ => none

/-- The value of a text. -/
def read? (cs : List Char) : Option Json :=
  (tokenize cs).bind ofTokens?

end BitProbe.Json

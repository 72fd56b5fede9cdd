import BitProbe.Sorted.Map
import BitProbe.Text.Numeral

/-!
JSON values and their texts.

The numbers here are natural numbers, which is all that reports and settings
hold. A value is a sequence of tokens; the compact text is their spellings
one after another, and the indented text puts blanks between them.

* `Json`: the values; `Json.sortedObject`: an object with its keys ascending;
* `Json.Token`, `Json.tokens`: the tokens of a value;
* `Json.compact`, `Json.indented`: its two texts.
-/

namespace BitProbe

/-- A JSON value. -/
inductive Json where
  | null
  | bool (b : Bool)
  | number (n : Nat)
  | text (s : String)
  | array (items : List Json)
  | object (members : List (String × Json))

namespace Json

/-- An object with its keys in ascending order. -/
def sortedObject (members : List (String × Json)) : Json :=
  .object (SortedMap.ofList members).entries

/-- An array of numbers. -/
def numbers (ns : List Nat) : Json :=
  .array (ns.map number)

/-! ### Tokens -/

/-- What a JSON text is made of. -/
inductive Token where
  /-- A bracket, a brace, a colon or a comma. -/
  | mark (c : Char)
  | text (s : String)
  | number (n : Nat)
  | bool (b : Bool)
  | null
  deriving DecidableEq

/-- The escapes of one character after the backslash. -/
def shortEscapes : List (Char × Char) :=
  [('\x22', '\x22'), ('\\', '\\'), ('b', '\x08'), ('f', '\x0c'),
   ('n', '\n'), ('r', '\x0d'), ('t', '\t')]

/-- A character as it is written in a string: with a short escape if it has
one, by its number if it is another control character, else as it is. -/
def escape (c : Char) : List Char :=
  match shortEscapes.find? (·.2 = c) with
  | some e => ['\\', e.1]
  | none =>
    if c.toNat < 0x20 then '\\' :: 'u' :: Text.hexadecimal 4 c.toNat else [c]

/-- A string between its quotes. -/
def quoted (cs : List Char) : List Char :=
  '\x22' :: (cs.flatMap escape ++ ['\x22'])

/-- How a token is written. -/
def Token.spell : Token → List Char
  | mark c => [c]
  | text s => quoted s.toList
  | number n => Text.decimal n
  | bool true => "true".toList
  | bool false => "false".toList
  | null => "null".toList

mutual

/-- The tokens of a value. -/
def tokens : Json → List Token
  | null => [.null]
  | bool b => [.bool b]
  | number n => [.number n]
  | text s => [.text s]
  | array xs => .mark '[' :: itemTokens xs ++ [.mark ']']
  | object ms => .mark '\x7b' :: memberTokens ms ++ [.mark '\x7d']

/-- The tokens of the items of an array, with a comma before each but the
first. -/
def itemTokens : List Json → List Token
  | [] => []
  | x :: xs => x.tokens ++ laterItemTokens xs

/-- The tokens of items that others stand before. -/
def laterItemTokens : List Json → List Token
  | [] => []
  | x :: xs => .mark ',' :: x.tokens ++ laterItemTokens xs

/-- The tokens of the members of an object, with a comma before each but the
first. -/
def memberTokens : List (String × Json) → List Token
  | [] => []
  | (k, v) :: ms => .text k :: .mark ':' :: v.tokens ++ laterMemberTokens ms

/-- The tokens of members that others stand before. -/
def laterMemberTokens : List (String × Json) → List Token
  | [] => []
  | (k, v) :: ms =>
    .mark ',' :: .text k :: .mark ':' :: v.tokens ++ laterMemberTokens ms

end

/-! ### Texts -/

/-- The text of a value without any blanks. -/
def compactChars (j : Json) : List Char :=
  j.tokens.flatMap Token.spell

/-- The text of a value without any blanks. -/
def compact (j : Json) : String :=
  String.ofList j.compactChars

/-- A new line, indented by two blanks for each level. -/
def newLine (level : Nat) : List Char :=
  '\n' :: List.replicate (2 * level) ' '

mutual

/-- The text of a value, each item and member on a line of its own. -/
def indentedChars (level : Nat) : Json → List Char
  | array [] => ['[', ']']
  | array (x :: xs) =>
    '[' :: (newLine (level + 1) ++ x.indentedChars (level + 1) ++
      laterItemLines (level + 1) xs ++ newLine level ++ [']'])
  | object [] => ['\x7b', '\x7d']
  | object ((k, v) :: ms) =>
    '\x7b' :: (newLine (level + 1) ++ quoted k.toList ++ [':', ' '] ++
      v.indentedChars (level + 1) ++ laterMemberLines (level + 1) ms ++
      newLine level ++ ['\x7d'])
  | j => j.compactChars

/-- The lines of items that others stand before. -/
def laterItemLines (level : Nat) : List Json → List Char
  | [] => []
  | x :: xs =>
    ',' :: (newLine level ++ x.indentedChars level ++
      laterItemLines level xs)

/-- The lines of members that others stand before. -/
def laterMemberLines (level : Nat) : List (String × Json) → List Char
  | [] => []
  | (k, v) :: ms =>
    ',' :: (newLine level ++ quoted k.toList ++ [':', ' '] ++
      v.indentedChars level ++ laterMemberLines level ms)

end

/-- The text of a value, each item and member on a line of its own, indented
by two blanks for each level. -/
def indented (j : Json) : String :=
  String.ofList (j.indentedChars 0)

end Json

end BitProbe

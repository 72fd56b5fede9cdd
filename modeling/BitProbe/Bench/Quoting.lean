import BitProbe.Bench.Octets

/-!
Quoting in messages.

Programs show names in three ways: between curved quotes; as a shell would
read them, always between quotes; and as a shell would read them, between
quotes only where that is needed.

* `quoted`, `named`, `bareName`: the three ways;
* `shellText`, `shellWord`: what a shell reads, for texts of either kind.
-/

namespace BitProbe.Bench

/-- The octets of a character at the start of octets, if there is one that is
more than one octet, and the character. -/
def encodedAt? (o : Octets) : Option (Octets × Char) :=
  [2, 3, 4].findSome? fun n =>
    let cs := o.take n
    match Text.Utf8.decode (Octets.toBytes cs) with
    | some [c] =>
      if cs.length = n && 0x80 ≤ c.toNat then some (cs, c) else none
    | _ => none

/-- The octets of a character at the start of octets, if there is one that is
more than one octet, and can be printed. -/
def wideCharacter? (o : Octets) : Option Octets :=
  (encodedAt? o).bind fun (cs, c) => if 0xA0 ≤ c.toNat then some cs else none

/-- Whether an octet is a character that can be printed. -/
def isPrintable (c : Char) : Bool := ' ' ≤ c && c ≤ '~'

/-- The letters of control characters after a backslash. -/
def controlNames : List (Char × Char) :=
  [('\x07', 'a'), ('\x08', 'b'), ('\t', 't'), ('\n', 'n'), ('\x0b', 'v'),
   ('\x0c', 'f'), ('\x0d', 'r')]

/-- An octet that cannot be printed, after a backslash. -/
def controlText (c : Char) : Octets :=
  match controlNames.lookup c with
  | some l => ['\\', l]
  | none => '\\' :: (Nat.toDigits 8 c.toNat).leftpad 3 '0'

/-- Octets with what cannot be printed as backslashes and letters or
numbers. -/
def escapedWithin : Nat → Octets → Octets
  | 0, _ => []
  | _, [] => []
  | fuel + 1, c :: cs =>
    if isPrintable c then
      (if c = '\\' then ['\\', '\\'] else [c]) ++ escapedWithin fuel cs
    else
      match wideCharacter? (c :: cs) with
      | some w => w ++ escapedWithin fuel ((c :: cs).drop w.length)
      | none => controlText c ++ escapedWithin fuel cs

/-- Octets between curved quotes. -/
def quoted (o : Octets) : Octets :=
  Octets.ofString "‘" ++ escapedWithin (o.length + 1) o ++ Octets.ofString "’"

/-- The parts of octets that are shown as one, and whether they can be
printed. Where texts are just octets, `plain`, every octet is a part. -/
def shownParts (plain : Bool) : Nat → Octets → List (Octets × Bool)
  | 0, _ => []
  | _, [] => []
  | fuel + 1, c :: cs =>
    match if plain then none else wideCharacter? (c :: cs) with
    | some w => (w, true) :: shownParts plain fuel ((c :: cs).drop w.length)
    | none => ([c], isPrintable c) :: shownParts plain fuel cs

/-- Parts between straight quotes as a shell reads them, from a place that is
between such quotes or between those for escapes. -/
def shellWithin : Bool → List (Octets × Bool) → Octets
  | _, [] => []
  | escaping, (part, printed) :: rest =>
    if part = ['\x27'] then "\x27\\\x27\x27".toList ++ shellWithin false rest
    else if printed then
      (if escaping then ['\x27', '\x27'] else []) ++ part ++
        shellWithin false rest
    else
      (if escaping then [] else "\x27$\x27".toList) ++
        part.flatMap controlText ++ shellWithin true rest

/-- Whether a part means the same between quotes of either kind; some signs do
so at the start alone. -/
def isQuiet (first : Bool) (p : Octets × Bool) : Bool :=
  match p.1 with
  | [c] =>
    c.isAlphanum || first && (c = '#' || c = '~') ||
      c ∈ ['\x27', ' ', '%', '+', ',', '-', '.', '/', ':', '@', ']', '_']
  | _ => p.2

/-- Octets between quotes as a shell reads them: between double quotes if
there is an apostrophe and nothing that means something there. If that is not
so, what follows the first quote is as if it followed the last part. -/
def shellText (plain : Bool) (o : Octets) : Octets :=
  let parts := shownParts plain (o.length + 1) o
  if !o.contains '\x27' then '\x27' :: shellWithin false parts ++ ['\x27']
  else if (parts.take 1).all (isQuiet true) &&
      (parts.drop 1).all (isQuiet false) then
    '\x22' :: o ++ ['\x22']
  else
    '\x27' :: shellWithin (parts.getLast?.any (!·.2)) parts ++ ['\x27']

/-- Octets between quotes as a shell reads them. -/
def named (o : Octets) : Octets := shellText false o

/-- Octets that a shell reads as something else unless they are between
quotes. -/
def isShellSign (c : Char) : Bool :=
  c ∈ ['\x22', '\x27', '!', '$', '&', '(', ')', '*', ';', '<', '=', '>', '[',
    '^', '\x60', '|', '?', '\\', ' ']

/-- Octets as a shell reads them, between quotes where that is needed. -/
def shellWord (plain : Bool) (o : Octets) : Octets :=
  let simple := o.all isPrintable ||
    !plain && (escapedWithin (o.length + 1) o) = o
  let special := o.any isShellSign || o.head? = some '#' ||
    o.head? = some '~' || o = ['\x7b'] || o = ['\x7d']
  if o.isEmpty || !simple || special then shellText plain o else o

/-- Octets as a shell reads them, between quotes where that is needed or
where a colon could be taken for that after a name. -/
def bareName (o : Octets) : Octets :=
  if o.contains ':' then named o else shellWord false o

/-- A message about a file. -/
def about (path : Octets) (message : Octets) : Octets :=
  bareName path ++ ": ".toList ++ message

end BitProbe.Bench

import BitProbe.Bench.Numerals
import BitProbe.Bench.Options
import BitProbe.Bench.Quoting

/-!
Composing texts.

Arguments are put into the places of a format, or written with blanks between
them. A shell's own commands and the programs of the same names do that in
two dialects, which differ in their escapes and in their messages.

* `Compose.escape`, `Compose.expanded`: what stands after a backslash;
* `Compose.Fit`: how a value is fitted into its place;
* `Compose.passes`: a format that is used as long as arguments are left;
* `printf`, `ownPrintf`, `echo`, `ownEcho`: the programs.
-/

namespace BitProbe.Bench

namespace Compose

/-- The value of an octal digit. -/
def octalDigit? (c : Char) : Option Nat :=
  if '0' ≤ c && c ≤ '7' then some (c.toNat - '0'.toNat) else none

/-- The octet of at most so many octal digits, and what follows them. -/
def octal (most : Nat) (o : Octets) : Char × Octets :=
  let ds := (o.take most).takeWhile fun c => (octalDigit? c).isSome
  (Char.ofNat (ofDigits 8 ds % 256), o.drop ds.length)

/-- The letters that stand for control characters after a backslash. -/
def letters : List (Char × Char) :=
  [('a', '\x07'), ('b', '\x08'), ('e', '\x1b'), ('f', '\x0c'), ('n', '\n'),
   ('r', '\x0d'), ('t', '\t'), ('v', '\x0b'), ('\\', '\\')]

/-- What an escape stands for. -/
inductive Escape where
  | octets (o : Octets)
  /-- The end of all output. -/
  | stop
  /-- Nothing, and why not. -/
  | wrong (message : Octets)

/-- The character with a number in so many digits, after the letter of its
escape. -/
def universal (letter : Char) (ds : Octets) : Escape :=
  let n := ofDigits 16 ds
  if 0xD800 ≤ n && n ≤ 0xDFFF then
    .wrong ("invalid universal character name \\".toList ++
      letter :: ds.map Char.toLower)
  else if 0x10FFFF < n then .octets ('\\' :: letter :: ds.map Char.toUpper)
  else .octets (Octets.ofString (String.singleton (Char.ofNat n)))

/-- An escape after its backslash, and what follows it. -/
def escape (own : Bool) (o : Octets) : Escape × Octets :=
  match o with
  | [] => (.octets ['\\'], [])
  | c :: cs =>
    match octalDigit? c, letters.lookup c with
    | some _, _ =>
      let r := octal 3 o
      (.octets [r.1], r.2)
    | none, some d => (.octets [d], cs)
    | none, none =>
      let missing := "missing hexadecimal number in escape".toList
      if own then (.octets ['\\'], o)
      else if c = '\x22' then (.octets [c], cs)
      else if c = 'c' then (.stop, cs)
      else if c = 'x' then
        let ds := digitsIn 16 (cs.take 2)
        if ds.isEmpty then (.wrong missing, cs)
        else (.octets [Char.ofNat (ofDigits 16 ds)], cs.drop ds.length)
      else if c = 'u' || c = 'U' then
        let size := if c = 'u' then 4 else 8
        let ds := digitsIn 16 (cs.take size)
        if ds.length < size then (.wrong missing, cs)
        else (universal c ds, cs.drop size)
      else (.octets ['\\', c], cs)

/-- An escape of a text that is only echoed: without quotes and characters by
their numbers, and never wrong. -/
def echoEscape (o : Octets) : Escape × Octets :=
  match o with
  | '\x22' :: cs => (.octets ['\\', '\x22'], cs)
  | 'u' :: cs => (.octets ['\\', 'u'], cs)
  | 'U' :: cs => (.octets ['\\', 'U'], cs)
  | 'x' :: cs =>
    if (digitsIn 16 (cs.take 1)).isEmpty then (.octets ['\\', 'x'], cs)
    else escape false o
  | o => escape false o

/-- How a text with escapes ends. -/
inductive Ending where
  | goesOn
  /-- It asks for an end of all output. -/
  | stopped
  | wrong (message : Octets)

/-- Whether nothing follows a text that ends so. -/
def Ending.stops : Ending → Bool
  | goesOn => false
  | _ => true

/-- A text with its escapes resolved, and how it ends. An octal number may
have a zero before its three digits. -/
def expanded (escape : Octets → Escape × Octets) :
    Nat → Octets → Octets × Ending
  | 0, o => (o, .goesOn)
  | _, [] => ([], .goesOn)
  | _, '\\' :: 'c' :: _ => ([], .stopped)
  | fuel + 1, '\\' :: '0' :: cs =>
    let r := octal 3 cs
    let e := expanded escape fuel r.2
    (r.1 :: e.1, e.2)
  | fuel + 1, '\\' :: cs =>
    match escape cs with
    | (.octets o, rest) =>
      let e := expanded escape fuel rest
      (o ++ e.1, e.2)
    | (.stop, _) => ([], .stopped)
    | (.wrong m, _) => ([], .wrong m)
  | fuel + 1, c :: cs =>
    let e := expanded escape fuel cs
    (c :: e.1, e.2)

/-- How an argument is fitted into its place. -/
structure Fit where
  flags : List Char
  width : Nat
  precision : Option Nat

namespace Fit

/-- Whether a flag is set. -/
def has (f : Fit) (flag : Char) : Bool := f.flags.contains flag

/-- A text filled up to the width of its place. -/
def fill (f : Fit) (o : Octets) : Octets :=
  if f.has '-' then o ++ List.replicate (f.width - o.length) ' '
  else o.leftpad f.width ' '

/-- A number in its place: a sign or a mark of its base, zeros if they may
fill the place, digits. -/
def number (f : Fit) (zeros : Bool) (mark digits : Octets) : Octets :=
  if zeros && f.has '0' && !f.has '-' then
    mark ++ digits.leftpad (f.width - mark.length) '0'
  else f.fill (mark ++ digits)

/-- The sign of a number. -/
def sign (f : Fit) (negative : Bool) : Octets :=
  if negative then ['-']
  else if f.has '+' then ['+']
  else if f.has ' ' then [' '] else []

/-- The digits of a whole number, as many as the precision asks for. -/
def digits (f : Fit) (base n : Nat) : Octets :=
  let ds := if n = 0 && f.precision = some 0 then []
    else Nat.toDigits base n
  ds.leftpad (f.precision.getD 1) '0'

/-- A whole number with a sign. -/
def signed (f : Fit) (n : Int) : Octets :=
  f.number f.precision.isNone (f.sign (n < 0)) (f.digits 10 n.natAbs)

/-- A whole number without a sign, by the letter of its base. -/
def based (f : Fit) (letter : Char) (n : Nat) : Octets :=
  let zeros := f.precision.isNone
  if letter = 'o' then
    let ds := f.digits 8 n
    f.number zeros [] (if f.has '#' && ds.head? ≠ some '0' then '0' :: ds
      else ds)
  else if letter = 'x' || letter = 'X' then
    let mark : Octets := if f.has '#' && n ≠ 0 then ['0', 'x'] else []
    let text := f.number zeros mark (f.digits 16 n)
    if letter = 'X' then text.map Char.toUpper else text
  else f.number zeros [] (f.digits 10 n)

/-- A fraction, by the letter of the way it is written. -/
def fraction (f : Fit) (bits : Nat) (letter : Char) (x : Fraction) : Octets :=
  let lower := letter.toLower
  let finite := match x with
    | .finite _ _ _ => true
    | _ => false
  let digits := x.text bits lower f.precision (f.has '#')
  let mark := if lower = 'a' && finite then 2 else 0
  let o := f.number finite (f.sign x.isNegative ++ digits.take mark)
    (digits.drop mark)
  if letter.isUpper then o.map Char.toUpper else o

/-- A text, cut to the precision of its place. -/
def text (f : Fit) (o : Octets) : Octets :=
  f.fill (match f.precision with
    | some p => o.take p
    | none => o)

end Fit

/-! ### Arguments as numbers -/

/-- The least and the greatest whole number with a sign and without one. -/
def range (withSign : Bool) : Int × Int :=
  if withSign then (-2 ^ 63, 2 ^ 63 - 1) else (-(2 ^ 64 - 1), 2 ^ 64 - 1)

/-- A message about an argument that is no number, or not only one. -/
def notOnlyNumber (own started : Bool) (o : Octets) : Octets :=
  if own then
    o ++ (if started then ": not completely converted"
      else ": expected numeric value").toList
  else
    quoted o ++ (if started then ": value not completely converted"
      else ": expected a numeric value").toList

/-- A message about a number that is too large. -/
def tooLarge (own : Bool) (o : Octets) : Octets :=
  (if own then o else quoted o) ++ ": Numerical result out of range".toList

/-- The octet after a quote at the start of an argument, if there is one, or
the character unless texts are just octets. -/
def octetNumber? (plain : Bool) (own : Bool) (o : Octets) : Option Nat :=
  match o with
  | q :: cs =>
    if q ≠ '\x27' && q ≠ '\x22' then none
    else
      match cs with
      | [] => if own then some 0 else none
      | c :: _ =>
        match if own || plain then none else wideCharacter? cs with
        | some w => (Octets.toText w).toList.head?.map Char.toNat
        | none => some c.toNat
  | [] => none

/-- Says that something follows the octet after a quote. -/
def warnBehindOctet (own : Bool) (o : Octets) : Work Unit := do
  let plain := (← get).plain
  let size := if plain then 1
    else ((wideCharacter? (o.drop 1)).map List.length).getD 1
  let rest := o.drop (1 + size)
  if !own && !rest.isEmpty then
    let status := (← get).status
    Work.complain status ("warning: ".toList ++ rest ++
      ": character(s) following character constant have been ignored".toList)

/-- The whole number that an argument stands for. -/
def wholeOf (own withSign : Bool) (o : Octets) : Work Int := do
  match octetNumber? (← get).plain own o with
  | some n =>
    warnBehindOctet own o
    return n
  | none =>
    let (n, rest, started) := match leadingInteger? true o with
      | some (n, rest) => (n, rest, true)
      | none => (0, o, false)
    let (low, high) := range withSign
    if !rest.isEmpty then Work.complain 1 (notOnlyNumber own started o)
    else if n < low || high < n then Work.complain 1 (tooLarge own o)
    return if withSign then max low (min n high)
      else if n < low then high else min n high

/-- The fraction that an argument stands for. -/
def fractionOf (own : Bool) (o : Octets) : Work Fraction := do
  match octetNumber? (← get).plain own o with
  | some n =>
    warnBehindOctet own o
    return .finite false n 1
  | none =>
    let (x, rest, started) := match leadingFraction? o with
      | some (x, rest) => (x, rest, true)
      | none => (.finite false 0 1, o, false)
    let (x, large) := if own then x.rounded 53 1024 else x.rounded 64 16384
    if !rest.isEmpty then Work.complain 1 (notOnlyNumber own started o)
    else if large then Work.complain 1 (tooLarge own o)
    return x

/-! ### Formats -/

/-- A place in a format, after its percent sign. -/
structure Place where
  flags : List Char
  /-- A number, or a star for the next argument. -/
  width : Option (Option Nat)
  precision : Option (Option Nat)
  letter : Option Char
  /-- How many octets the place takes. -/
  size : Nat

/-- A number in a place, or a star, and how many octets that takes. -/
def sizeAt (o : Octets) : Option (Option Nat) × Nat :=
  match o with
  | '*' :: _ => (some none, 1)
  | o =>
    let ds := o.takeWhile Char.isDigit
    (if ds.isEmpty then none else some (Text.decimal? ds), ds.length)

/-- The place after a percent sign, with flags and letters for sizes that may
stand in it. -/
def placeWith (flags sizes : List Char) (o : Octets) : Place :=
  let given := o.takeWhile flags.contains
  let n := given.length
  let (width, k) := sizeAt (o.drop n)
  let n := n + k
  let (precision, n) := match o.drop n with
    | '.' :: cs =>
      let (p, k) := sizeAt cs
      (some (p.getD (some 0)), n + 1 + k)
    | _ => (none, n)
  let n := n + ((o.drop n).takeWhile sizes.contains).length
  ⟨given, width, precision, (o.drop n).head?, n + 1⟩

/-- The flags that places may have. -/
def allFlags : List Char := ['-', '+', ' ', '#', '0', '\x27', 'I']

/-- The place after a percent sign. -/
def placeAt (own : Bool) (o : Octets) : Place :=
  if own then placeWith ['-', '+', ' ', '#', '0'] [] o
  else placeWith allFlags ['l', 'L', 'h', 'j', 't', 'z'] o

/-- Letters of places for whole numbers and for fractions. -/
def wholeLetters : List Char := ['d', 'i', 'o', 'u', 'x', 'X']

@[inherit_doc wholeLetters]
def fractionLetters : List Char :=
  ['a', 'A', 'e', 'E', 'f', 'F', 'g', 'G']

/-- Whether a place can be filled. -/
def Place.isValid (own : Bool) (p : Place) : Bool :=
  match p.letter with
  | none => false
  | some l =>
    let known := wholeLetters.contains l || fractionLetters.contains l ||
      l = 's' || l = 'c'
    if own then known || l = 'b'
    else known &&
      !(p.flags.contains '#' && l ∈ ['c', 'd', 'i', 's', 'u']) &&
      !(p.flags.contains '0' && l ∈ ['c', 's']) &&
      !(p.precision.isSome && l = 'c') &&
      !(p.flags.contains '\x27' && l ∉ ['d', 'f', 'F', 'g', 'G', 'i', 'u'])

/-- The largest width and the largest precision that are worked out. -/
def widest : Nat := 2 ^ 24

/-- Whether a value cannot be fitted because it would become too large. -/
def Fit.isTooLarge (f : Fit) : Bool :=
  widest < f.width || f.precision.any (widest < ·)

/-- What a place of known sizes makes of a value. -/
def Place.fit (p : Place) : Fit :=
  ⟨p.flags, min widest ((p.width.bind id).getD 0),
    p.precision.map fun n => min widest (n.getD 0)⟩

/-- A number that a place takes from the arguments, and the arguments left;
or nothing if it is no size. A shell itself keeps its lower half. -/
def starred (own : Bool) (what : String) (size : Option (Option Nat))
    (args : List Octets) : Work (Option (Option Int × List Octets)) := do
  match size, args with
  | none, _ => return some (none, args)
  | some (some n), _ => return some (some n, args)
  | some none, [] => return some (some 0, [])
  | some none, a :: args =>
    let n ← wholeOf own true a
    if own then return some (some (Int.bmod n (2 ^ 32)), args)
    else if n < 2 ^ 31 && (-(2 ^ 31) ≤ n || what = "precision") then
      return some (some n, args)
    else
      Work.complain 1 ("invalid ".toList ++ what.toList ++ ": ".toList ++
        quoted a)
      return none

/-- The sizes of a place and the arguments left, unless there are none. -/
def sizes (own : Bool) (p : Place) (args : List Octets) :
    Work (Option (Fit × List Octets)) := do
  match ← starred own "field width" p.width args with
  | none => return none
  | some (width, args) =>
    match ← starred own "precision" p.precision args with
    | none => return none
    | some (precision, args) =>
      let width := width.getD 0
      let flags := if width < 0 then '-' :: p.flags else p.flags
      let precision := precision.bind fun n =>
        if n < 0 then none else some n.toNat
      return some (⟨flags, width.natAbs, precision⟩, args)

/-- An argument in a place, and whether all output ends. -/
def filled (own : Bool) (f : Fit) (letter : Char) (arg : Option Octets) :
    Work (Octets × Bool) := do
  let o := arg.getD []
  if letter = 's' then return (f.text o, false)
  else if letter = 'b' then
    let e := expanded (escape own) (o.length + 1) o
    return (f.text e.1, e.2.stops)
  else if letter = 'c' then
    return (f.fill [o.headD (Char.ofNat 0)], false)
  else if letter = 'd' || letter = 'i' then
    let n ← if arg.isSome then wholeOf own true o else pure 0
    return (f.signed n, false)
  else if wholeLetters.contains letter then
    let n ← if arg.isSome then wholeOf own false o else pure 0
    return (f.based letter (n % 2 ^ 64).toNat, false)
  else
    let x ← if arg.isSome then fractionOf own o else pure (.finite false 0 1)
    return (f.fraction (if own then 0 else 3) letter x, false)

/-- Says that a place cannot be filled. -/
def refuse (own : Bool) (p : Place) (o : Octets) : Work Unit :=
  let shown := '%' :: o.take p.size
  if own then
    Work.complain 2 (if p.letter.isNone then
        "missing format character".toList
      else shown ++ ": invalid directive".toList)
  else
    Work.complain 1 (shown ++ ": invalid conversion specification".toList)

/-- One use of a format: the arguments left, or nothing if all output
ends. -/
def pass (own : Bool) : Nat → Octets → List Octets →
    Work (Option (List Octets))
  | 0, _, args => return some args
  | _, [], args => return some args
  | fuel + 1, '\\' :: cs, args => do
    match escape own cs with
    | (.octets o, rest) =>
      Work.say o
      pass own fuel rest args
    | (.stop, _) =>
      if !own then Work.setStatus 0
      return none
    | (.wrong m, _) =>
      Work.complain 1 m
      return none
  | fuel + 1, '%' :: '%' :: cs, args => do
    Work.say ['%']
    pass own fuel cs args
  | fuel + 1, '%' :: cs, args => do
    match own, cs with
    | false, 'b' :: cs =>
      let o := args.headD []
      let e := expanded (escape own) (o.length + 1) o
      Work.say e.1
      match e.2 with
      | .goesOn => pass own fuel cs args.tail
      | .stopped =>
        Work.setStatus 0
        return none
      | .wrong m =>
        Work.complain 1 m
        return none
    | false, 'q' :: cs =>
      let plain := (← get).plain
      Work.say ((args.head?.map (shellWord plain)).getD [])
      pass own fuel cs args.tail
    | _, _ =>
      let p := placeAt own cs
      match ← sizes own p args with
      | none => return none
      | some (f, args) =>
      if !p.isValid own then
        refuse own p cs
        return none
      else if f.isTooLarge then
        if own then Work.complain 2 "xvsnprintf failed".toList
        else Work.complain 1 "write error".toList
        return none
      else
        let (o, stop) ← filled own f (p.letter.getD 's') args.head?
        Work.say o
        if stop then return none
        else pass own fuel (cs.drop p.size) args.tail
  | fuel + 1, c :: cs, args => do
    Work.say [c]
    pass own fuel cs args

/-- A format used as long as arguments are left and it takes some. -/
def passes (own : Bool) (format : Octets) : Nat → List Octets → Work Unit
  | 0, _ => return ()
  | fuel + 1, args => do
    match ← pass own (format.length + 1) format args with
    | none => return ()
    | some [] => return ()
    | some (a :: left) =>
      if left.length + 1 < args.length then
        passes own format fuel (a :: left)
      else if !own then
        let status := (← get).status
        Work.complain status
          ("warning: ignoring excess arguments, starting with ".toList ++
            quoted a)

end Compose

open Compose in
/-- Arguments in the places of a format. -/
def printf : Program := fun c =>
  let args := if c.args.head? = some ['-', '-'] then c.args.tail else c.args
  c.perform <|
    match args with
    | [] => Work.misuse 1 "missing operand".toList
    | format :: args =>
      if c.args = ["--version".toList] then
        Work.sayLine "printf (GNU coreutils) 9.4".toList
      else passes false format (args.length + 1) args

open Compose in
/-- Arguments in the places of a format, as a shell itself does it. -/
def ownPrintf : Program := fun c =>
  let go : List Octets → Work Unit
    | [] => Work.complain 2 "usage: printf format [arg ...]".toList
    | format :: args => passes true format (args.length + 1) args
  c.perform <|
    match c.args with
    | ['-', '-'] :: args => go args
    | ('-' :: l :: _) :: _ =>
      Work.complain 2 ("Illegal option -".toList ++ [l])
    | args => go args

/-- Whether an argument has letters of options alone after a dash. -/
def isEchoOption (o : Octets) : Bool :=
  match o with
  | '-' :: c :: cs => (c :: cs).all fun c => c ∈ ['n', 'e', 'E']
  | _ => false

/-- Arguments with blanks between them. -/
def echo : Program := fun c =>
  let os := (c.args.takeWhile isEchoOption).flatten
  let args := c.args.dropWhile isEchoOption
  let resolve := os.reverse.find? (fun c => c = 'e' || c = 'E') = some 'e'
  let text := [' '].intercalate args
  let (text, ending) := if resolve then
      Compose.expanded Compose.echoEscape (text.length + 1) text
    else (text, .goesOn)
  c.perform <|
    if c.args = ["--version".toList] then
      Work.sayLine "echo (GNU coreutils) 9.4".toList
    else Work.say (text ++ if os.contains 'n' || ending.stops then []
      else ['\n'])

/-- Arguments with their escapes resolved and blanks between them, as a shell
itself writes them. -/
def ownEcho : Program := fun c =>
  let (bare, args) := match c.args with
    | ['-', 'n'] :: args => (true, args)
    | args => (false, args)
  let text := [' '].intercalate args
  let (text, ending) :=
    Compose.expanded (Compose.escape true) (text.length + 1) text
  c.perform (Work.say (text ++ if bare || ending.stops then [] else ['\n']))

end BitProbe.Bench

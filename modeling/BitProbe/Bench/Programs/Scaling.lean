import BitProbe.Bench.Numerals
import BitProbe.Bench.Options
import BitProbe.Bench.Programs.Selection

/-!
Numbers with letters for thousands.

* `Scaling.Scale`: what the letters behind numbers stand for;
* `Scaling.amount`: a number with a letter as it is read;
* `Scaling.Task.text`: a number as it is written, with the least letter that
  suits it;
* `Scaling.Template`: what stands around numbers;
* `numfmt`: the program.
-/

namespace BitProbe.Bench

namespace Scaling

/-- What the letters behind numbers stand for. -/
inductive Scale where
  | plain
  /-- Powers of a thousand, or of 1024 if there is another letter. -/
  | either
  | thousands
  | binary
  /-- Powers of 1024, with another letter behind the first one. -/
  | marked
  deriving DecidableEq

namespace Scale

/-- The number whose powers the letters stand for. -/
def base : Scale → Nat
  | binary => 1024
  | marked => 1024
  | _ => 1000

/-- The scale that a word stands for. -/
def ofWord (o : Octets) : Scale :=
  match String.ofList o with
  | "auto" => either
  | "si" => thousands
  | "iec" => binary
  | "iec-i" => marked
  | _ => plain

end Scale

/-- How decimals are dropped. -/
inductive Rounding where
  | up | down | fromZero | towardsZero | nearest

/-- What is done about what is no number. -/
inductive Invalid where
  | abort | fail | warn | ignore
  deriving DecidableEq

/-- The letters of the powers. -/
def letters : Octets := SizeUnit.letters

/-- How many digits a number has at most that is read, and that is written
without a letter. -/
def mostDigits : Nat := 33

@[inherit_doc mostDigits]
def mostPlainDigits : Nat := 18

/-- The largest whole number of 63 bits. -/
def largest : Extended := .ofInt (2 ^ 63 - 1)

/-- A number without decimals. -/
def Rounding.apply (r : Rounding) (x : Extended) : Extended :=
  let turns := Extended.ofInt (x.div largest).whole
  let x := x.sub (largest.mul turns)
  let upwards (x : Extended) : Int :=
    if (Extended.ofInt x.whole).isLess x then x.whole + 1 else x.whole
  let downwards (x : Extended) : Int := -upwards x.neg
  let n := match r with
    | up => upwards x
    | down => downwards x
    | fromZero => if x.num < 0 then downwards x else upwards x
    | towardsZero => x.whole
    | nearest =>
      (x.add ⟨if x.num < 0 then -1 else 1, 2⟩).whole
  (largest.mul turns).add (.ofInt n)

/-- How often a number can be divided until it is less than the divisor, and
what is left. -/
def reduced (base : Nat) : Nat → Extended → Nat × Extended
  | 0, x => (0, x)
  | fuel + 1, x =>
    if x.size.isLess (.ofInt base) then (0, x)
    else
      let r := reduced base fuel (x.div (.ofInt base))
      (r.1 + 1, r.2)

/-- How often numbers are divided at most. -/
def mostTurns : Nat := 5000

/-! ### Numbers as they are read -/

/-- What is wrong with a number. -/
inductive Wrong where
  | large | number | letter | unknown | unmarked
  /-- What follows the number. -/
  | behind (o : Octets)

/-- What is said about a number that is wrong. -/
def Wrong.message (o : Octets) : Wrong → Octets
  | large => "value too large to be converted: ".toList ++ quoted o
  | number => "invalid number: ".toList ++ quoted o
  | letter =>
    "rejecting suffix in input: ".toList ++ quoted o ++
      " (consider using --from)".toList
  | unknown => "invalid suffix in input: ".toList ++ quoted o
  | unmarked =>
    "missing \x27i\x27 suffix in input: ".toList ++ quoted o ++
      " (e.g Ki/Mi/Gi)".toList
  | behind rest =>
    "invalid suffix in input ".toList ++ quoted o ++ ": ".toList ++ quoted rest

/-- A number that has been read. -/
structure Amount where
  value : Extended
  places : Nat := 0
  /-- Whether there are more digits than count. -/
  isLong : Bool := false

/-- The digits at the start of octets as a number without a sign. -/
def digits (o : Octets) : Except Wrong (Extended × Bool × Octets) :=
  let ds := o.takeWhile Char.isDigit
  let rest := o.drop ds.length
  let count := (ds.dropWhile (· = '0')).length
  if mostDigits < count then .error .large
  else if ds.isEmpty && rest.head? ≠ some '.' then .error .number
  else
    let ten := Extended.ofInt 10
    .ok (ds.foldl (fun x d =>
        (x.mul ten).add (.ofInt (d.toNat - '0'.toNat : Nat))) (.ofInt 0),
      mostPlainDigits < count, rest)

/-- The number at the start of octets, and what follows it. -/
def leading (o : Octets) : Except Wrong (Amount × Octets) := do
  let (negative, cs) := match o with
    | '-' :: cs => (true, cs)
    | cs => (false, cs)
  let sign (x : Extended) : Extended := if negative then x.neg else x
  let (value, isLong, rest) ← digits cs
  match rest with
  | '.' :: cs =>
    match cs with
    | '-' :: cs =>
      let _ ← digits cs
      throw .number
    | cs =>
      let (part, isLonger, rest) ← digits cs
      let places := cs.length - rest.length
      let part := part.div (Extended.power 10 places)
      return ({ value := sign (value.add part), places
                isLong := isLong || isLonger }, rest)
  | rest => return ({ value := sign value, isLong }, rest)

/-- A number with the letter that may stand behind it. -/
def amount (scale : Scale) (o : Octets) : Except Wrong Amount := do
  let (a, rest) ← leading o
  let (a, base, power, rest) ← if rest.isEmpty then
      pure (a, scale.base, 0, rest)
    else
      let rest := rest.dropWhile fun c => c = ' ' || c = '\t'
      let power? := match rest with
        | [] => some 0
        | c :: _ => (letters.findIdx? (· = c)).map (· + 1)
      match power? with
      | none => throw .unknown
      | some n =>
        if scale = .plain then throw .letter
        else
          let a := { a with places := 0 }
          match scale, rest.tail with
          | .either, 'i' :: rest => pure (a, 1024, n, rest)
          | _, rest => pure (a, scale.base, n, rest)
  let rest ← match scale, rest with
    | .marked, 'i' :: rest => pure rest
    | .marked, _ => throw .unmarked
    | _, rest => pure rest
  if !rest.isEmpty then throw (.behind rest)
  return { a with value := a.value.mul (Extended.power base power) }

/-- The size of a unit, which is a number with letters. -/
def unit? (o : Octets) : Option Nat :=
  let number? (o : Octets) : Option (Nat × Octets) :=
    match leadingInteger? false o with
    | some (.ofNat n, rest) => some (n, rest)
    | some _ => none
    | none => if (o.head?.any letters.contains) then some (1, o) else none
  (number? o).bind fun (n, rest) =>
    let size? := match rest with
      | [] => some 1
      | [c] => (letters.findIdx? (· = c)).map fun i => 1000 ^ (i + 1)
      | [c, 'i'] => (letters.findIdx? (· = c)).map fun i => 1024 ^ (i + 1)
      | _ => none
    size?.bind fun size =>
      if 0 < n * size && n * size < 2 ^ 64 then some (n * size) else none

/-! ### What stands around numbers -/

/-- What stands before and behind numbers, and how they are fitted. -/
structure Template where
  before : Octets := []
  after : Octets := []
  zeros : Nat := 0
  width : Option Int := none
  places : Option Nat := none

namespace Template

/-- The number of octets before the sign for a number, and what follows it, if
there is a sign. Two signs for percent count as one octet. -/
def signAt? : Nat → Octets → Option (Nat × Octets)
  | _, [] => none
  | n, '%' :: '%' :: cs => signAt? (n + 1) cs
  | n, '%' :: cs => some (n, cs)
  | n, _ :: cs => signAt? (n + 1) cs

/-- What follows flags, and whether one of them is a zero. -/
def flags (o : Octets) : Bool × Octets :=
  let cs := o.dropWhile fun c => c ∈ [' ', '\x27', '0']
  ((o.take (o.length - cs.length)).contains '0', cs)

/-- A template, or what is wrong with it. -/
def ofOctets (o : Octets) : Except Octets Template := do
  let wrong (m : String) : Octets := "invalid format ".toList ++ quoted o ++
    m.toList
  match signAt? 0 o with
  | none => throw ("format ".toList ++ quoted o ++
      " has no % directive".toList)
  | some (n, cs) =>
    let (hasZero, cs) := flags cs
    let (width, cs) := match leadingInteger? false cs with
      | some (w, cs) => (w, cs)
      | none => (0, cs)
    if width ≤ -(2 ^ 63) ∨ 2 ^ 63 ≤ width then throw (wrong " (width overflow)")
    if cs.isEmpty then
      throw ("format ".toList ++ quoted o ++ " ends in %".toList)
    let (places, cs) ← match cs with
      | '.' :: cs =>
        let r := leadingInteger? false cs
        let isWrong : Bool := match cs with
          | c :: _ => c ∈ [' ', '\t', '+'] ||
            r.any fun r => r.1 < 0 || 2 ^ 63 ≤ r.1
          | [] => false
        if isWrong then
          throw ("invalid precision in format ".toList ++ quoted o)
        match r with
        | some (p, cs) => pure (some p.toNat, cs)
        | none => pure (some 0, cs)
      | cs => pure (none, cs)
    match cs with
    | 'f' :: after =>
      if (signAt? 0 after).isSome then
        throw ("format ".toList ++ quoted o ++
          " has too many % directives".toList)
      let zeros := hasZero && 0 < width
      return { before := o.take n, after, places
               zeros := if zeros then width.toNat else 0
               width := if zeros || width = 0 then none else some width }
    | _ => throw (wrong ", directive must be %[0][\x27][-][N][.][N]f")

end Template

/-! ### Lines -/

/-- What the program is asked to do. -/
structure Task where
  source : Scale := .plain
  target : Scale := .plain
  sourceUnit : Nat := 1
  targetUnit : Nat := 1
  rounding : Rounding := .fromZero
  width : Int := 0
  isGrouped : Bool := false
  suffix : Octets := []
  separator : Option Char := none
  ranges : Option (List Cut.Range) := none
  header : Nat := 0
  format : Option Octets := none
  template : Template := {}
  invalid : Invalid := .abort
  isChecked : Bool := false
  ending : Char := '\n'

namespace Task

/-- A number with so many decimals, filled up with zeros. -/
def number (k : Task) (places : Nat) (x : Extended) : Octets :=
  let sign := if x.num < 0 then ['-'] else []
  sign ++ (Fraction.fixedDigits places false x.num.natAbs x.den).leftpad
    (k.template.zeros - sign.length) '0'

/-- A number as it is written: without a letter with as many decimals as it
had, or with the least letter that suits it. -/
def text (k : Task) (places : Nat) (x : Extended) : Octets :=
  if k.target = .plain then
    let power := Extended.power 10 places
    k.number places ((k.rounding.apply (x.mul power)).div power)
  else
    let base := Extended.ofInt k.target.base
    let (power, x) := reduced k.target.base mostTurns x
    let adjust := match k.template.places with
      | some p => min (power * 3) p
      | none => if x.size.isLess (.ofInt 10) then 1 else 0
    let x := (k.rounding.apply (x.mul (Extended.power 10 adjust))).div
      (Extended.power 10 adjust)
    let (power, x) := if x.size.isLess base then (power, x)
      else (power + 1, x.div base)
    let isShort := x.num ≠ 0 && x.size.isLess (.ofInt 10) && 0 < power
    k.number (k.template.places.getD (if isShort then 1 else 0)) x ++
      (if power = 0 then [] else ((letters[power - 1]?).toList)) ++
      (if k.target = .marked && 0 < power then ['i'] else [])

/-- Why a number cannot be written, if that is so. -/
def refusal? (k : Task) (places : Nat) (x : Extended) : Option Octets :=
  let size := (reduced 10 mostTurns x).1
  let shown := (if x.num < 0 then ['-'] else []) ++
    x.fraction.text 3 'g' none false
  let large := "value too large to be printed: \x27".toList ++ shown ++ ['\x27']
  if k.target = .plain && mostPlainDigits < size + places then
    some (if places = 0 then large ++ " (consider using --to)".toList
      else
        "value/precision too large to be printed: \x27".toList ++ shown ++
          '/' :: Text.decimal places ++ "\x27 (consider using --to)".toList)
  else if mostDigits - 1 < size then
    some (large ++ " (cannot handle values > 999Q)".toList)
  else none

/-- A text filled up with blanks to a width, which is negative if they stand
behind it. -/
def padded (width : Int) (o : Octets) : Octets :=
  if width < 0 then o.rightpad width.natAbs ' ' else o.leftpad width.natAbs ' '

/-- Whether a field is one of those that are looked at. -/
def includes (k : Task) (field : Nat) : Bool :=
  match k.ranges with
  | none => field = 1
  | some rs => rs.any (·.has field)

/-- The text that takes the place of a number in a field, or what is wrong with
it; and whether digits have been lost. -/
def converted (k : Task) (field : Nat) (o : Octets) :
    Except Octets (Octets × Option Octets) :=
  let o := if k.suffix.length < o.length && !k.suffix.isEmpty &&
      k.suffix.isSuffixOf o then o.take (o.length - k.suffix.length) else o
  let body := o.dropWhile fun c => c = ' ' || c = '\t'
  let width : Int := if k.width = 0 && k.separator.isNone then
      if body.length < o.length || 1 < field then o.length else 0
    else k.width
  match amount k.source body with
  | .error w => .error (w.message body)
  | .ok a =>
    let value := if k.sourceUnit = 1 && k.targetUnit = 1 then a.value
      else (a.value.mul (.ofInt k.sourceUnit)).div (.ofInt k.targetUnit)
    let places := k.template.places.getD a.places
    match k.refusal? places value with
    | some m => .error m
    | none =>
      .ok (k.template.before ++ padded width (k.text places value ++ k.suffix) ++
          k.template.after,
        if a.isLong then some body else none)

/-- What is left to be done after a field. -/
inductive Outcome where
  | done | wrong | overflow
  deriving DecidableEq

/-- Writes a field. -/
def writeField (k : Task) (field : Nat) (o : Octets) : Work Outcome := do
  if !k.includes field then
    Work.say o
    return .done
  match k.converted field o with
  | .ok (text, lossy) =>
    match lossy, k.isChecked with
    | some body, true =>
      Work.complain (← get).status ("large input value ".toList ++
        quoted body ++ ": possible precision loss".toList)
    | _, _ => pure ()
    Work.say text
    return .done
  | .error m =>
    if k.invalid ≠ .ignore then
      Work.complain (if k.invalid = .abort then 2 else 0) m
    if k.invalid = .abort then return .overflow
    Work.say o
    return .wrong

/-- The fields of a line. Where no octet is said to separate them, blanks before
a field belong to it. -/
def fields (k : Task) (line : Octets) : List Octets :=
  match k.separator with
  | some c => line.splitOn c
  | none => split (line.length + 1) line
where
  /-- The same, with fuel. -/
  split : Nat → Octets → List Octets
    | 0, _ => []
    | fuel + 1, o =>
      let isBlank (c : Char) : Bool := c ∈ [' ', '\t', '\n']
      let lead := o.takeWhile isBlank
      let word := (o.drop lead.length).takeWhile (!isBlank ·)
      match o.drop (lead.length + word.length) with
      | [] => [lead ++ word]
      | _ :: rest => (lead ++ word) :: split fuel rest

/-- Writes fields with what separates them, and says what is left to be
done. -/
def writeFields (k : Task) : Nat → List Octets → Work Outcome
  | _, [] => return .done
  | n, o :: os => do
    if 1 < n then Work.say [k.separator.getD ' ']
    match ← k.writeField n o with
    | .overflow => return .overflow
    | first =>
      let others ← k.writeFields (n + 1) os
      return if others = .done then first else others

/-- Writes lines, and says what is left to be done. -/
def writeLines (k : Task) : List (Octets × Bool) → Work Outcome
  | [] => return .done
  | (line, isWhole) :: lines => do
    match ← k.writeFields 1 (k.fields (line.takeWhile (· ≠ Char.ofNat 0))) with
    | .overflow => return .overflow
    | first =>
      if isWhole then Work.say [k.ending]
      let others ← k.writeLines lines
      return if others = .done then first else others

/-- Writes the lines of a text, the first of which may be left as they are. -/
def writeText (k : Task) (o : Octets) : Work Outcome := do
  let lines := Octets.linesBy k.ending o
  Work.say (lines.take k.header).flatten
  k.writeLines ((lines.drop k.header).map fun l =>
    (Octets.withoutEnd k.ending l, l.getLast? = some k.ending))

/-- What is wrong with an option. -/
structure Fault where
  message : Octets
  isMisuse : Bool := false

/-- The words for scales. -/
def scaleWords : List (List String) :=
  [["none"], ["auto"], ["si"], ["iec"], ["iec-i"]]

/-- The task with what an option adds to it, or what is wrong with it. -/
def add (k : Task) (o : Opt) : Except Fault Task := do
  let v := o.value.getD []
  let wrong {α : Type} (what : String) : Except Fault α :=
    .error { message := what.toList ++ quoted v }
  match o.key with
  | "from" => return { k with source := .ofWord v }
  | "to" => return { k with target := .ofWord v }
  | "from-unit" =>
    match unit? v with
    | some n => return { k with sourceUnit := n }
    | none => wrong "invalid unit size: "
  | "to-unit" =>
    match unit? v with
    | some n => return { k with targetUnit := n }
    | none => wrong "invalid unit size: "
  | "round" =>
    return { k with
      rounding := match String.ofList v with
        | "up" => .up
        | "down" => .down
        | "towards-zero" => .towardsZero
        | "nearest" => .nearest
        | _ => .fromZero }
  | "grouping" => return { k with isGrouped := true }
  | "padding" =>
    match leadingInteger? false v with
    | some (n, []) =>
      if n = 0 ∨ n ≤ -(2 ^ 63) ∨ 2 ^ 63 ≤ n then wrong "invalid padding value "
      else return { k with width := n }
    | _ => wrong "invalid padding value "
  | "field" =>
    if k.ranges.isSome then
      throw { message := "multiple field specifications".toList }
    if v = ['-'] then return { k with ranges := some [⟨1, none⟩] }
    match Cut.rangesOf ⟨true⟩ v with
    | .ok rs => return { k with ranges := some rs }
    | .error m => throw { message := m, isMisuse := true }
  | "delimiter" =>
    match v with
    | [] => return { k with separator := some (Char.ofNat 0) }
    | [c] => return { k with separator := some c }
    | _ =>
      throw { message := "the delimiter must be a single character".toList }
  | "zero-terminated" => return { k with ending := Char.ofNat 0 }
  | "suffix" => return { k with suffix := v }
  | "debug" => return { k with isChecked := true }
  | "header" =>
    match o.value with
    | none => return { k with header := 1 }
    | some v =>
      match leadingInteger? false v with
      | some (n, []) =>
        if n ≤ 0 ∨ 2 ^ 64 ≤ n then wrong "invalid header value "
        else return { k with header := n.toNat }
      | _ => wrong "invalid header value "
  | "format" => return { k with format := some v }
  | "invalid" =>
    return { k with
      invalid := match String.ofList v with
        | "fail" => .fail
        | "warn" => .warn
        | "ignore" => .ignore
        | _ => .abort }
  | _ => return k

/-- The task with what its template asks for, or what is wrong with it. -/
def ready (k : Task) : Except Octets Task := do
  if k.format.isSome && k.isGrouped then
    throw "--grouping cannot be combined with --format".toList
  let k ← match k.format with
    | none => pure k
    | some o =>
      let t ← Template.ofOctets o
      pure { k with template := t, width := t.width.getD k.width }
  if k.isGrouped && k.target ≠ .plain then
    throw "grouping cannot be combined with --to".toList
  return k

/-- What is said about a task whose options are to be checked. -/
def remarks (k : Task) (hasArguments : Bool) : List String :=
  (if k.source = .plain && k.target = .plain && !k.isGrouped && k.width = 0 &&
      k.format.isNone then ["no conversion option specified"] else []) ++
    (if k.isGrouped then ["grouping has no effect in this locale"] else []) ++
    (if 0 < k.header && hasArguments then
      ["--header ignored with command-line input"] else [])

/-- The status of a program that has converted numbers. -/
def finish (k : Task) (r : Outcome) : Work Unit := do
  if r = .wrong then
    if k.isChecked then
      Work.complain (← get).status
        "failed to convert some of the input numbers".toList
    if k.invalid = .fail then Work.setStatus 2

end Task

/-- The options of the program. -/
def switches : List Switch :=
  [.choice "from" .value Task.scaleWords,
   .choice "to" .value (Task.scaleWords.filter (· ≠ ["auto"])),
   .long "from-unit" .value, .long "to-unit" .value,
   .choice "round" .value [["up"], ["down"], ["from-zero"], ["towards-zero"],
     ["nearest"]],
   .long "grouping" .nothing, .long "padding" .value, .long "field" .value,
   .valued 'd' "delimiter", .flag 'z' "zero-terminated",
   .long "suffix" .value, .long "debug" .nothing, .long "header" .maybe,
   .long "format" .value,
   .choice "invalid" .value [["abort"], ["fail"], ["warn"], ["ignore"]]]

end Scaling

open Scaling in
/-- Writes numbers with other letters for thousands. -/
def numfmt : Program := fun c =>
  c.asked switches true (fun m => Work.misuse 1 m.message) ({} : Task)
    (fun k o => Work.accept (fun f : Task.Fault =>
      if f.isMisuse then Work.misuse 1 f.message
      else Work.complain 1 f.message) (k.add o))
    fun k _ args => do
      match k.ready with
      | .error m => Work.complain 1 m
      | .ok k =>
        if k.isChecked then
          Work.each (fun m : String => Work.complain 0 m.toList)
            (k.remarks (!args.isEmpty))
        if !args.isEmpty then
          k.finish (← k.writeLines (args.map fun a => (a, true)))
        else
          match ← Work.takeInput with
          | .error e =>
            Work.complain 1 ("error reading input: ".toList ++ e.reason.toList)
          | .ok s =>
            if s.isEndless then Work.hang
            k.finish (← k.writeText s.held)

end BitProbe.Bench

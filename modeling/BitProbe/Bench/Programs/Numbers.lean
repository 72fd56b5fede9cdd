import BitProbe.Bench.Compose

/-!
Programs about numbers and times.

* `duration?`, `sleep`: waiting;
* `Sequence.Term`, `Sequence.terms`, with `Sequence.terms_one`: a number after another with
  the same step;
* `seq`: the program.
-/

namespace BitProbe.Bench

/-! ### Waiting -/

/-- A time in microseconds: a number with decimals, and a unit. -/
def duration? (o : Octets) : Option Nat :=
  let unit? (rest : Octets) : Option Nat :=
    match rest with
    | [] => some 1
    | ['s'] => some 1
    | ['m'] => some 60
    | ['h'] => some 3600
    | ['d'] => some 86400
    | _ => none
  match leadingFraction? o with
  | some (.finite negative num den, rest) =>
    if negative && num ≠ 0 then none
    else (unit? rest).map fun u => (num * u * 1000000 + den - 1) / den
  | some (.infinite false, rest) => (unit? rest).map fun _ => endless
  | _ => none

/-- Waits for the time that its arguments add up to. -/
def sleep : Program := fun c =>
  c.given [] true 1 fun _ times =>
    if times.isEmpty then Work.misuse 1 "missing operand".toList
    else
      match times.filter fun t => (duration? t).isNone with
      | [] => Work.wait (times.filterMap duration?).sum
      | wrong => do
        wrong.forM fun t =>
          Work.complain 1 ("invalid time interval ".toList ++ quoted t)
        Work.sayOn 2 ("Try \x27".toList ++ c.name ++
          " --help\x27 for more information.\n".toList)

/-! ### Sequences -/

namespace Sequence

/-- A number as it is given: its value, how many decimals it has, if that can
be said, and how wide it is. -/
structure Term where
  num : Int
  den : Nat
  places : Option Nat
  width : Nat
  /-- Whether there is no such number because it is too large. -/
  isInfinite : Bool := false

/-- What is wrong with an argument. -/
inductive Wrong where
  | noNumber
  | undefined

/-- The exponent in a number, and how many characters it takes. -/
def exponentOf (o : Octets) : Int × Nat :=
  let tail := o.dropWhile fun c => c ≠ 'e' && c ≠ 'E'
  let e := match leadingInteger? false (tail.drop 1) with
    | some (n, _) => n
    | none => 0
  (e, tail.length)

/-- How wide a decimal number is, and how many decimals it has. -/
def extent (o : Octets) : Nat × Nat :=
  let whole := o.takeWhile (· ≠ '.')
  let pointed := whole.length < o.length
  let decimals := ((o.drop (whole.length + 1)).takeWhile fun c =>
    c ≠ 'e' && c ≠ 'E').length
  let lead := if !pointed then 0
    else if decimals = 0 then -1
    else if whole.getLast?.all fun c => !c.isDigit then 1
    else (0 : Int)
  let (e, tail) := exponentOf o
  let width := (o.length : Int) + lead - tail
  let places : Int := if e < 0 then decimals - e
    else decimals - min decimals e.toNat
  let width := if tail = 0 then width
    else if e < 0 then
      width + (if pointed then (if decimals = 0 then 1 else 0) else 1) - e
    else
      width - (if pointed && places = 0 && decimals ≠ 0 then 1 else 0) +
        (e - min decimals e.toNat)
  (width.toNat, places.toNat)

/-- A number as it is given. -/
def term (o : Octets) : Except Wrong Term :=
  let bare := o.dropWhile fun c => isSpace c || c = '+'
  match leadingFraction? o with
  | some (.finite negative n den, []) =>
    let num : Int := if negative then -n else n
    let isHex := bare.any fun c => c = 'x' || c = 'X'
    if isHex then
      .ok ⟨num, den, if bare.any fun c => c = '.' || c = 'p' then none
        else some 0, 0, false⟩
    else
      let (width, places) := extent bare
      .ok ⟨num, den, some places, width, false⟩
  | some (.infinite negative, []) =>
    .ok ⟨if negative then -1 else 1, 1, none, 0, true⟩
  | some (.undefined _, []) => .error .undefined
  | _ => .error .noNumber

/-- How many numbers are written at most before the rest is taken to go on
for ever. -/
def most : Nat := 300000

/-- How many numbers there are from one to another: `(last - first) / step`
more than one, if the step leads there. -/
def count (first step last : Int) : Nat :=
  if step = 0 then 0
  else if 0 < step then
    if last < first then 0 else ((last - first) / step).toNat + 1
  else if first < last then 0 else ((first - last) / -step).toNat + 1

/-- Numbers that start at one and have a step between them. -/
def terms (first step : Int) (n : Nat) : List Int :=
  (List.range n).map fun (i : Nat) => first + step * (i : Int)

/-- The first number is where they start. -/
theorem terms_one (first step : Int) : terms first step 1 = [first] := by
  simp [terms]

/-- How numbers are written. -/
inductive Style where
  /-- With so many decimals, filled up with zeros to a width. -/
  | decimals (places width : Nat)
  | place (before : Octets) (p : Compose.Place) (after : Octets)
  | usual

/-- The nearest number of as many binary digits as are reckoned with. -/
def nearest (num : Int) (den : Nat) : Int × Nat :=
  match ((Fraction.finite (num < 0) num.natAbs den).rounded 64 16384).1 with
  | .finite negative n d => (if negative then -n else n, d)
  | _ => (num, den)

/-- The number that is so many steps after the first one, as it is reckoned
with. -/
def reckoned (first step : Int × Nat) (i : Nat) : Fraction :=
  let p := nearest (step.1 * i) step.2
  let (num, den) := nearest (first.1 * p.2 + p.1 * first.2) (first.2 * p.2)
  .finite (num < 0) num.natAbs den

/-- The texts of numbers, the first of which and the step between which are
given in parts of a whole. -/
def Style.texts (s : Style) (first step : Int) (den n : Nat) : List Octets :=
  let numbers : List Fraction :=
    let a := nearest first den
    let d := nearest step den
    (List.range n).map (reckoned a d)
  match s with
  | decimals places width =>
    (terms first step n).map fun x =>
      if den = 1 && places = 0 && width = 0 then
        (if x < 0 then ['-'] else []) ++ Text.decimal x.natAbs
      else Compose.Fit.fraction ⟨['0'], width, some places⟩ 3 'f'
        (.finite (x < 0) x.natAbs den)
  | place before p after =>
    numbers.map fun x =>
      before ++ p.fit.fraction 3 (p.letter.getD 'g') x ++ after
  | usual => numbers.map (Compose.Fit.fraction ⟨[], 0, none⟩ 3 'g')

/-- A text with two percent signs as one, up to a place, and the place. -/
def literal : Octets → Octets → Octets × Octets
  | [], acc => (acc.reverse, [])
  | '%' :: '%' :: cs, acc => literal cs ('%' :: acc)
  | '%' :: cs, acc => (acc.reverse, '%' :: cs)
  | c :: cs, acc => literal cs (c :: acc)

/-- The style of a format, or what is wrong with it. -/
def styleOf (o : Octets) : Except Octets Style :=
  let shown := "format ".toList ++ quoted o
  let (before, rest) := literal o []
  match rest with
  | [] => .error (shown ++ " has no % directive".toList)
  | _ :: rest =>
    let p := Compose.placeAt false rest
    match p.letter with
    | none => .error (shown ++ " ends in %".toList)
    | some l =>
      if l ∉ ['e', 'E', 'f', 'F', 'g', 'G', 'a', 'A'] then
        .error (shown ++ " has unknown %".toList ++ [l] ++ " directive".toList)
      else
        let (after, more) := literal (rest.drop p.size) []
        if more.isEmpty then .ok (.place before p after)
        else .error (shown ++ " has too many % directives".toList)

/-- The style in which numbers are written if nothing else is asked for. -/
def usualStyle (equal : Bool) (first step last : Term) : Style :=
  match first.places, step.places with
  | some p, some q =>
    let prec := max p q
    if equal then
      match last.places with
      | none => .usual
      | some r =>
        let firstWidth := first.width + (prec - p) +
          (if p = 0 && prec ≠ 0 then 1 else 0)
        let lastWidth := last.width + prec - r +
          (if r = 0 && prec ≠ 0 then 1 else 0) -
          (if r ≠ 0 && prec = 0 then 1 else 0)
        .decimals prec (max firstWidth lastWidth)
    else if last.places.isNone && !last.isInfinite then .usual
    else .decimals prec 0
  | _, _ => .usual

/-- Whether an argument is a negative number. -/
def isNegative (o : Octets) : Bool :=
  match o with
  | '-' :: c :: _ => c = '.' || c.isDigit
  | _ => false

/-- The arguments with two dashes before the first one that is no option. -/
def marked : List Octets → List Octets
  | [] => []
  | a :: rest =>
    if isNegative a then ['-', '-'] :: a :: rest
    else if a.head? = some '-' && a ≠ ['-', '-'] && a.length = 2 &&
        a ∈ [['-', 's'], ['-', 'f']] then
      a :: (rest.take 1 ++ marked (rest.drop 1))
    else if a.head? = some '-' && a ≠ ['-', '-'] then a :: marked rest
    else a :: rest
termination_by as => as.length
decreasing_by all_goals simp <;> omega

/-- How many numbers there are from one to another, where numbers may be too
large to be told. -/
def size (first step last : Term) (a d b : Int) : Nat :=
  let up := 0 < step.num
  if first.isInfinite then if (0 < first.num) = up then 0 else most + 1
  else if last.isInfinite then if up = (0 < last.num) then most + 1 else 0
  else if step.isInfinite then if up = (a ≤ b) || a = b then 1 else 0
  else count a d b

/-- Writes the numbers from one to another. -/
def write (style : Style) (sep : Octets) (first step last : Term) :
    Work Unit := do
  let den := first.den * step.den * last.den
  let scaled (t : Term) : Int := t.num * (den / t.den : Nat)
  let a := scaled first
  let d := scaled step
  let n := size first step last a d (scaled last)
  if first.isInfinite && 0 < n then Work.hang
  let shown := style.texts a d den (min n most)
  if 0 < n then
    let o := sep.intercalate shown
    if most < n then
      Work.pour { held := o ++ sep, forever := (shown.getLast?.getD []) ++ sep }
    else Work.sayLine o

/-- A number that an argument is, unless that is wrong. -/
def readTerm (o : Octets) : Work (Option Term) :=
  Work.accept (fun w =>
    match w with
    | .undefined =>
      Work.misuse 1 ("invalid ".toList ++ quoted "not-a-number".toList ++
        " argument: ".toList ++ quoted o)
    | .noNumber =>
      Work.misuse 1 ("invalid floating point argument: ".toList ++ quoted o))
    (term o)

/-- The first number, the step and the last number of arguments, which are
looked at one after another. -/
def readTerms (args : List Octets) : Work (Option (Term × Term × Term)) := do
  let one : Term := ⟨1, 1, some 0, 1, false⟩
  match args with
  | [b] => return (← readTerm b).map (one, one, ·)
  | a :: b :: more =>
    match ← readTerm a with
    | none => return none
    | some first =>
      match ← readTerm b, more with
      | none, _ => return none
      | some last, [] => return some (first, one, last)
      | some step, e :: _ =>
        if step.num = 0 then
          Work.misuse 1 ("invalid Zero increment value: ".toList ++ quoted b)
          return none
        else return (← readTerm e).map (first, step, ·)
  | [] => return none

end Sequence

open Sequence in
/-- The numbers from one to another. -/
def seq : Program := fun c =>
  let switches : List Switch :=
    [.valued 'f' "format", .valued 's' "separator", .flag 'w' "equal-width"]
  { c with args := marked c.args }.given switches false 1 fun os args => do
    let equal := hasOpt os "equal-width"
    let sep := (optValue? os "separator").getD ['\n']
    match args with
    | [] => Work.misuse 1 "missing operand".toList
    | _ :: _ :: _ :: extra :: _ =>
      Work.misuse 1 ("extra operand ".toList ++ quoted extra)
    | args =>
      match (optValue? os "format").mapM styleOf with
      | .error m => Work.complain 1 m
      | .ok style =>
        if style.isSome && equal then
          Work.misuse 1 ("format string may not be specified when printing " ++
            "equal width strings").toList
        else
          match ← readTerms args with
          | none => return
          | some (first, step, last) =>
            write (style.getD (usualStyle equal first step last)) sep first
              step last

end BitProbe.Bench

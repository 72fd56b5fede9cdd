import BitProbe.Bench.Calendar
import BitProbe.Bench.Numerals

/-!
Dates in words.

A date is told by items in any order: days, times of the day, zones, names of
days, and differences from what the others say. What is not told is taken
from the present.

* `Dates.Token`, `Dates.tokens`: what words and signs mean;
* `Dates.Told`: what items have told;
* `Dates.item`: one item;
* `Dates.read?`: the time that a text tells;
* `Dates.stamp?`: the time that digits tell.
-/

namespace BitProbe.Bench

namespace Dates

/-! ### Words -/

/-- A number with its digits counted. -/
structure Numeral where
  value : Int
  digits : Nat
  negative : Bool := false
  deriving DecidableEq

/-- What differences are counted in. -/
inductive Unit_ where
  | year
  | month
  | day
  | hour
  | minute
  | second
  deriving DecidableEq

/-- What a word or a sign means. -/
inductive Token where
  /-- A number without a sign, and one with a sign. -/
  | number (n : Numeral)
  | signed (n : Numeral)
  /-- A number with decimals, in nanoseconds. -/
  | decimal (nanoseconds : Int) (hasSign : Bool)
  /-- The half of a day. -/
  | half (afternoon : Bool)
  | month (n : Nat)
  | day (n : Nat)
  /-- A zone by how many seconds it is ahead. -/
  | zone (offset : Int)
  /-- A zone in summer. -/
  | summer (offset : Int)
  | localZone
  | summerSign
  /-- The letter between a day and a time, which is a zone as well. -/
  | letterT
  | letterJ
  /-- So many units. -/
  | units (u : Unit_) (n : Int)
  | ordinal (n : Int)
  | shift (days : Int)
  /-- What turns a difference around, or does not. -/
  | ago (factor : Int)
  | sign (c : Char)
  deriving DecidableEq

/-- The names of the months in capitals. -/
def months : List (String × Nat) :=
  (Moment.monthNames.zipIdx.map fun x => (x.1.toUpper, x.2 + 1)) ++
    [("SEPT", 9)]

/-- The names of the days of a week in capitals. -/
def days : List (String × Nat) :=
  (Moment.dayNames.zipIdx.map fun x => (x.1.toUpper, x.2)) ++
    [("TUES", 2), ("WEDNES", 3), ("THUR", 4), ("THURS", 4)]

/-- The zones by their names, in minutes; summer is told apart. -/
def zones : List (String × Int × Bool) :=
  [("WET", 0, false), ("WEST", 0, true), ("BST", 0, true),
   ("ART", -180, false), ("BRT", -180, false), ("BRST", -180, true),
   ("NST", -210, false), ("NDT", -210, true), ("AST", -240, false),
   ("ADT", -240, true), ("CLT", -240, false), ("CLST", -240, true),
   ("EST", -300, false), ("EDT", -300, true), ("CST", -360, false),
   ("CDT", -360, true), ("MST", -420, false), ("MDT", -420, true),
   ("PST", -480, false), ("PDT", -480, true), ("AKST", -540, false),
   ("AKDT", -540, true), ("HST", -600, false), ("HAST", -600, false),
   ("HADT", -600, true), ("SST", -720, false), ("WAT", 60, false),
   ("CET", 60, false), ("CEST", 60, true), ("MET", 60, false),
   ("MEZ", 60, false), ("MEST", 60, true), ("MESZ", 60, true),
   ("EET", 120, false), ("EEST", 120, true), ("CAT", 120, false),
   ("SAST", 120, false), ("EAT", 180, false), ("MSK", 180, false),
   ("MSD", 180, true), ("IST", 330, false), ("SGT", 480, false),
   ("KST", 540, false), ("JST", 540, false), ("GST", 600, false),
   ("NZST", 720, false), ("NZDT", 720, true)]

/-- The units by their names. -/
def units : List (String × Unit_ × Int) :=
  [("YEAR", .year, 1), ("MONTH", .month, 1), ("FORTNIGHT", .day, 14),
   ("WEEK", .day, 7), ("DAY", .day, 1), ("HOUR", .hour, 1),
   ("MINUTE", .minute, 1), ("MIN", .minute, 1), ("SECOND", .second, 1),
   ("SEC", .second, 1)]

/-- Words for differences. -/
def relatives : List (String × Token) :=
  [("TOMORROW", .shift 1), ("YESTERDAY", .shift (-1)), ("TODAY", .shift 0),
   ("NOW", .shift 0), ("LAST", .ordinal (-1)), ("THIS", .ordinal 0),
   ("NEXT", .ordinal 1), ("FIRST", .ordinal 1), ("THIRD", .ordinal 3),
   ("FOURTH", .ordinal 4), ("FIFTH", .ordinal 5), ("SIXTH", .ordinal 6),
   ("SEVENTH", .ordinal 7), ("EIGHTH", .ordinal 8), ("NINTH", .ordinal 9),
   ("TENTH", .ordinal 10), ("ELEVENTH", .ordinal 11),
   ("TWELFTH", .ordinal 12), ("AGO", .ago (-1)), ("HENCE", .ago 1)]

/-- The zone of a letter. -/
def letterZone (c : Char) : Token :=
  let n : Int := c.toNat - 'A'.toNat
  if c = 'T' then .letterT
  else if c = 'J' then .letterJ
  else if c < 'J' then .zone (3600 * (n + 1))
  else if c < 'N' then .zone (3600 * n)
  else if c = 'Z' then .zone 0
  else .zone (-3600 * (n - 12))

/-- What a zone's name means. -/
def zone? (here : Zone) (w : String) : Option Token :=
  if w ∈ ["GMT", "UT", "UTC"] then some (.zone 0)
  else if w.toList = here.name then some .localZone
  else (zones.lookup w).map fun z =>
    if z.2 then .summer (60 * z.1 + 3600) else .zone (60 * z.1)

/-- What a word in capitals means. Names of months and days may be cut to
three letters, with a point or without it. -/
def word? (here : Zone) (w : Octets) : Option Token :=
  let s := String.ofList w
  let short := w.length = 3 || w.length = 4 && w[3]? = some '.'
  let find {α : Type} (table : List (String × α)) : Option α :=
    (table.find? fun e =>
      if short then e.1.toList.take 3 = w.take 3 else e.1 = s).map (·.2)
  let unit (s : String) : Option Token :=
    (units.lookup s).map fun u => .units u.1 u.2
  let bare := w.filter (· ≠ '.')
  if s = "AM" || s = "A.M." then some (.half false)
  else if s = "PM" || s = "P.M." then some (.half true)
  else ((find months).map Token.month).or <|
    ((find days).map Token.day).or <|
    (zone? here s).or <|
    (if s = "DST" then some .summerSign else none).or <|
    (unit s).or <|
    (if w.getLast? = some 'S' then unit (String.ofList w.dropLast)
      else none).or <|
    (relatives.lookup s).or <|
    (match w with
      | [c] => if c.isAlpha then some (letterZone c) else none
      | _ => none).or <|
    if bare.length < w.length then zone? here (String.ofList bare) else none

/-- A number at the start of octets after a sign, if there is one, and what
follows it. -/
def numberToken (sign : Option Bool) (o : Octets) : Token × Octets :=
  let ds := o.takeWhile Char.isDigit
  let rest := o.drop ds.length
  let value := (Text.decimal? ds).getD 0
  let negative := sign = some true
  let signedValue (n : Int) : Int := if negative then -n else n
  match rest with
  | p :: d :: more =>
    if (p = '.' || p = ',') && d.isDigit then
      let part := (d :: more).takeWhile Char.isDigit
      let nano := (Text.decimal? ((part ++ List.replicate 9 '0').take 9)).getD 0
      let beyond := (part.drop 9).any (· ≠ '0')
      let n := signedValue (value * 10 ^ 9 + nano : Nat)
      (.decimal (if negative && beyond then n - 1 else n) sign.isSome,
        (d :: more).drop part.length)
    else whole ds value negative signedValue rest
  | rest => whole ds value negative signedValue rest
where
  /-- A whole number. -/
  whole (ds : Octets) (value : Nat) (negative : Bool)
      (signedValue : Int → Int) (rest : Octets) : Token × Octets :=
    let n : Numeral := ⟨signedValue value, ds.length, negative⟩
    (if sign.isSome then .signed n else .number n, rest)

/-- What follows a remark in parentheses, so many of which are open. -/
def afterRemark : Nat → Octets → Octets
  | _, [] => []
  | depth, '(' :: cs => afterRemark (depth + 1) cs
  | depth, ')' :: cs => if depth ≤ 1 then cs else afterRemark (depth - 1) cs
  | depth, _ :: cs => afterRemark depth cs

/-- What words and signs mean, unless one of them means nothing. A sign
without a number is passed over. -/
def tokens (here : Zone) : Nat → Octets → Option (List Token)
  | 0, _ => some []
  | _, [] => some []
  | fuel + 1, c :: cs =>
    if isSpace c then tokens here fuel cs
    else if c.isDigit then
      let (t, rest) := numberToken none (c :: cs)
      (tokens here fuel rest).map (t :: ·)
    else if c = '-' || c = '+' then
      let rest := cs.dropWhile isSpace
      if rest.head?.any Char.isDigit then
        let (t, rest) := numberToken (some (c = '-')) rest
        (tokens here fuel rest).map (t :: ·)
      else tokens here fuel rest
    else if c.isAlpha then
      let w := (c :: cs).takeWhile fun c => c.isAlpha || c = '.'
      (word? here ((w.take 19).map Char.toUpper)).bind fun t =>
        (tokens here fuel ((c :: cs).drop w.length)).map (t :: ·)
    else if c = '(' then tokens here fuel (afterRemark 0 (c :: cs))
    else (tokens here fuel cs).map (.sign c :: ·)

/-! ### Items -/

/-- A difference. -/
structure Difference where
  years : Int := 0
  months : Int := 0
  days : Int := 0
  hours : Int := 0
  minutes : Int := 0
  nanoseconds : Int := 0

namespace Difference

/-- A number of units. -/
def ofUnits (u : Unit_) (n : Int) : Difference :=
  match u with
  | .year => { years := n }
  | .month => { months := n }
  | .day => { days := n }
  | .hour => { hours := n }
  | .minute => { minutes := n }
  | .second => { nanoseconds := n * 10 ^ 9 }

/-- Two differences, the second one several times. -/
def plus (a : Difference) (factor : Int) (b : Difference) : Difference where
  years := a.years + factor * b.years
  months := a.months + factor * b.months
  days := a.days + factor * b.days
  hours := a.hours + factor * b.hours
  minutes := a.minutes + factor * b.minutes
  nanoseconds := a.nanoseconds + factor * b.nanoseconds

end Difference

/-- What items have told, and how often each kind of them. -/
structure Told where
  year : Numeral
  month : Int
  day : Int
  hour : Int
  minute : Int
  nanoseconds : Int
  /-- The half of the day, if it has been told. -/
  afternoon : Option Bool := none
  weekday : Nat := 0
  ordinal : Int := 0
  offset : Int := 0
  difference : Difference := {}
  dates : Nat := 0
  times : Nat := 0
  days : Nat := 0
  zones : Nat := 0
  localZones : Nat := 0
  hasDifference : Bool := false

namespace Told

/-- A time of the day. -/
def atTime (t : Told) (hour minute nanoseconds : Int)
    (afternoon : Option Bool) : Told :=
  { t with hour, minute, nanoseconds, afternoon, times := t.times + 1 }

/-- A day of a month, of a year that may be told as well. -/
def onDay (t : Told) (year : Option Numeral) (month day : Int) : Told :=
  { t with
    year := year.getD t.year
    month
    day
    dates := t.dates + 1 }

/-- A zone. -/
def inZone (t : Told) (offset : Int) : Told :=
  { t with offset, zones := t.zones + 1 }

/-- A difference several times. -/
def moved (t : Told) (factor : Int) (d : Difference) : Told :=
  { t with difference := t.difference.plus factor d, hasDifference := true }

/-- A day of the week. -/
def onWeekday (t : Told) (ordinal : Int) (weekday : Nat) : Told :=
  { t with ordinal, weekday, days := t.days + 1 }

/-- A number alone: a year after a day and a time, or a day of many digits, or
a time. -/
def number (t : Told) (n : Numeral) : Told :=
  if 0 < t.dates && t.year.digits = 0 && !t.hasDifference &&
      (0 < t.times || 2 < n.digits) then { t with year := n }
  else if 4 < n.digits then
    { t with
      dates := t.dates + 1
      day := n.value % 100
      month := n.value / 100 % 100
      year := ⟨n.value / 10000, n.digits - 4, false⟩ }
  else if n.digits ≤ 2 then t.atTime n.value 0 0 none
  else t.atTime (n.value / 100) (n.value % 100) 0 none

end Told

/-- The zone that a number with a sign tells, with minutes that may follow
it. -/
def offsetOf? (n : Numeral) (minutes : Option Int) : Option Int :=
  let m : Int := match minutes with
    | none =>
      let v := if n.digits ≤ 2 then n.value * 100 else n.value
      Int.tdiv v 100 * 60 + Int.tmod v 100
    | some m => n.value * 60 + if n.negative then -m else m
  if -1440 ≤ m && m ≤ 1440 then some (60 * m) else none

/-- The zone after a time of the day, if there is one, and what follows
it. -/
def zoneAfter (t : Told) : List Token → Option (Told × List Token)
  | .signed n :: .sign ':' :: .number m :: rest =>
    (offsetOf? n (some m.value)).map fun z => (t.inZone z, rest)
  | .signed n :: rest =>
    (offsetOf? n none).map fun z => (t.inZone z, rest)
  | rest => some (t, rest)

/-- The rest of a time of the day after its hour. -/
def timeAfter (t : Told) (h : Numeral) : List Token →
    Option (Told × List Token)
  | .sign ':' :: .number m :: .sign ':' :: s :: rest =>
    let nano : Option Int := match s with
      | .number n => some (n.value * 10 ^ 9)
      | .decimal n false => some n
      | _ => none
    nano.bind fun s =>
      match rest with
      | .half a :: rest => some (t.atTime h.value m.value s (some a), rest)
      | rest => zoneAfter (t.atTime h.value m.value s none) rest
  | .sign ':' :: .number m :: .half a :: rest =>
    some (t.atTime h.value m.value 0 (some a), rest)
  | .sign ':' :: .number m :: rest =>
    zoneAfter (t.atTime h.value m.value 0 none) rest
  | .half a :: rest => some (t.atTime h.value 0 0 (some a), rest)
  | .signed n :: rest => zoneAfter (t.atTime h.value 0 0 none) (.signed n :: rest)
  | _ => none

/-- A difference with what may turn it around. -/
def turned (t : Told) (d : Difference) : List Token → Told × List Token
  | .ago f :: rest => (t.moved f d, rest)
  | rest => (t.moved 1 d, rest)

/-- An item that starts with a number. -/
def numbered (t : Told) (n : Numeral) (rest : List Token) :
    Option (Told × List Token) :=
  match rest with
  | .sign '/' :: .number m :: .sign '/' :: .number k :: rest =>
    some (if 4 ≤ n.digits then t.onDay (some n) m.value k.value
      else t.onDay (some k) n.value m.value, rest)
  | .sign '/' :: .number m :: rest => some (t.onDay none n.value m.value, rest)
  | .month m :: .signed y :: rest =>
    some (t.onDay (some ⟨-y.value, y.digits, false⟩) m n.value, rest)
  | .month m :: .number y :: rest => some (t.onDay (some y) m n.value, rest)
  | .month m :: rest => some (t.onDay none m n.value, rest)
  | .signed m :: .signed d :: rest =>
    let t := t.onDay (some n) (-m.value) (-d.value)
    match rest with
    | .letterT :: .number h :: rest => timeAfter t h rest
    | .letterT :: _ => none
    | rest => some (t, rest)
  | .signed m :: .units u k :: rest =>
    some ((t.number n).moved 1 (.ofUnits u (m.value * k)), rest)
  | .day d :: rest => some (t.onWeekday n.value d, rest)
  | .units u k :: rest => some (turned t (.ofUnits u (n.value * k)) rest)
  | .sign ':' :: _ => timeAfter t n rest
  | .half _ :: _ => timeAfter t n rest
  | .signed _ :: _ => timeAfter t n rest
  | rest => some (t.number n, rest)

/-- A zone with a difference or a number that may follow it. -/
def zoned (t : Told) (offset : Int) : List Token → Option (Told × List Token)
  | .signed n :: .units u k :: rest =>
    some ((t.inZone offset).moved 1 (.ofUnits u (n.value * k)), rest)
  | .signed n :: .sign ':' :: .number m :: rest =>
    (offsetOf? n (some m.value)).map fun z => (t.inZone (offset + z), rest)
  | .signed n :: rest =>
    (offsetOf? n none).map fun z => (t.inZone (offset + z), rest)
  | .summerSign :: rest => some (t.inZone (offset + 3600), rest)
  | rest => some (t.inZone offset, rest)

/-- One item, and what follows it. -/
def item (t : Told) : List Token → Option (Told × List Token)
  | [] => none
  | .number n :: rest => numbered t n rest
  | .signed n :: .units u k :: rest =>
    some (turned t (.ofUnits u (n.value * k)) rest)
  | .decimal n _ :: .units .second _ :: rest =>
    some (turned t { nanoseconds := n } rest)
  | .month m :: .signed d :: .signed y :: rest =>
    some (t.onDay (some ⟨-y.value, y.digits, false⟩) m (-d.value), rest)
  | .month m :: .number d :: .sign ',' :: .number y :: rest =>
    some (t.onDay (some y) m d.value, rest)
  | .month m :: .number d :: rest => some (t.onDay none m d.value, rest)
  | .day d :: .sign ',' :: rest => some (t.onWeekday 0 d, rest)
  | .day d :: rest => some (t.onWeekday 0 d, rest)
  | .ordinal n :: .day d :: rest => some (t.onWeekday n d, rest)
  | .ordinal n :: .units u k :: rest => some (turned t (.ofUnits u (n * k)) rest)
  | .units u k :: rest => some (turned t (.ofUnits u k) rest)
  | .shift n :: rest => some (t.moved 1 { days := n }, rest)
  | .zone z :: rest => zoned t z rest
  | .letterT :: .signed n :: .units u k :: rest =>
    some ((t.inZone (-25200)).moved 1 (.ofUnits u (n.value * k)), rest)
  | .letterT :: rest => some (t.inZone (-25200), rest)
  | .letterJ :: rest => some ({ t with localZones := t.localZones + 1 }, rest)
  | .summer z :: rest => some (t.inZone z, rest)
  | .localZone :: .summerSign :: rest =>
    some ({ t with localZones := t.localZones + 1 }, rest)
  | .localZone :: rest =>
    some ({ t with localZones := t.localZones + 1 }, rest)
  | _ => none

/-- What all items tell, so many at most. -/
def items : Nat → Told → List Token → Option Told
  | 0, t, _ => some t
  | _, t, [] => some t
  | fuel + 1, t, ts => (item t ts).bind fun r => items fuel r.1 r.2

/-! ### Times -/

/-- The hour of a day, if there is one. -/
def Told.hour? (t : Told) : Option Int :=
  match t.afternoon with
  | none => if 0 ≤ t.hour && t.hour < 24 then some t.hour else none
  | some a =>
    if 0 < t.hour && t.hour ≤ 12 then
      some (t.hour % 12 + if a then 12 else 0)
    else none

/-- A year; one of two digits is near the year 2000. -/
def Told.fullYear (t : Told) : Int :=
  if t.year.digits = 2 then
    t.year.value + if t.year.value < 69 then 2000 else 1900
  else t.year.value

/-- How many days a month has. -/
def monthLength (year month : Int) : Int :=
  Calendar.dayNumber year (month + 1) 1 - Calendar.dayNumber year month 1

/-- The time that has been told, in nanoseconds since the start of 1970. -/
def Told.time? (t : Told) (here : Zone) : Option Int := do
  let few := t.times ≤ 1 && t.dates ≤ 1 && t.days ≤ 1 &&
    t.zones + t.localZones ≤ 1
  if !few then none
  let timed := 0 < t.times || t.hasDifference && t.dates = 0 && t.days = 0
  let hour ← if timed then t.hour? else some 0
  let minute := if timed then t.minute else 0
  let nano := if timed then t.nanoseconds else 0
  let year := t.fullYear
  let right := 1 ≤ t.month && t.month ≤ 12 && 1 ≤ t.day &&
    t.day ≤ monthLength year t.month && 0 ≤ minute && minute < 60 &&
    0 ≤ nano && nano < 60 * 10 ^ 9
  if !right then none
  let start := Calendar.dayNumber year t.month t.day
  let onto := if 0 < t.days && t.dates = 0 then
      let w : Int := Calendar.weekday start
      let weeks := t.ordinal -
        if 0 < t.ordinal && w ≠ t.weekday then 1 else 0
      Int.fmod (t.weekday - w + 7) 7 + 7 * weeks
    else 0
  let (y, m, d) := Calendar.dayOf (start + onto)
  let f := t.difference
  let day := Calendar.dayNumber (y + f.years) (m + f.months) (d + f.days)
  let zone := if 0 < t.zones then t.offset else here.offset
  let seconds := day * 86400 + hour * 3600 + minute * 60 - zone +
    f.hours * 3600 + f.minutes * 60
  return seconds * 10 ^ 9 + nano + f.nanoseconds

/-- The time that a count of seconds after a sign tells. -/
def counted? (o : Octets) : Option Int :=
  let o := o.dropWhile isSpace
  let (sign, ds) : Option Bool × Octets := match o with
    | '-' :: cs => (some true, cs.dropWhile isSpace)
    | '+' :: cs => (some false, cs.dropWhile isSpace)
    | cs => (none, cs)
  if !ds.head?.any Char.isDigit then none
  else
    match numberToken sign ds with
    | (.number n, rest) => ended (n.value * 10 ^ 9) rest
    | (.signed n, rest) => ended (n.value * 10 ^ 9) rest
    | (.decimal n _, rest) => ended n rest
    | _ => none
where
  /-- A value if nothing but blanks follows it. -/
  ended (n : Int) (rest : Octets) : Option Int :=
    if rest.all isSpace then some n else none

/-- The zone that a text starts with, and what follows it. -/
def zoneBefore (here : Zone) (o : Octets) : Zone × Octets :=
  let start := "TZ=\x22".toList
  if start.isPrefixOf o then
    let inside := (o.drop start.length).takeWhile (· ≠ '\x22')
    (Zone.named inside, o.drop (start.length + inside.length + 1))
  else (here, o)

/-- The time that a text tells, in a zone and at a time. -/
def read? (here : Zone) (now : Int) (o : Octets) : Option Int :=
  let (here, o) := zoneBefore here (o.dropWhile isSpace)
  match o.dropWhile isSpace with
  | '@' :: cs => counted? cs
  | o =>
    let m := Moment.of here now
    let start : Told :=
      { year := ⟨m.year, 0, false⟩
        month := m.month
        day := m.day
        hour := m.hour
        minute := m.minute
        nanoseconds := m.second * 10 ^ 9 + m.nanosecond }
    (tokens here (o.length + 1) o).bind fun ts =>
      (items (ts.length + 1) start ts).bind fun t => t.time? here

/-- The time that digits tell: month, day, hour and minute, after a year that
may be left out in part, and seconds that may be left out. -/
def stamp? (here : Zone) (now : Int) (o : Octets) : Option Int :=
  let digits := o.takeWhile (· ≠ '.')
  let seconds := o.drop (digits.length + 1)
  let good := digits.all Char.isDigit && [8, 10, 12].contains digits.length &&
    (digits.length = o.length ||
      seconds.length = 2 && seconds.all Char.isDigit)
  if !good then none
  else
    let rest := digits.drop (digits.length - 8)
    let part (n : Nat) : Int := ofDigits 10 ((rest.drop (2 * n)).take 2)
    let given := digits.take (digits.length - 8)
    let value : Int := ofDigits 10 given
    let year : Int :=
      if given.length = 4 then value
      else if given.length = 2 then value + if value < 69 then 2000 else 1900
      else (Moment.of here now).year
    let second : Int := ofDigits 10 seconds
    let right := 1 ≤ part 0 && part 0 ≤ 12 && 1 ≤ part 1 &&
      part 1 ≤ monthLength year (part 0) && part 2 < 24 && part 3 < 60 &&
      second ≤ 60
    if !right then none
    else
      let day := Calendar.dayNumber year (part 0) (part 1)
      some ((day * 86400 + part 2 * 3600 + part 3 * 60 + second -
        here.offset) * 10 ^ 9)

end Dates

end BitProbe.Bench

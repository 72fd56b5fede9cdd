import BitProbe.Bench.Octets
import BitProbe.Text.Blank

/-!
The calendar.

Times are counted in nanoseconds since the start of 1970, in the calendar of
Gregory, which is taken to hold for ever. A zone is a difference from that
count.

* `Calendar.dayNumber`, `Calendar.dayOf`: days by their numbers, with
  `Calendar.dayNumber_add_month`: twelve months make a year;
* `Zone`, `Zone.named`: zones, by the value of a variable;
* `Moment`, `Moment.of`: a time as it is told in a zone;
* `Moment.text`: a time in a format.
-/

namespace BitProbe.Bench

/-! ### Days -/

namespace Calendar

/-- How many days there are before the first of March of a year, counted from
the first of March of the year zero. -/
def daysBefore (year : Int) : Int :=
  365 * year + Int.fdiv year 4 - Int.fdiv year 100 + Int.fdiv year 400

/-- How many days there are from the first of March to the first of a month,
by the number of months after March. -/
def monthStart (months : Int) : Int := Int.fdiv (153 * months + 2) 5

/-- The number of the first day of 1970 among all days since the first of
March of the year zero. -/
def firstDay : Int := 719468

/-- The number of a day since the start of 1970. Months and days beyond the
end of a year or a month are those of a later one. -/
def dayNumber (year month day : Int) : Int :=
  let months := month - 3
  daysBefore (year + Int.fdiv months 12) + monthStart (Int.fmod months 12) +
    (day - 1) - firstDay

/-- Twelve months make a year. -/
theorem dayNumber_add_month (year month day : Int) :
    dayNumber year (month + 12) day = dayNumber (year + 1) month day := by
  have h : month + 12 - 3 = month - 3 + 12 * 1 := by omega
  unfold dayNumber
  simp only [h, Int.fdiv_eq_ediv_of_nonneg _ (show (0 : Int) ≤ 12 by decide),
    Int.fmod_eq_emod_of_nonneg _ (show (0 : Int) ≤ 12 by decide),
    Int.add_mul_ediv_left _ _ (show (12 : Int) ≠ 0 by decide),
    Int.add_mul_emod_self_left]
  congr 4
  omega

/-- The day with a number: its year, its month and its day of the month. -/
def dayOf (number : Int) : Int × Nat × Nat :=
  let n := number + firstDay
  let era := Int.fdiv n 146097
  let d := Int.fmod n 146097
  let y := Int.fdiv (d - Int.fdiv d 1460 + Int.fdiv d 36524 -
    Int.fdiv d 146096) 365
  let rest := d - daysBefore y
  let m := Int.fdiv (5 * rest + 2) 153
  let day := rest - monthStart m + 1
  let month := if m < 10 then m + 3 else m - 9
  (y + 400 * era + (if m < 10 then 0 else 1), month.toNat, day.toNat)

/-- The day of the week of a day, Sunday being zero. -/
def weekday (number : Int) : Nat := (Int.fmod (number + 4) 7).toNat

end Calendar

/-! ### Zones -/

/-- How times are told: by a name and how many seconds they are ahead. -/
structure Zone where
  name : Octets
  offset : Int
  deriving DecidableEq

namespace Zone

/-- The time that no other is ahead of or behind. -/
def universal : Zone := ⟨"UTC".toList, 0⟩

/-- A number of digits, and what follows it. -/
def digits (o : Octets) : Octets × Octets :=
  (o.takeWhile Char.isDigit, o.dropWhile Char.isDigit)

/-- A difference of hours, minutes and seconds. -/
def difference (o : Octets) : Int :=
  let (negative, o) := match o with
    | '-' :: cs => (true, cs)
    | '+' :: cs => (false, cs)
    | cs => (false, cs)
  let value (ds : Octets) : Nat := (Text.decimal? ds).getD 0
  let (h, rest) := digits o
  let (m, rest) := match rest with
    | ':' :: cs => digits cs
    | cs => ([], cs)
  let s := match rest with
    | ':' :: cs => (digits cs).1
    | _ => []
  let n := 3600 * value h + 60 * value m + value s
  if negative then -n else n

/-- The zone that a value describes: a name and how far it is behind. -/
def named (o : Octets) : Zone :=
  let o := if o.head? = some ':' then o.drop 1 else o
  let (name, rest) : Octets × Octets := match o with
    | '<' :: cs => (cs.takeWhile (· ≠ '>'), (cs.dropWhile (· ≠ '>')).drop 1)
    | cs => (cs.takeWhile Char.isAlpha, cs.dropWhile Char.isAlpha)
  if o.isEmpty then { universal with name := "Universal".toList }
  else if name.length < 3 then { universal with name := [] }
  else ⟨name, -difference rest⟩

/-- The zone that variables say. -/
def ofVariables (environment : List (Octets × Octets)) : Zone :=
  ((environment.lookup ['T', 'Z']).map named).getD universal

end Zone

/-! ### Moments -/

/-- A time as it is told. -/
structure Moment where
  year : Int
  month : Nat
  day : Nat
  hour : Nat
  minute : Nat
  second : Nat
  nanosecond : Nat
  /-- Sunday is zero. -/
  weekday : Nat
  /-- The first day of a year is zero. -/
  yearDay : Nat
  zone : Zone
  /-- The seconds since the start of 1970. -/
  seconds : Int

namespace Moment

/-- Nanoseconds in a second. -/
def perSecond : Int := 10 ^ 9

/-- A time as it is told in a zone. -/
def of (zone : Zone) (time : Int) : Moment :=
  let seconds := Int.fdiv time perSecond
  let told := seconds + zone.offset
  let number := Int.fdiv told 86400
  let s := (Int.fmod told 86400).toNat
  let (year, month, day) := Calendar.dayOf number
  { year, month, day
    hour := s / 3600
    minute := s / 60 % 60
    second := s % 60
    nanosecond := (Int.fmod time perSecond).toNat
    weekday := Calendar.weekday number
    yearDay := (number - Calendar.dayNumber year 1 1).toNat
    zone
    seconds }

/-- The names of the days of a week. -/
def dayNames : List String :=
  ["Sunday", "Monday", "Tuesday", "Wednesday", "Thursday", "Friday",
   "Saturday"]

/-- The names of the months of a year. -/
def monthNames : List String :=
  ["January", "February", "March", "April", "May", "June", "July", "August",
   "September", "October", "November", "December"]

/-- The name of the day. -/
def dayName (m : Moment) : Octets := (dayNames.getD m.weekday "").toList

/-- The name of the month. -/
def monthName (m : Moment) : Octets :=
  (monthNames.getD (m.month - 1) "").toList

/-- The hour on a face of twelve hours. -/
def faceHour (m : Moment) : Nat := if m.hour % 12 = 0 then 12 else m.hour % 12

/-- The year to which the week of the day belongs, and the number of the week
in it. Weeks start with Monday, and the first one has four days at least. -/
def isoWeek (m : Moment) : Int × Nat :=
  let number := Calendar.dayNumber m.year m.month m.day
  let thursday := number - (m.weekday + 6) % 7 + 3
  let year := (Calendar.dayOf thursday).1
  (year, ((thursday - Calendar.dayNumber year 1 1) / 7 + 1).toNat)

/-- The difference of the zone with so many colons: hours and minutes, and
seconds; with three colons as few of them as needed. -/
def offsetText (m : Moment) (colons : Nat) : Octets :=
  let n := m.zone.offset.natAbs
  let two (n : Nat) : Octets := (Text.decimal n).leftpad 2 '0'
  let h := two (n / 3600)
  let mm := two (n / 60 % 60)
  let s := two (n % 60)
  (if m.zone.offset < 0 then '-' else '+') ::
    if colons = 0 then h ++ mm
    else if colons = 1 then h ++ ':' :: mm
    else if colons = 2 then h ++ ':' :: mm ++ ':' :: s
    else if n % 60 ≠ 0 then h ++ ':' :: mm ++ ':' :: s
    else if n / 60 % 60 ≠ 0 then h ++ ':' :: mm
    else h

/-! ### Formats -/

/-- How a part of a time is fitted into its place: what fills the place, how
letters are changed and how wide the place is. -/
structure Place where
  /-- A zero, a blank, a minus sign for nothing or a plus sign. -/
  fill : Option Char := none
  upper : Bool := false
  swapped : Bool := false
  width : Option Nat := none
  colons : Nat := 0

namespace Place

/-- A place with one more flag before it. -/
def flagged (p : Place) (c : Char) : Option Place :=
  if c = '_' then some { p with fill := some ' ' }
  else if c = '-' then some { p with fill := some '-' }
  else if c = '0' then some { p with fill := some '0' }
  else if c = '+' then some { p with fill := some '+' }
  else if c = '^' then some { p with upper := true }
  else if c = '#' then some { p with swapped := true }
  else none

/-- The place at the start of octets, and what follows its flags and its
width. -/
def read : Octets → Place → Place × Octets
  | c :: cs, p =>
    match p.flagged c with
    | some p => read cs p
    | none => sized (c :: cs) p
  | [], p => (p, [])
where
  /-- The width at the start of octets. -/
  sized (o : Octets) (p : Place) : Place × Octets :=
    let ds := o.takeWhile Char.isDigit
    let p := if ds.isEmpty then p else { p with width := Text.decimal? ds }
    (p, o.drop ds.length)

/-- The widest place that is filled. -/
def widest : Nat := 2 ^ 20

/-- Words in their place. -/
def words (p : Place) (o : Octets) : Octets :=
  let o := if p.upper then o.map Char.toUpper else o
  if p.fill = some '-' then o
  else o.leftpad (min widest (p.width.getD 0))
    (if p.fill = some '0' || p.fill = some '+' then '0' else ' ')

/-- A number in its place, which has so many digits at least and is filled by
a zero or a blank if nothing else is said. A plus sign stands before a number
that has more digits than usual, if it is asked for. -/
def number (p : Place) (usual : Char) (least : Nat) (n : Int)
    (signed : Bool) : Octets :=
  let fill := p.fill.getD usual
  let ds := Text.decimal n.natAbs
  let sign : Octets :=
    if n < 0 then ['-']
    else if fill = '+' && signed && least < max ds.length (p.width.getD 0)
      then ['+']
    else []
  if fill = '-' then sign ++ ds
  else
    let width := min widest (p.width.getD least)
    if fill = ' ' then (sign ++ ds).leftpad width ' '
    else
      let width := if p.width.isSome then width - sign.length else width
      sign ++ ds.leftpad width '0'

end Place

/-- The formats that letters stand for. -/
def composites : List (Char × String) :=
  [('c', "%a %b %e %H:%M:%S %Y"), ('D', "%m/%d/%y"), ('x', "%m/%d/%y"),
   ('r', "%I:%M:%S %p"), ('R', "%H:%M"), ('T', "%H:%M:%S"),
   ('X', "%H:%M:%S")]

/-- The century and the year in it. -/
def century (m : Moment) : Int × Nat :=
  (Int.fdiv m.year 100, (Int.fmod m.year 100).toNat)

/-- The nanoseconds in their place, which is that of their first digits. -/
def nanoText (m : Moment) (p : Place) : Octets :=
  let ds := (Text.decimal m.nanosecond).leftpad 9 '0'
  let width := p.width.getD 9
  let kept := Text.dropRight (· = '0') (ds.take (max width 1))
  let kept := if kept.isEmpty then ['0'] else kept
  kept ++ List.replicate (min Place.widest width - kept.length)
    (if p.fill = some ' ' then ' ' else '0')

/-- The difference of the zone in its place. -/
def zoneText (m : Moment) (p : Place) : Octets :=
  let o := m.offsetText p.colons
  let width := min Place.widest (p.width.getD 0)
  let start := (o.drop 1).dropWhile (· = '0')
  let ds := if start.head?.any Char.isDigit then start else '0' :: start
  if p.fill = some '-' then o.take 1 ++ ds
  else if p.fill = some ' ' then
    (o.take 1 ++ ds).leftpad (max width o.length) ' '
  else o.take 1 ++ (o.drop 1).leftpad (width - 1) '0'

/-- What a letter of a format stands for, unless it stands for another
format or for nothing. -/
def part? (m : Moment) (p : Place) (letter : Char) : Option Octets :=
  let two (n : Nat) : Option Octets := some (p.number '0' 2 n false)
  let blank (n : Nat) : Option Octets := some (p.number ' ' 2 n false)
  let one (n : Int) : Option Octets := some (p.number '0' 1 n false)
  let long (n : Int) (least : Nat) : Option Octets :=
    some (p.number '0' least n true)
  let words (o : Octets) : Option Octets :=
    some ({ p with upper := p.upper || p.swapped }.words o)
  let lowered (o : Octets) : Option Octets :=
    some (if p.swapped then { p with upper := false }.words (o.map Char.toLower)
      else p.words o)
  match letter with
  | '%' => some (p.words ['%'])
  | 'n' => some (p.words ['\n'])
  | 't' => some (p.words ['\t'])
  | 'a' => words (m.dayName.take 3)
  | 'A' => words m.dayName
  | 'b' => words (m.monthName.take 3)
  | 'h' => words (m.monthName.take 3)
  | 'B' => words m.monthName
  | 'C' => long m.century.1 2
  | 'd' => two m.day
  | 'e' => blank m.day
  | 'F' =>
    let q : Place := { p with width := p.width.map (· - 6) }
    let year := if p.fill.isNone && p.width.isNone then
        ({ fill := some '+' } : Place).number '0' 4 m.year true
      else q.number '0' 4 m.year true
    some (year ++ '-' :: (Text.decimal m.month).leftpad 2 '0' ++ '-' ::
      (Text.decimal m.day).leftpad 2 '0')
  | 'g' => two (Int.fmod m.isoWeek.1 100).toNat
  | 'G' => long m.isoWeek.1 4
  | 'H' => two m.hour
  | 'I' => two m.faceHour
  | 'j' => some (p.number '0' 3 (m.yearDay + 1 : Nat) false)
  | 'k' => blank m.hour
  | 'l' => blank m.faceHour
  | 'm' => two m.month
  | 'M' => two m.minute
  | 'N' => some (m.nanoText p)
  | 'p' => lowered (if m.hour < 12 then ['A', 'M'] else ['P', 'M'])
  | 'P' => some (p.words (if m.hour < 12 then ['a', 'm'] else ['p', 'm']))
  | 'q' => one ((m.month - 1) / 3 + 1 : Nat)
  | 's' => one m.seconds
  | 'S' => two m.second
  | 'u' => one (if m.weekday = 0 then 7 else m.weekday : Nat)
  | 'w' => one m.weekday
  | 'U' => two ((m.yearDay + 7 - m.weekday) / 7)
  | 'V' => two m.isoWeek.2
  | 'W' => two ((m.yearDay + 7 - (m.weekday + 6) % 7) / 7)
  | 'y' => two m.century.2
  | 'Y' => long m.year 4
  | 'z' => some (m.zoneText p)
  | 'Z' => lowered m.zone.name
  | _ => none
/-- A time in a format, in which each letter may stand for a format of so
many levels. -/
def textBy (m : Moment) : Nat → Nat → Octets → Octets
  | 0, _, o => o
  | _, 0, o => o
  | _, _, [] => []
  | depth + 1, fuel + 1, '%' :: cs =>
    let (p, rest) := Place.read cs {}
    let colons := (rest.takeWhile (· = ':')).length
    let rest := rest.drop colons
    let bare := match rest with
      | 'E' :: more => more
      | 'O' :: more => more
      | more => more
    match bare with
    | [] => '%' :: cs
    | letter :: more =>
      if 0 < colons && letter ≠ 'z' || 3 < colons then
        '%' :: textBy m (depth + 1) fuel cs
      else
        match composites.lookup letter, m.part? { p with colons } letter with
        | some f, _ =>
          let o := textBy m depth fuel f.toList
          p.words o ++ textBy m (depth + 1) fuel more
        | none, some o => o ++ textBy m (depth + 1) fuel more
        | none, none =>
          '%' :: cs.take (cs.length - more.length) ++
            textBy m (depth + 1) fuel more
  | depth + 1, fuel + 1, c :: cs => c :: textBy m (depth + 1) fuel cs

/-- A time in a format. -/
def text (m : Moment) (format : Octets) : Octets :=
  textBy m 2 (2 * format.length + 64) format

end Moment

end BitProbe.Bench

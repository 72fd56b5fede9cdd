import BitProbe.Bench.Numerals
import BitProbe.Bench.Programs.Passing

/-!
The beginnings and the ends of files.

* `Amount`, `Amount.add`: so many lines or octets, by options;
* `Amount.beginning`, `Amount.ending`: that much of a stream;
* `head`, `tail`: the programs.
-/

namespace BitProbe.Bench

/-- So many lines or octets, counted from the start or from the end. -/
structure Amount where
  byOctets : Bool := false
  number : Nat := 10
  /-- Whether it is counted from the other side than usual. -/
  isReversed : Bool := false
  /-- What ends a line. -/
  ending : Char := '\n'

namespace Amount

/-- The largest number that is counted to. -/
def largest : Nat := 2 ^ 64 - 1

/-- A number with a unit, or what is wrong with it. -/
def number? (byOctets : Bool) (v : Octets) : Except Octets Nat :=
  let wrong : Octets := "invalid number of ".toList ++
    (if byOctets then "bytes" else "lines").toList ++ ": ".toList ++ quoted v
  match sized? (v.dropWhile isSpace) with
  | none => .error wrong
  | some n =>
    if largest < n then
      .error (wrong ++ ": Value too large for defined data type".toList)
    else .ok n

/-- The lines of octets. -/
def lines (a : Amount) (o : Octets) : List Octets :=
  Octets.linesBy a.ending o

/-- How much is read at once. -/
def blockSize : Nat := 8192

/-- What is left of a stream from which a program has read up to somewhere in
a block. A file is left exactly there. -/
def leftBlocks (s : Stream) (rest : Stream) : Stream :=
  if s.fileSize.isSome then rest
  else
    let read := s.held.length - rest.held.length
    { rest with held := s.held.drop ((read + blockSize - 1) / blockSize * blockSize) }

/-- The beginning of a stream, and the rest. -/
def beginning (a : Amount) (s : Stream) : Octets × Stream :=
  match a.byOctets, a.isReversed with
  | true, false => s.split a.number
  | true, true =>
    let r := s.split (s.held.length - a.number)
    (r.1, if s.fileSize.isSome then r.2 else s.spent)
  | false, true =>
    let lines := a.lines s.held
    let r := s.split (lines.take (lines.length - a.number)).flatten.length
    (r.1, if s.fileSize.isSome then r.2 else s.spent)
  | false, false =>
    let o := if s.isEndless then
        s.held ++ (List.replicate a.number s.forever).flatten
      else s.held
    let r := s.split ((a.lines o).take a.number).flatten.length
    (r.1, leftBlocks s r.2)

/-- The end of octets: so much, or all from so much on. -/
def ofEnd (a : Amount) (o : Octets) : Octets :=
  if a.byOctets then
    o.drop (if a.isReversed then a.number - 1 else o.length - a.number)
  else
    let lines := a.lines o
    (lines.drop (if a.isReversed then a.number - 1
      else lines.length - a.number)).flatten

/-- So much from the first line on is everything. -/
theorem ofEnd_from_one (o : Octets) :
    ofEnd { byOctets := true, number := 1, isReversed := true } o = o := by
  simp [ofEnd]

end Amount

/-- When a line with its name stands before a file. -/
inductive Titles where
  | never
  | always
  | many
  deriving DecidableEq

namespace Titles

/-- What options ask for. -/
def ofOptions (os : List Opt) : Titles :=
  match lastOf os ["quiet", "silent", "verbose"] with
  | some "verbose" => .always
  | some _ => .never
  | none => .many

/-- Whether names stand before so many files. -/
def apply (t : Titles) (files : Nat) : Bool :=
  t = .always || t = .many && 1 < files

end Titles

/-- The name of a file in a message or a title. -/
def streamName (path : Octets) : Octets :=
  if path = ['-'] then "standard input".toList else path

/-- Does a step with each file, before which its name may stand. -/
def Work.eachTitled (titled : Bool) (paths : List Octets)
    (f : Octets → Stream → Work Unit) : Work Unit := do
  let paths := if paths.isEmpty then [['-']] else paths
  let title (p : Octets) : Work Unit := do
    if titled then
      let lead : Octets := if ((← get).writtenOn 1).isEmpty then [] else ['\n']
      Work.say (lead ++ "==> ".toList ++ streamName p ++ " <==\n".toList)
  Work.eachSource paths
    (fun p r => do
      if p = ['-'] || r = .isADirectory then
        title p
        Work.complain 1 ("error reading ".toList ++ named (streamName p) ++
          ": ".toList ++ r.reason.toList)
      else
        Work.complain 1 ("cannot open ".toList ++ named p ++
          " for reading: ".toList ++ r.reason.toList))
    (fun p s => do
      title p
      f p s)
  Work.closeInput "-" paths

/-- The options of both programs. -/
def endSwitches : List Switch :=
  [.valued 'c' "bytes", .valued 'n' "lines", .flag 'q' "quiet",
   .long "silent" .nothing, .flag 'v' "verbose", .flag 'z' "zero-terminated"]

/-- An amount with what one more option asks for, or what is wrong with it. A
sign says that it is counted from the other side, and for some programs all
later amounts as well. -/
def Amount.add (reverse : Char) (lasts : Bool) (a : Amount) (o : Opt) :
    Except Octets Amount :=
  if o.key = "zero-terminated" then .ok { a with ending := Char.ofNat 0 }
  else if o.key ∉ ["bytes", "lines"] then .ok a
  else do
    let v := o.value.getD []
    let byOctets := o.key = "bytes"
    let isReversed := v.head? = some reverse || lasts && a.isReversed
    let number ← number? byOctets (if v.head? = some '-' then v.drop 1 else v)
    return { a with byOctets, number, isReversed }

/-! ### The beginning -/

/-- A first argument of a dash, digits and letters, as newer options; or the
letter that is none. -/
def olderBeginning (args : List Octets) : Except Char (List Octets) :=
  match args with
  | ('-' :: d :: cs) :: rest =>
    if d.isDigit then
      let ds := (d :: cs).takeWhile Char.isDigit
      let letters := (d :: cs).drop ds.length
      match letters.find? (· ∉ ['c', 'b', 'k', 'm', 'l', 'q', 'v', 'z']) with
      | some c => .error c
      | none =>
        let unit := letters.foldl (fun (u : Bool × Octets) c =>
          if c = 'c' then (true, [])
          else if c ∈ ['b', 'k', 'm'] then (true, [c])
          else if c = 'l' then (false, u.2)
          else u) (false, [])
        let flags := (letters.filter (· ∈ ['q', 'v', 'z'])).map (['-', ·])
        .ok (flags ++ [if unit.1 then ['-', 'c'] else ['-', 'n'],
          ds ++ unit.2] ++ rest)
    else .ok args
  | _ => .ok args

/-- The beginnings of files. -/
def head : Program := fun c =>
  let trailing (l : Char) : Work Unit :=
    Work.misuse 1 ("invalid trailing option -- ".toList ++ [l])
  match olderBeginning c.args with
  | .error l => c.perform (trailing l)
  | .ok args =>
    { c with args }.asked endSwitches true
      (fun m =>
        match m.letter with
        | some l => if l.isDigit then trailing l else Work.misuse 1 m.message
        | none => Work.misuse 1 m.message)
      ({} : Amount) (fun a o => Work.accept (Work.complain 1) (a.add '-' false o))
      fun a os paths =>
        Work.eachTitled ((Titles.ofOptions os).apply paths.length) paths
          fun p s =>
            if s.isEndless && a.isReversed then Work.pour s
            else do
              let r := a.beginning s
              Work.say r.1
              if p = ['-'] then Work.leave r.2

/-! ### The end -/

/-- A first argument of a sign, digits and letters, as newer options, where
that is what it must mean. -/
def olderEnding (args : List Octets) : List Octets :=
  match args with
  | (sign :: cs) :: rest =>
    let alone := match rest with
      | [] => true
      | [p] => p = ['-'] || p.head? ≠ some '-'
      | ['-', '-'] :: more => more.length < 2
      | _ => false
    let ds := cs.takeWhile Char.isDigit
    let letters := cs.drop ds.length
    let (unit, after) : Option Char × Octets := match letters with
      | 'b' :: more => (some 'b', more)
      | 'c' :: more => (some 'c', more)
      | 'l' :: more => (some 'l', more)
      | more => (none, more)
    let known := after = [] || after = ['f']
    let enough := sign = '+' && !cs.isEmpty ||
      sign = '-' && (cs.drop (if cs.head? = some 'c' then 1 else 0)) ≠ []
    if alone && known && enough && (sign = '+' || sign = '-') then
      let ds := if ds.isEmpty then ['1', '0'] else ds
      let lead : Octets := if sign = '+' then ['+'] else []
      let amount : List Octets := match unit with
        | some 'b' => [['-', 'c'], lead ++ ds ++ ['b']]
        | some 'c' => [['-', 'c'], lead ++ ds]
        | _ => [['-', 'n'], lead ++ ds]
      amount ++ (if after = ['f'] then [['-', 'f']] else []) ++ rest
    else args
  | _ => args

/-- Whether an end is copied from somewhere in a file on, without looking at
what is there. -/
def Amount.copies (a : Amount) : Bool :=
  a.byOctets || a.isReversed && a.number < 2

/-- Paths up to the first one of a directory. -/
def Work.upToDirectory : List Octets → Work (List Octets)
  | [] => return []
  | p :: ps => do
    match (← get).files.lookup p.toText with
    | .ok .directory => return [p]
    | _ => return p :: (← Work.upToDirectory ps)

/-- What options of the ends of files say that only matters for files that
grow. -/
def growthWarning? (os : List Opt) : Option Octets :=
  if hasOpt os "retry" then
    some ("warning: --retry ignored; --retry is useful only when " ++
      "following").toList
  else if hasOpt os "pid" then
    some ("warning: PID ignored; --pid=PID is useful only when " ++
      "following").toList
  else none

/-- The ends of files. -/
def tail : Program := fun c =>
  let older := olderEnding c.args
  let switches := endSwitches ++
    [.flag 'f' "", .flag 'F' "",
     .choice "follow" .maybe [["descriptor"], ["name"]],
     .long "retry" .nothing, .valued 's' "sleep-interval",
     .long "pid" .value, .long "max-unchanged-stats" .value]
  let add (a : Amount) (o : Opt) : Except Octets Amount :=
    let v := o.value.getD []
    match o.key with
    | "pid" =>
      if (Text.decimal? v).isSome then .ok a
      else .error ("invalid PID: ".toList ++ quoted v)
    | "sleep-interval" =>
      match leadingFraction? v with
      | some (t, []) =>
        if t.isNegative then
          .error ("invalid number of seconds: ".toList ++ quoted v)
        else .ok a
      | _ => .error ("invalid number of seconds: ".toList ++ quoted v)
    | "max-unchanged-stats" =>
      if (Text.decimal? v).isSome then .ok a
      else
        .error (("invalid maximum number of unchanged stats between " ++
          "opens: ").toList ++ quoted v)
    | _ => a.add '+' true o
  { c with args := older }.asked switches true
    (fun m =>
      match m.letter with
      | some l =>
        if l.isDigit then
          Work.complain 1 ("option used in invalid context -- ".toList ++ [l])
        else Work.misuse 1 m.message
      | none => Work.misuse 1 m.message)
    ({} : Amount) (fun a o => Work.accept (Work.complain 1) (add a o))
    fun a os paths => do
      let follows := (lastOf os ["f", "F", "follow"]).isSome
      match growthWarning? os with
      | some w => if !follows then Work.complain 0 w
      | none => pure ()
      if a.number = 0 && !a.isReversed && !follows then return
      let titled := (Titles.ofOptions os).apply paths.length
      let paths ← if a.copies then Work.upToDirectory paths else pure paths
      Work.eachTitled titled paths
        fun _ s =>
          if !s.isEndless then Work.say (a.ofEnd s.held)
          else if a.isReversed then Work.pour s
          else Work.hang
      if follows && !paths.isEmpty then Work.hang

end BitProbe.Bench

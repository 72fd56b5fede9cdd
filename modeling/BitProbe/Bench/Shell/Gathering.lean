import BitProbe.Bench.Shell.Hosting

/-!
Programs started with arguments from the input.

The input is cut into items, which become arguments of a command, as many as
may be at a time, or take the place of a mark in its arguments.

* `Gathering`: what options ask for, and what belongs to one call;
* `Gathering.Item`, `Gathering.items`: the items of the input, and where lines
  end;
* `Gathering.calls`: the calls that items lead to;
* `Host.gathered`: the program.
-/

namespace BitProbe.Bench.Shell

/-- How items are gathered. -/
structure Gathering where
  /-- What ends items, unless blanks, quotes and lines do. -/
  ending : Option Char := none
  /-- The item that ends the input. -/
  last : Option Octets := none
  /-- The file that takes the place of the input. -/
  path : Option Octets := none
  mark : Option Octets := none
  lines : Option Nat := none
  most : Option Nat := none
  /-- How many octets a call may have. -/
  room : Nat := 131072
  /-- Whether nothing is called where there are no items. -/
  needs : Bool := false
  tells : Bool := false
  /-- Whether a call that has no room for all its items is refused. -/
  strict : Bool := false

namespace Gathering

/-! ### Items -/

/-- What is cut from the input: an item, the end of a line that has items in
it, or why there is nothing more. -/
inductive Item where
  | text (o : Octets)
  | line
  | trouble (message : Octets)

/-- Where a line is read: before an item, in it, between quotes, or after a
backslash. -/
inductive Mode where
  | before
  | within
  | quotes (q : Char)
  | behind

/-- The message about quotes that are not closed. -/
def unmatched (q : Char) : Item :=
  .trouble ("unmatched ".toList ++
    (if q = '\x22' then "double" else "single").toList ++
    " quote; by default quotes are special to xargs unless you use the -0 ".toList
    ++ "option".toList)

/-- The items of the input: `begun` is what has been read of one in reverse
order, and `fresh` says whether a line has nothing in it yet. A blank before
the end of a line joins it to the next one. -/
def itemsFrom (g : Gathering) : Mode → Octets → Bool → Char → Octets → List Item
  | mode, begun, fresh, _, [] =>
    match mode with
    | .quotes q => [unmatched q]
    | _ =>
      if begun.isEmpty then []
      else if some begun.reverse = g.last && (fresh || g.mark.isNone) then []
      else [.text begun.reverse]
  | mode, begun, fresh, past, c :: cs =>
    let onward (mode : Mode) (begun : Octets) : List Item :=
      itemsFrom g mode begun fresh c cs
    let inside (_ : Unit) : List Item :=
      if c = '\n' then
        if some begun.reverse = g.last then []
        else
          let ended := past ≠ ' ' && past ≠ '\t'
          .text begun.reverse :: (if ended then [.line] else []) ++
            itemsFrom g .before [] true c cs
      else if g.mark.isNone && (c = ' ' || c = '\t') then
        if some begun.reverse = g.last then []
        else .text begun.reverse :: itemsFrom g .before [] false c cs
      else if c = '\\' then onward .behind begun
      else if c = '\x22' || c = '\x27' then onward (.quotes c) begun
      else onward .within (c :: begun)
    match mode with
    | .before =>
      if c = '\n' && !fresh && past ≠ ' ' && past ≠ '\t' then
        .line :: onward .before []
      else if isSpace c then onward .before begun
      else inside ()
    | .within => inside ()
    | .quotes q =>
      if c = '\n' then [unmatched q]
      else if c = q then onward .within begun
      else onward (.quotes q) (c :: begun)
    | .behind => onward .within (c :: begun)

/-- Items up to the first one that is longer than there is room for. Zeros end
items. -/
def fitting (room : Nat) : List Item → List Item
  | [] => []
  | .text o :: is =>
    if room < o.length then [.trouble "argument line too long".toList]
    else .text (o.takeWhile (· ≠ Char.ofNat 0)) :: fitting room is
  | i :: is => i :: fitting room is

/-- The items of the input, for which there is so much room. -/
def items (g : Gathering) (room : Nat) (o : Octets) : List Item :=
  fitting room (match g.ending with
    | some c => (Octets.linesBy c o).flatMap fun l =>
        [.text (Octets.withoutEnd c l), .line]
    | none => itemsFrom g .before [] true '\n' o)

/-! ### Calls -/

/-- A call that is made, or a message at which the program ends. -/
inductive Step where
  | call (args : List Octets)
  | trouble (message : Octets)

/-- How much room arguments need. -/
def size (args : List Octets) : Nat := (args.map (·.length + 1)).sum

/-- Octets with one text in place of another one. -/
def substituted (old new : Octets) : Nat → Octets → Octets
  | 0, o => o
  | _, [] => []
  | fuel + 1, c :: cs =>
    if !old.isEmpty && old.isPrefixOf (c :: cs) then
      new ++ substituted old new fuel ((c :: cs).drop old.length)
    else c :: substituted old new fuel cs

/-- The calls with an item in place of a mark each. -/
def marked (g : Gathering) (mark : Octets) (command : List Octets) :
    List Item → List Step
  | [] => []
  | .line :: is => marked g mark command is
  | .trouble m :: _ => [.trouble m]
  | .text o :: is =>
    let args := command.take 1 ++
      (command.drop 1).map fun a => substituted mark o (a.length + 1) a
    if g.room < size args then [.trouble "command too long".toList]
    else .call args :: marked g mark command is

/-- The calls with the items behind the arguments of a command: `held` are
those for the next call in reverse order, and `lines` says how many lines they
make. -/
def joined (g : Gathering) (command : List Octets) :
    List Octets → Nat → Bool → List Item → List Step
  | held, _, called, [] =>
    if !held.isEmpty || !called && !g.needs then
      [.call (command ++ held.reverse)]
    else []
  | held, _, _, .trouble m :: _ =>
    (if held.isEmpty || g.strict then []
      else [.call (command ++ held.reverse)]) ++ [.trouble m]
  | held, lines, called, .line :: is =>
    if (g.lines.any (· ≤ lines + 1)) && !held.isEmpty then
      .call (command ++ held.reverse) :: joined g command [] 0 true is
    else joined g command held (lines + 1) called is
  | held, lines, called, .text o :: is =>
    let full := g.room < size command + size held + o.length + 1
    if full && held.isEmpty then
      [.trouble ("cannot fit single argument within argument list size " ++
        "limit").toList]
    else if full && g.strict && (g.lines.isSome || g.most.isSome) then
      [.trouble "argument list too long".toList]
    else
      let now := if full then [] else held
      let first : List Step := if full then [.call (command ++ held.reverse)]
        else []
      if g.most = some (now.length + 1) then
        first ++ .call (command ++ (o :: now).reverse) ::
          joined g command [] lines true is
      else first ++ joined g command (o :: now) lines (called || full) is

/-- The calls that the input leads to. -/
def calls (g : Gathering) (command : List Octets) (o : Octets) : List Step :=
  match g.mark with
  | some mark => marked g mark command (g.items (g.room - 1) o)
  | none =>
    let room := g.room - size command - 1
    if g.room < size command then
      [.trouble ("cannot fit single argument within argument list size " ++
        "limit").toList]
    else joined g command [] 0 false (g.items room o)

/-! ### Options -/

/-- The program's options. -/
def switches : List Switch :=
  [.flag '0' "null", .valued 'a' "arg-file", .valued 'd' "delimiter",
   .valued 'E' "", .mayHave 'e' "eof", .valued 'I' "", .mayHave 'i' "replace",
   .valued 'L' "", .mayHave 'l' "max-lines",
   .valued 'n' "max-args", .flag 'o' "open-tty", .valued 'P' "max-procs",
   .flag 'p' "interactive", .long "process-slot-var" .value,
   .flag 'r' "no-run-if-empty", .valued 's' "max-chars",
   .long "show-limits" .nothing, .flag 't' "verbose", .flag 'x' "exit"]

/-- A number that is not less than another one, as the value of an option with
a letter. -/
def number (letter : Char) (least : Int) (o : Octets) : Work (Option Int) :=
  match leadingInteger? false o with
  | some (n, []) =>
    if n < least then
      Host.refuseUse 1 ("value ".toList ++ o ++ " for -".toList ++ letter ::
        " option should be >= ".toList ++ (toString least).toList)
    else return some n
  | _ =>
    Host.refuseUse 1 ("invalid number \x22".toList ++ o ++
      "\x22 for -".toList ++ letter :: " option".toList)

/-- The octet that the value of an option stands for, or what is wrong with
it. -/
def delimiter (o : Octets) : Except Octets Char :=
  let wrong (why : String) : Except Octets Char :=
    .error ("Invalid escape sequence ".toList ++ o ++
      " in input delimiter specification".toList ++ why.toList)
  match o with
  | [c] => .ok c
  | '\\' :: c :: cs =>
    let named := [('a', '\x07'), ('b', '\x08'), ('f', '\x0c'), ('n', '\n'),
      ('r', '\x0d'), ('t', '\t'), ('v', '\x0b'), ('\\', '\\')].lookup c
    match named with
    | some d => .ok d
    | none =>
      let (base, ds) := if c = 'x' then (16, cs) else (8, c :: cs)
      let known := digitsIn base ds
      let n := ofDigits base known
      if known.isEmpty then wrong "."
      else if 255 < n then wrong ("; character values must not exceed " ++
        if base = 16 then "ff." else "377.")
      else if known.length < ds.length then
        wrong ("; trailing characters " ++
          String.ofList (ds.drop known.length) ++ " not recognised.")
      else .ok (Char.ofNat n)
  | _ =>
    .error ("Invalid input delimiter specification ".toList ++ o ++
      (": the delimiter must be either a single character or an " ++
        "escape sequence starting with \\.").toList)

/-- Warns that an option takes the place of one that came before. -/
def warn (now before : String) : Work Unit := do
  let status := (← get).status
  Work.complain status ("warning: options ".toList ++ before.toList ++
    " and ".toList ++ now.toList ++
    " are mutually exclusive, ignoring previous ".toList ++ before.toList ++
    " value".toList)

/-- The names of the options that exclude one another. -/
def linesName : String := "--max-lines"

@[inherit_doc linesName]
def mostName : String := "--max-args"

@[inherit_doc linesName]
def markName : String := "--replace"

/-- A mark in the arguments of the command, which takes the place of other
ways to gather. -/
def withMark (g : Gathering) (mark : Octets) : Work (Option Gathering) := do
  if g.lines.isSome then warn "--replace/-I/-i" linesName
  if g.most.isSome then warn "--replace/-I/-i" mostName
  return some { g with mark := some mark, lines := none, most := none }

/-- A number of lines for each call, which takes the place of other ways to
gather. -/
def withLines (g : Gathering) (now : String) (n : Nat) :
    Work (Option Gathering) := do
  if g.most.isSome then warn now mostName
  if g.mark.isSome then warn now markName
  return some { g with lines := some n, most := none, mark := none }

/-- What an option adds. -/
def add (g : Gathering) (o : Opt) : Work (Option Gathering) := do
  let v := o.value.getD []
  match o.key with
  | "null" => return some { g with ending := some (Char.ofNat 0) }
  | "arg-file" => return some { g with path := some v }
  | "delimiter" =>
    match delimiter v with
    | .ok c => return some { g with ending := some c }
    | .error m => Host.refuse 1 m
  | "E" => return some { g with last := if v.isEmpty then none else some v }
  | "eof" => return some { g with last := if v.isEmpty then none else some v }
  | "I" => withMark g v
  | "replace" => withMark g (o.value.getD ['\x7b', '\x7d'])
  | "L" =>
    let some n ← number 'L' 1 v | return none
    withLines g "-L" n.toNat
  | "max-lines" =>
    let some n ← number 'l' 1 (o.value.getD ['1']) | return none
    withLines g "--max-lines/-l" n.toNat
  | "max-args" =>
    let some n ← number 'n' 1 v | return none
    if g.lines.isSome then warn "--max-args/-n" linesName
    if n = 1 && g.mark.isSome then return some { g with lines := none }
    else
      if g.mark.isSome then warn "--max-args/-n" markName
      return some { g with most := some n.toNat, lines := none, mark := none }
  | "max-procs" => return (← number 'P' 0 v).map fun _ => g
  | "max-chars" =>
    let some n ← number 's' 1 v | return none
    return some { g with room := n.toNat }
  | "no-run-if-empty" => return some { g with needs := true }
  | "verbose" => return some { g with tells := true }
  | "exit" => return some { g with strict := true }
  | _ => return some g

/-- Warns about what is not as it seems. -/
def caution (g : Gathering) (o : Octets) : Work Unit := do
  let status := (← get).status
  if g.ending.isSome && g.last.isSome then
    Work.complain status ("warning: the -E option has no effect if -0 or " ++
      "-d is used.\n").toList
  if g.ending.isNone && o.contains (Char.ofNat 0) then
    Work.complain status ("WARNING: a NUL character occurred in the input.  " ++
      "It cannot be passed through in the argument list.  Did you mean to " ++
      "use the --null option?").toList

/-- What options ask for, the command, and the input. -/
def read (args : List Octets) :
    Work (Option (Gathering × List Octets × Stream)) := do
  let some (g, rest) ← Host.asked 1 switches args ({} : Gathering) add
    | return none
  let command := if rest.isEmpty then ["echo".toList] else rest
  match g.path with
  | none =>
    let s := (← get).input
    caution g s.held
    return some (g, command, s)
  | some p =>
    match ← Work.fileAt p with
    | .ok s =>
      caution g s.held
      return some (g, command, s)
    | .error e => Host.refuse 1 ("Cannot open input file ".toList ++
        quoted p ++ ": ".toList ++ e.reason.toList)

end Gathering

namespace Host

/-- Makes a call, and says whether that ends everything. Otherwise a failure
is kept as the status. -/
def callOne (start : Start) (name : Octets) (tells : Bool)
    (args : List Octets) (st : State) : Except State State :=
  match args with
  | [] => .ok st
  | command :: args =>
    let st := if tells then st.sendOr 2
        ([' '].intercalate ((command :: args).map bareName) ++ ['\n'])
      else st
    match start command args st with
    | .ok after =>
      let back := returned st after
      match after.fatal, after.status with
      | some s, _ =>
        if back.isDoomed then .error back
        else
        .error { complain name 125 (command ++
            ": terminated by signal ".toList ++ Text.decimal s) back with
          fatal := none }
      | none, 0 => .ok { back with status := st.status }
      | none, 255 =>
        .error (complain name 124 (command ++
          ": exited with status 255; aborting".toList) back)
      | none, _ => .ok { back with status := 123 }
    | .error e =>
      .error (complain name (failureStatus e)
        (command ++ ": ".toList ++ e.reason.toList) st)

/-- Does what calls ask for, up to the first one that ends everything. -/
def callAll (start : Start) (name : Octets) (tells : Bool) :
    List Gathering.Step → State → State
  | [], st => st
  | .trouble m :: _, st => complain name 1 m st
  | .call args :: steps, st =>
    if !st.isRunning then st
    else
      match callOne start name tells args st with
      | .ok st => callAll start name tells steps st
      | .error st => st

/-- Starts a program with arguments from the input, as often as it takes. -/
def gathered : Host := fun start name args st =>
  plan name args st (Gathering.read args) fun (g, command, s) st =>
    let ready := { st with status := 0 }
    if g.path.isSome then
      callAll start name g.tells (g.calls command s.held) ready
    else
      let inner := (ready.leave 0 s.spent).aimAt 0 .null
      restored st (callAll start name g.tells (g.calls command s.held) inner)

end Host

end BitProbe.Bench.Shell

import BitProbe.Bench.Options
import BitProbe.Bench.Regex.Search
import BitProbe.Bench.Quoting

/-!
Programs that pass octets on.

* `Shown`: how octets are shown that would not be seen otherwise;
* `Display`: lines with numbers and with such octets;
* `cat`, `tac`, `rev`: files, their lines in reverse, and the octets of those;
* `tee`: the input, which is written to files as well;
* `yes`: one line over and over again.
-/

namespace BitProbe.Bench

/-- Says that a file cannot be used. -/
def Work.refuse (path : Octets) (e : FileError) : Work Unit :=
  Work.complain 1 (about path e.reason.toList)

/-! ### Showing octets -/

/-- What is to be shown of the octets that would not be seen otherwise. -/
structure Shown where
  controls : Bool
  ends : Bool
  tabs : Bool
  numbers : Bool
  /-- Whether only lines that are not empty have numbers. -/
  filled : Bool
  /-- Whether several empty lines are shown as one. -/
  squeezed : Bool

namespace Shown

/-- What options ask for. -/
def ofOptions (os : List Opt) : Shown where
  controls := (lastOf os ["show-nonprinting", "show-all", "e", "t"]).isSome
  ends := (lastOf os ["show-ends", "show-all", "e"]).isSome
  tabs := (lastOf os ["show-tabs", "show-all", "t"]).isSome
  numbers := (lastOf os ["number", "number-nonblank"]).isSome
  filled := hasOpt os "number-nonblank"
  squeezed := hasOpt os "squeeze-blank"

/-- Whether octets are passed on as they are. -/
def isPlain (w : Shown) : Bool :=
  !(w.controls || w.ends || w.tabs || w.numbers || w.squeezed)

/-- An octet below 128 as it is shown. -/
def control (c : Char) : Octets :=
  if c = '\x7f' then ['^', '?']
  else if c < ' ' then ['^', Char.ofNat (c.toNat + 64)]
  else [c]

/-- An octet as it is shown. -/
def octet (w : Shown) (c : Char) : Octets :=
  if c = '\t' then (if w.tabs then ['^', 'I'] else [c])
  else if !w.controls then [c]
  else if c.toNat < 128 then control c
  else 'M' :: '-' :: control (Char.ofNat (c.toNat - 128))

end Shown

/-- How far lines have been shown. -/
structure Display where
  /-- Whether the next octet starts a line. -/
  isFresh : Bool := true
  /-- How many empty lines have been shown last. -/
  blanks : Nat := 0
  lines : Nat := 0

namespace Display

/-- The number before a line. -/
def mark (n : Nat) : Octets := (Text.decimal n).leftpad 6 ' ' ++ ['\t']

/-- Octets as they are shown, in reverse and before what has been shown
already. -/
def show_ (w : Shown) : Octets → Display → Octets → Display × Octets
  | [], d, acc => (d, acc)
  | c :: cs, d, acc =>
    let stop : Octets := if w.ends then ['$', '\n'] else ['\n']
    if c = '\n' then
      if d.isFresh then
        let blanks := d.blanks + 1
        if w.squeezed && 1 < blanks then show_ w cs { d with blanks } acc
        else if w.numbers && !w.filled then
          show_ w cs { d with blanks, lines := d.lines + 1 }
            ((mark (d.lines + 1) ++ stop).reverse ++ acc)
        else show_ w cs { d with blanks } (stop.reverse ++ acc)
      else show_ w cs { d with isFresh := true, blanks := 0 }
        (stop.reverse ++ acc)
    else
      let o := if c = '\x0d' && w.ends && !w.controls &&
          cs.head? = some '\n' then ['^', 'M'] else w.octet c
      if d.isFresh && w.numbers then
        show_ w cs ⟨false, d.blanks, d.lines + 1⟩
          ((mark (d.lines + 1) ++ o).reverse ++ acc)
      else show_ w cs { d with isFresh := false } (o.reverse ++ acc)

/-- A stream as it is shown after others. -/
def pour (w : Shown) (d : Display) (s : Stream) : Work Display := do
  let o := if s.isEndless then (s.split Work.enough).1 else s.held
  let (d, acc) := show_ w o d []
  Work.pour { held := acc.reverse
              forever := if s.isEndless then acc.reverse else [] }
  return d

end Display

/-! ### Files -/

/-- Whether a file would be read while it is written, by its place and where
in it reading starts. -/
def Call.isOutput (c : Call) (place : Option (List String × Nat)) : Bool :=
  match place, c.outputPlace with
  | some p, some q => p.1 = q.1 && p.2 < q.2
  | _, _ => false

/-- Where reading a path starts. -/
def Call.placeOf (c : Call) (path : Octets) : Option (List String × Nat) :=
  if path = ['-'] then c.inputPlace
  else ((c.files.locate path.toText).toOption).map (·, 0)

/-- Files one after another. -/
def cat : Program := fun c =>
  let switches : List Switch :=
    [.flag 'b' "number-nonblank", .flag 'n' "number",
     .flag 's' "squeeze-blank", .flag 'v' "show-nonprinting",
     .flag 'E' "show-ends", .flag 'T' "show-tabs", .flag 'A' "show-all",
     .flag 'e' "", .flag 't' "", .flag 'u' ""]
  c.given switches true 1 fun os paths => do
    let w := Shown.ofOptions os
    let paths := if paths.isEmpty then [['-']] else paths
    let go (d : Display) (p : Octets) : Work Display := do
      if !(← get).goesOn then return d
      match ← Work.source p with
      | .error r =>
        Work.refuse p r
        return d
      | .ok s =>
        if c.isOutput (c.placeOf p) && !s.held.isEmpty then
          Work.complain 1 (bareName p ++ ": input file is output file".toList)
          return d
        else if w.isPlain then
          Work.pour s
          return d
        else d.pour w s
    let _ ← paths.foldlM go {}
    Work.closeInput "closing standard input" paths

/-- The pieces of octets that a separator cuts, from the end on: the separator
stands after each piece, or before it. The octets are given in reverse, and
what has been read of a piece as it is. -/
def piecesBack (sep : Octets) (before : Bool) :
    Nat → Octets → Octets → List Octets → List Octets
  | 0, _, _, done => done.reverse
  | _, [], piece, done =>
    (if piece.isEmpty then done else piece :: done).reverse
  | fuel + 1, c :: cs, piece, done =>
    if sep.reverse.isPrefixOf (c :: cs) then
      let rest := (c :: cs).drop sep.length
      if before then
        piecesBack sep before fuel rest [] ((sep ++ piece) :: done)
      else
        piecesBack sep before fuel rest sep
          (if piece.isEmpty then done else piece :: done)
    else piecesBack sep before fuel cs (c :: piece) done

/-- The dialect of separators: groups and bars stand behind backslashes, and
there are neither intervals nor classes. -/
def separatorDialect : Dialect :=
  { slashedGroups := true, slashedBraces := true, slashedBar := true
    slashedPlus := false, hasIntervals := false, hasClasses := false
    freeAnchors := false, freeRepeats := false, dotCoversNewline := false
    refusesEmptyRanges := false }

/-- The last place of a text at which a separator is, looking back from a
place. -/
def lastMatch? (e : Engine) (t : Subject) : Nat → Option Match
  | 0 => none
  | i + 1 =>
    match e.matchAt? t i with
    | some m => some m
    | none => lastMatch? e t i

/-- The pieces of a text that a separator cuts, from the end on: the separator
stands after each piece, or before it. The text is looked at up to a place,
and what is left of it ends at another. -/
def matchedPieces (e : Engine) (before : Bool) (t : Subject) :
    Nat → Bool → Nat → Nat → List Octets → List Octets
  | 0, _, _, _, done => done.reverse
  | fuel + 1, isFirst, upTo, last, done =>
    let seen : Subject := { t with octets := t.octets.extract 0 upTo }
    match lastMatch? e seen upTo with
    | none => (t.slice 0 last :: done).reverse
    | some m =>
      let cut := if before then m.start else m.finish
      let piece := t.slice cut last
      let done := if before || !isFirst || cut ≠ last then piece :: done else done
      matchedPieces e before t fuel false m.start cut done

/-- What files are cut with. -/
inductive Separator where
  | octets (o : Octets)
  | matching (e : Engine)

/-- The separator that options ask for. -/
def separatorOf (plain : Bool) (os : List Opt) : Except Octets Separator :=
  let sep := (optValue? os "separator").getD ['\n']
  if !hasOpt os "regex" then
    .ok (.octets (if sep.isEmpty then [Char.ofNat 0] else sep))
  else if sep.isEmpty then .error "separator cannot be empty".toList
  else
    match Regex.read separatorDialect plain sep with
    | .ok r => .ok (.matching (Engine.ofRegex r false true))
    | .error e => .error e.message.toList

/-- The pieces of octets, from the end on. -/
def Separator.pieces (sep : Separator) (plain before : Bool) (o : Octets) :
    List Octets :=
  match sep with
  | octets s => piecesBack s before (o.length + 1) o.reverse [] []
  | matching e =>
    matchedPieces e before (Subject.ofOctets plain o) (o.length + 1) true
      o.length o.length []

/-- The lines of files in reverse. -/
def tac : Program := fun c =>
  c.given [.flag 'b' "before", .flag 'r' "regex", .valued 's' "separator"]
    true 1 fun os paths => do
    let plain := (← get).plain
    match separatorOf plain os with
    | .error m => Work.complain 1 m
    | .ok sep =>
      Work.eachSource paths
        (fun p r => do
          let shown := if p = ['-'] then "standard input".toList else p
          if r = .isADirectory then
            Work.complain 1 (bareName shown ++
              ": read error: Invalid argument".toList)
          else if p = ['-'] then
            Work.complain 1 (named shown ++ ": read error: ".toList ++
              r.reason.toList)
          else
            Work.complain 1 ("failed to open ".toList ++ named p ++
              " for reading: ".toList ++ r.reason.toList))
        (fun _ s => do
          if s.isEndless then Work.hang
          Work.say (sep.pieces plain (hasOpt os "before") s.held).flatten)
      Work.closeInput "-" paths

/-- The characters of every line in reverse, or nothing if there is something
that is no character. One that is not complete at the end is left out. -/
def reversedLines? (ending : Char) (o : Octets) : Option Octets :=
  let (found, _) := o.toBytes.foldl Text.Utf8.push ([], .between)
  if found.any Option.isNone then none
  else
    let text := found.reverse.filterMap id
    let lines := (Octets.linesBy ending text).map fun l =>
      let body := Octets.withoutEnd ending l
      body.reverse ++ if body.length = l.length then [] else [ending]
    some (Octets.ofBytes (Text.Utf8.encode lines.flatten))

/-- The characters of every line in reverse. Something that is no character
is waited for without an end. -/
def rev : Program := fun c =>
  c.given [.flag '0' "zero", .flag 'h' "help", .flag 'V' "version"] true 1
    fun os paths =>
    let ending := if hasOpt os "zero" then Char.ofNat 0 else '\n'
    Work.eachSource paths
      (fun p r =>
        if p = ['-'] || r = .isADirectory then Work.hang
        else Work.complain 1 ("cannot open ".toList ++ p ++ ": ".toList ++
          r.reason.toList))
      (fun _ s =>
        match reversedLines? ending (s.split Work.enough).1 with
        | none => Work.hang
        | some _ => Work.pass (fun o => (reversedLines? ending o).getD []) s)

/-- The characters of octets, each with all of its octets, after others that
are the last first. -/
def charactersAfter : Nat → Octets → List Octets → List Octets
  | 0, _, done => done.reverse
  | _, [], done => done.reverse
  | fuel + 1, c :: cs, done =>
    if c.toNat < 128 then charactersAfter fuel cs ([c] :: done)
    else
      let w := ((encodedAt? (c :: cs)).map (·.1)).getD [c]
      charactersAfter fuel ((c :: cs).drop w.length) (w :: done)

/-- The characters of octets, each with all of its octets. -/
def characters (o : Octets) : List Octets :=
  charactersAfter (o.length + 1) o []

/-! ### Writing more -/

/-- Writes the input to files and passes it on. -/
def tee : Program := fun c =>
  c.given [.flag 'a' "append", .flag 'i' "ignore-interrupts",
           .flag 'p' "", .choice "output-error" .maybe
             [["warn"], ["warn-nopipe"], ["exit"], ["exit-nopipe"]]]
    true 1 fun os paths => do
    match ← Work.takeInput with
    | .error r =>
      paths.forM fun p => do
        let _ ← Work.write p []
      Work.complain 1 ("read error: ".toList ++ r.reason.toList)
      if r = .noWay then
        Work.complain 1 ("standard input: ".toList ++ r.reason.toList)
    | .ok s =>
      Work.pour s
      Work.each (fun p => do
        let before ← if hasOpt os "append" then
            do
              match ← Work.fileAt p with
              | .ok t => pure t.held
              | .error _ => pure []
          else pure []
        match ← Work.write p (before ++ s.held) with
        | .ok () => return ()
        | .error r => Work.refuse p r) paths

/-- The same line over and over again. -/
def yes : Program := fun c =>
  c.given [] true 1 fun _ words =>
    let line := if words.isEmpty then ['y'] else [' '].intercalate words
    Work.pour (.endless (line ++ ['\n']))

end BitProbe.Bench

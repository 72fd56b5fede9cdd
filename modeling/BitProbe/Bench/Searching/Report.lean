import BitProbe.Bench.Searching.Pattern

/-!
What is written of the lines of a text.

Lines are selected because something is found in them, or nothing. Lines
around them are written as well if that is wanted, and a divider stands where
lines have been left out.

* `Colors`: the colours of what is written;
* `Style`: which lines are selected and how they are written;
* `Style.head`: what stands before a line;
* `Report`: what has been written of a text;
* `Report.ofText`: the report of a text;
* `Report.ofLines_none`: no lines are selected where none are allowed.
-/

namespace BitProbe.Bench.Searching

/-- The colours of what is written, each as the numbers that a terminal
knows it by. -/
structure Colors where
  selectedMatch : Octets := "01;31".toList
  contextMatch : Octets := "01;31".toList
  selectedLine : Octets := []
  contextLine : Octets := []
  name : Octets := "35".toList
  lineNumber : Octets := "32".toList
  offset : Octets := "32".toList
  separator : Octets := "36".toList
  /-- Whether lines that are selected because nothing is found in them change
  colours with the others. -/
  isReversed : Bool := false
  /-- Whether a colour ends at the end of the line. -/
  clears : Bool := true

namespace Colors

/-- How a colour starts, unless it is none. -/
def start (c : Colors) (color : Octets) : Octets :=
  if color.isEmpty then []
  else ['\x1b', '['] ++ color ++ 'm' :: if c.clears then ['\x1b', '[', 'K'] else []

/-- How a colour ends, unless it is none. -/
def stop (c : Colors) (color : Octets) : Octets :=
  if color.isEmpty then []
  else ['\x1b', '[', 'm'] ++ if c.clears then ['\x1b', '[', 'K'] else []

/-- Octets in a colour. -/
def paint (c : Colors) (color o : Octets) : Octets :=
  c.start color ++ o ++ c.stop color

end Colors

/-- Which lines are selected and how they are written. -/
structure Style where
  isInverted : Bool := false
  /-- Whether matches are written instead of lines. -/
  isPartial : Bool := false
  /-- How many lines are selected at most. -/
  limit : Option Nat := none
  /-- How many lines are written before and after those that are
  selected. -/
  before : Option Nat := none
  after : Option Nat := none
  divider : Option Octets := some ['-', '-']
  isNamed : Bool := false
  /-- Whether a name ends with a null instead of a sign. -/
  endsNames : Bool := false
  isNumbered : Bool := false
  hasOffsets : Bool := false
  isTabbed : Bool := false
  ending : Char := '\n'
  /-- Whether lines are written whatever they hold. -/
  isText : Bool := false
  /-- Whether texts are just octets. -/
  plain : Bool := false
  colors : Option Colors := none

/-- A line without its end, and where it starts. -/
structure Line where
  text : Octets
  offset : Nat

namespace Style

/-- Octets in a colour, if there are colours. -/
def paint (y : Style) (color : Colors → Octets) (o : Octets) : Octets :=
  match y.colors with
  | some c => c.paint (color c) o
  | none => o

/-- A name as it stands before something. -/
def name (y : Style) (name : Octets) : Octets := y.paint Colors.name name

/-- A sign after a number or a name. -/
def separator (y : Style) (c : Char) : Octets :=
  y.paint Colors.separator [c]

/-- A name and what ends it. -/
def namedAs (y : Style) (name : Octets) (sign : Char) : Octets :=
  y.name name ++
    if y.endsNames then [Char.ofNat 0] else y.separator sign

/-- How wide numbers are for a text, of which the size may be known. -/
def width (y : Style) (size : Option Nat) : Nat :=
  if !y.isTabbed then 0
  else
    (Nat.toDigits 10 (match size with
      | some n => if y.isNumbered then n + 1 else n
      | none => 2 ^ 63 - 1)).length

/-- What stands before a part of a text that is not empty, or that is. -/
def head (y : Style) (title : Octets) (width number offset : Nat)
    (sign : Char) (isEmpty : Bool) : Octets :=
  let numeral (color : Colors → Octets) (n : Nat) : Octets :=
    y.paint color ((Nat.toDigits 10 n).leftpad width ' ') ++ y.separator sign
  (if y.isNamed then y.namedAs title sign else []) ++
    (if y.isNumbered then numeral Colors.lineNumber number else []) ++
    (if y.hasOffsets then numeral Colors.offset offset else []) ++
    if y.isTabbed && (y.isNamed || y.isNumbered || y.hasOffsets) &&
        !isEmpty then ['\t']
    else []

/-- Whether something stands for characters alone. -/
def isReadable (y : Style) (o : Octets) : Bool :=
  y.isText || y.plain || o.all (·.toNat < 0x80) ||
    (Text.Utf8.decode o.toBytes).isSome

end Style

/-- What has been written of a text. -/
structure Report where
  /-- The number of the line after the last one that has been written, if one
  has been. -/
  reached : Option Nat := none
  /-- How many lines are still to be written that are not selected. -/
  owed : Nat := 0
  selected : Nat := 0
  /-- Whether lines of this or another text have been written. -/
  isUsed : Bool := false
  /-- Whether something has been left out that stands for no characters. -/
  hasLeftOut : Bool := false
  /-- What has been written, the last first. -/
  written : List Octets := []
  /-- The number of the line after the last one that was selected. -/
  afterLast : Nat := 0

namespace Report

/-- A text that is searched, with its name. -/
structure Text where
  finder : Finder
  style : Style
  title : Octets
  width : Nat
  lines : Array Line

/-- The part of a line between two places. -/
def cut (l : Line) (a b : Nat) : Octets := (l.text.drop a).take (b - a)

/-- Writes something after what has been written. -/
def say (o : Octets) (r : Report) : Report :=
  { r with written := o :: r.written }

/-- The matches in a line, each as a line, up to one that stands for no
characters. -/
def writeParts (t : Text) (number : Nat) (l : Line) (sign : Char)
    (color : Colors → Octets) (r : Report) : List (Nat × Nat) → Report
  | [] => { r with reached := some (number + 1) }
  | (a, b) :: rest =>
    let o := cut l a b
    if t.style.isReadable o then
      let head := t.style.head t.title t.width (number + 1) (l.offset + a) sign
        false
      writeParts t number l sign color
        (r.say (head ++ t.style.paint color o ++ [t.style.ending])) rest
    else { r with hasLeftOut := true }

/-- A line in colours. -/
def painted (c : Colors) (l : Line) (line match_ : Octets)
    (parts : List (Nat × Nat)) : Octets :=
  let r := parts.foldl (fun (r : Octets × Nat) (a, b) =>
    (r.1 ++ c.start line ++ cut l r.2 a ++ c.paint match_ (cut l a b), b))
    (([], 0) : Octets × Nat)
  let rest := l.text.drop r.2
  let body := if rest.getLast? = some '\x0d' then rest.dropLast else rest
  let tail := rest.drop body.length
  r.1 ++ (if body.isEmpty then [] else c.paint line body) ++ tail

/-- Writes a line, which is selected or not. -/
def writeLine (t : Text) (isSelected : Bool) (number : Nat) (r : Report) :
    Report :=
  match t.lines[number]? with
  | none => r
  | some l =>
    let y := t.style
    let sign := if isSelected then ':' else '-'
    let isFound := isSelected != y.isInverted
    let color (c : Colors) : Octets :=
      if isSelected then c.selectedMatch else c.contextMatch
    let parts : List (Nat × Nat) :=
      if isFound && (y.isPartial || y.colors.any fun c => !(color c).isEmpty) then
        t.finder.parts (Subject.ofOctets y.plain l.text)
      else []
    if y.isPartial then
      writeParts t number l sign color r parts
    else if y.isReadable l.text then
      let head := y.head t.title t.width (number + 1) l.offset sign
        l.text.isEmpty
      let body := match y.colors with
        | none => l.text
        | some c =>
          let isPlain := isSelected != (y.isInverted && c.isReversed)
          painted c l (if isPlain then c.selectedLine else c.contextLine)
            (color c) parts
      { r.say (head ++ body ++ [y.ending]) with
        reached := some (number + 1) }
    else { r with hasLeftOut := true }

/-- Writes so many lines that are not selected, up to a line. -/
def writeOwed (t : Text) (before : Nat) : Nat → Report → Report
  | 0, r => { r with owed := 0 }
  | n + 1, r =>
    let next := r.reached.getD 0
    if next < before then writeOwed t before n (writeLine t false next r)
    else { r with owed := n + 1 }

/-- Writes the lines that stand before one that is selected. -/
def writeBefore (t : Text) (number : Nat) (r : Report) : Report :=
  let y := t.style
  let first := max (r.reached.getD 0) (number - y.before.getD 0)
  let hasContext := y.before.isSome || y.after.isSome
  let r := match y.divider with
    | some d =>
      if hasContext && r.isUsed && r.reached ≠ some first then
        r.say (y.paint Colors.separator d ++ ['\n'])
      else r
    | none => r
  (List.range (number - first)).foldl (fun r k =>
    writeLine t false (first + k) r) r

/-- Writes a line that is selected, with those around it. -/
def select (t : Text) (isQuiet : Bool) (number : Nat) (r : Report) : Report :=
  let r :=
    if isQuiet then r
    else writeLine t true number
      (writeBefore t number (writeOwed t number r.owed r))
  { r with
    owed := if isQuiet then 0 else t.style.after.getD 0
    isUsed := true
    selected := r.selected + 1
    afterLast := number + 1 }

/-- Whether no more lines are selected. -/
def isFull (t : Text) (onlyFirst : Bool) (r : Report) : Bool :=
  t.style.limit.any (· ≤ r.selected) || onlyFirst && 0 < r.selected

/-- The report with every line that is selected from one on. -/
def ofLines (t : Text) (isQuiet onlyFirst : Bool) :
    Nat → List Line → Report → Report
  | _, [], r => r
  | number, l :: ls, r =>
    if r.isFull t onlyFirst then r
    else
      let found := t.finder.finds (Subject.ofOctets t.style.plain l.text)
      let r := if found != t.style.isInverted then
          select t isQuiet number r
        else r
      ofLines t isQuiet onlyFirst (number + 1) ls r

/-- The report of a text, which may say no more than how many lines are
selected, or whether one is. -/
def ofText (t : Text) (isQuiet onlyFirst isUsed : Bool) : Report :=
  let r := ofLines t isQuiet onlyFirst 0 t.lines.toList { isUsed }
  writeOwed t t.lines.size r.owed r

/-- Everything that has been written. -/
def text (r : Report) : Octets := r.written.reverse.flatten

/-- No lines are selected where none are allowed. -/
theorem ofLines_none (t : Text) (h : t.style.limit = some 0)
    (isQuiet onlyFirst : Bool) (number : Nat) (ls : List Line) (r : Report) :
    ofLines t isQuiet onlyFirst number ls r = r := by
  cases ls with
  | nil => rfl
  | cons l ls => simp [ofLines, isFull, h]

end Report

/-- The lines of octets, of which the last one may have no end. -/
def linesOf (ending : Char) (o : Octets) : Array Line :=
  let parts := o.splitOn ending
  let parts := if parts.getLast? = some [] then parts.dropLast else parts
  (parts.foldl (fun (r : Array Line × Nat) l =>
    (r.1.push ⟨l, r.2⟩, r.2 + l.length + 1)) (#[], 0)).1

end BitProbe.Bench.Searching

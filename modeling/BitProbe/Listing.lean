import BitProbe.FileTree
import BitProbe.Instruction.Reading
import BitProbe.Text.Lines
import BitProbe.Text.Utf8

/-!
Listings.

A listing is a file of known instructions, one on each line. Lines are
numbered from one. Blank lines count and are otherwise ignored; a line that
is no instruction is kept with the reason.

* `Listing.Entry`, `Listing.Skipped`, `Listing.Line`: what a line can be;
* `Listing.readLine`: what the bytes of a line are;
* `Listing.ofBytes`, `Listing.ofFile`: the listing in the first lines of a
  file.
-/

namespace BitProbe

/-- A line that is an instruction. -/
structure Listing.Entry where
  line : Nat
  /-- The line without blanks around it. -/
  text : String
  instruction : Instruction
  deriving DecidableEq

/-- A line that is not an instruction. -/
structure Listing.Skipped where
  line : Nat
  /-- The line without blanks around it. -/
  text : String
  error : ReadError
  deriving DecidableEq

/-- What a line can be. -/
inductive Listing.Line where
  | blank
  | entry (e : Listing.Entry)
  | skipped (s : Listing.Skipped)
  deriving DecidableEq

/-- The instructions of a file, and the lines left out. -/
structure Listing where
  entries : List Listing.Entry
  skipped : List Listing.Skipped
  deriving DecidableEq

namespace Listing

/-- The instruction on a line, if it is one. -/
def Line.entry? : Line → Option Entry
  | entry e => some e
  | _ => none

/-- The line that was left out, if it was. -/
def Line.skipped? : Line → Option Skipped
  | skipped s => some s
  | _ => none

/-- What a line of text is. -/
def readText (number : Nat) (cs : List Char) : Line :=
  let body := Text.trim cs
  if body.isEmpty then .blank
  else
    let text := String.ofList body
    match Instruction.ofLine text with
    | .ok instruction => .entry ⟨number, text, instruction⟩
    | .error error => .skipped ⟨number, text, error⟩

/-- What the bytes of a line are. One carriage return at their end belongs to
the ending; bytes that are no text are shown with U+FFFD for what is
ill-formed. -/
def readLine (number : Nat) (bytes : List UInt8) : Line :=
  let bytes := Text.chomp 0x0D bytes
  match Text.Utf8.decode bytes with
  | some cs => readText number cs
  | none =>
    .skipped ⟨number,
      String.ofList (Text.trim (Text.Utf8.decodeLossy bytes)), .invalidUtf8⟩

/-- The lines of a file, the first `maxLines` of them. -/
def linesOfBytes (maxLines : Nat) (bytes : List UInt8) : List Line :=
  (((Text.pieces 0x0A bytes).take maxLines).zipIdx 1).map fun l =>
    readLine l.2 l.1

/-- The listing that lines make. -/
def ofLines (lines : List Line) : Listing where
  entries := lines.filterMap Line.entry?
  skipped := lines.filterMap Line.skipped?

/-- The listing in the first `maxLines` lines of a file. -/
def ofBytes (maxLines : Nat) (bytes : List UInt8) : Listing :=
  ofLines (linesOfBytes maxLines bytes)

/-- The listing in the first `maxLines` lines of the file that a path leads
to. A directory can be opened, and fails as soon as a line is read. -/
def ofFile (maxLines : Nat) (t : FileTree) (path : String) :
    Except Failure Listing :=
  match t.lookup path with
  | .error e => .error (.settings (.noListing path e))
  | .ok node =>
    if maxLines = 0 then .ok ⟨[], []⟩
    else
      match FileTree.contents node with
      | .error e => .error (.file e)
      | .ok bytes => .ok (ofBytes maxLines bytes)

end Listing

end BitProbe

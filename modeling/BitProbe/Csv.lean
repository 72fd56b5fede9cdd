/-!
Comma-separated values.

A record is a line of fields with commas between them. A field that holds a
comma, a quote, a carriage return or a line feed stands between quotes, with
every quote in it doubled. All records of a file have as many fields as the
first one.

* `Csv.field`, `Csv.record`, `Csv.file`: the texts;
* `Csv.write`: the text of a file, unless some record has too many or too few
  fields.
-/

namespace BitProbe.Csv

/-- Whether a character may only stand in a field between quotes. -/
def isSpecial (c : Char) : Bool :=
  c = ',' || c = '\x22' || c = '\x0d' || c = '\n'

/-- A character as it stands between quotes. -/
def doubled (c : Char) : List Char :=
  if c = '\x22' then ['\x22', '\x22'] else [c]

/-- The text of a field. -/
def field (cs : List Char) : List Char :=
  if cs.any isSpecial then '\x22' :: (cs.flatMap doubled ++ ['\x22'])
  else cs

/-- The text of a record of fields. -/
def record (fields : List String) : List Char :=
  [','].intercalate (fields.map fun f => field f.toList) ++ ['\n']

/-- The text of records, one after another. -/
def file (records : List (List String)) : String :=
  String.ofList (records.flatMap record)

/-- Why records cannot be written. -/
inductive Error where
  /-- A record has another number of fields than the first one. -/
  | unequalLengths (given first : Nat)
  deriving DecidableEq, Repr

/-- Why records cannot be written, as text. -/
def Error.message : Error → String
  | unequalLengths given first =>
    "CSV error: found record with " ++ toString given ++
      " fields, but the previous record has " ++ toString first ++ " fields"

/-- The text of records, if they have as many fields as the first of them. -/
def write : List (List String) → Except Error String
  | [] => .ok ""
  | first :: rest =>
    match rest.find? (·.length ≠ first.length) with
    | none => .ok (file (first :: rest))
    | some other => .error (.unequalLengths other.length first.length)

end BitProbe.Csv

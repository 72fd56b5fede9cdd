import BitProbe.Report.Plain
import BitProbe.Report.Records
import BitProbe.Report.Structured
import BitProbe.Report.Table
import BitProbe.Text.Case

/-!
The formats of a report.

* `ReportFormat`: the formats, and the words by which they are chosen;
* `Report.render`: the text of a report in a format.
-/

namespace BitProbe

/-- The formats of a report. -/
inductive ReportFormat where
  | plain
  | json
  | jsonLines
  | csv
  deriving DecidableEq, Repr

namespace ReportFormat

/-- Every format. -/
def all : List ReportFormat :=
  [plain, json, jsonLines, csv]

/-- The word by which a format is chosen. -/
def name : ReportFormat → String
  | plain => "text"
  | json => "json"
  | jsonLines => "jsonl"
  | csv => "csv"

/-- The format that a word chooses. -/
def named? (s : String) : Option ReportFormat :=
  all.find? (·.name = s)

/-- The format that a word in any case chooses; the one with a line for each
record also has a longer name. -/
def described? (s : String) : Option ReportFormat :=
  let t := String.ofList (Text.lower s.toList)
  if t = "jsonlines" then some jsonLines else named? t

/-- Every format is chosen by its name. -/
theorem named?_name (f : ReportFormat) : named? f.name = some f := by
  cases f <;> decide

end ReportFormat

/-- The text of a report in a format. -/
def Report.render (r : Report) : ReportFormat → Except Failure String
  | .plain => .ok r.plain
  | .json => .ok r.json
  | .jsonLines => .ok r.jsonLines
  | .csv => r.csv

end BitProbe

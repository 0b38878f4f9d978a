import Hypermedia.Attribute.Json
import Hypermedia.Attribute.Outline
import Hypermedia.Format
import Hypermedia.Manifest

/-!
Printing reports. In the plain format a bad report shows the fault in its line
the way it is shown for a single value, only further indented, and a last line
counts.
-/

namespace Hypermedia.Manifest

/-- A fault as JSON. -/
def faultJson (e : ParseError) : Json :=
  .object [("message", .text e.message), ("position", e.position.json)]

/-- A report as JSON, with either the value or the fault. -/
def Report.json (report : Report) : Json :=
  .object <|
    [("name", .text report.name), ("value", .text report.value)] ++
      match report.outcome with
      | .ok value => [("parsed", value.kindJson)]
      | .error e => [("error", faultJson e)]

/-- A report as an outline. -/
def Report.outline (report : Report) : Outline :=
  .record "CheckReport" [("name", .quoted report.name), ("value", .quoted report.value),
    ("outcome",
      match report.outcome with
      | .ok value => .holder "Ok" value.kindOutline
      | .error e => .holder "Err" e.outline)]

/-- The attribute that a report is about, the way it stands in a document. -/
def Report.heading (report : Report) : String :=
  report.name ++ "=\"" ++ report.value ++ "\""

/-- A report as plain text. -/
def Report.written (report : Report) : String :=
  match report.outcome with
  | .ok _ => "ok    " ++ report.heading ++ "\n"
  | .error e =>
      "FAIL  " ++ report.heading ++ "\n" ++
        String.join ((Text.lines (e.render report.value)).map fun line =>
          "      " ++ line ++ "\n")

/-- The line below all reports. -/
def summary (reports : List Report) : String :=
  "\n" ++ toString reports.length ++ " checked, "
    ++ toString (reports.countP fun report => !report.isGood) ++ " failed\n"

/-- The reports in some format. -/
def printed (format : Format) (reports : List Report) : String :=
  match format with
  | .json => (Json.array (reports.map Report.json)).pretty ++ "\n"
  | .outline => (Outline.list (reports.map Report.outline)).pretty ++ "\n"
  | .pretty => String.join (reports.map Report.written) ++ summary reports

end Hypermedia.Manifest

/-!
# Reports

A report is a list of lines, each of which says what it is and not how it looks.  `stdout` and
`stderr` give the look on a terminal: errors and warnings go to the second stream, all else to the
first.
-/

namespace ClassBridge

/-- A line of a report. -/
inductive ReportLine where
  | title (text : String)
  | section (name : String)
  | keyValue (key value : String)
  | numberedItem (index : Nat) (text : String)
  | listItem (text : String)
  /-- A file that was written. -/
  | addedItem (text : String)
  | error (message : String)
  | warning (message : String)
  /-- The start of a file in a preview. -/
  | divider (label : String)
  | preformatted (text : String)
  | newline
  deriving DecidableEq, Repr

/-- The lines of a report. -/
abbrev Report : Type := List ReportLine

namespace ReportLine

/-- What a line prints on the first stream. -/
def stdout : ReportLine → String
  | .title text =>
    text ++ "\n" ++ String.ofList (List.replicate text.utf8ByteSize '=') ++ "\n"
  | .section name => name ++ ":\n"
  | .keyValue key value => key ++ ": " ++ value ++ "\n"
  | .numberedItem index text => "  " ++ toString index ++ ". " ++ text ++ "\n"
  | .listItem text => "  - " ++ text ++ "\n"
  | .addedItem text => "  + " ++ text ++ "\n"
  | .error _ => ""
  | .warning _ => ""
  | .divider label => "── " ++ label ++ " ──\n"
  | .preformatted text => text ++ "\n"
  | .newline => "\n"

/-- What a line prints on the second stream. -/
def stderr : ReportLine → String
  | .error message => "error: " ++ message ++ "\n"
  | .warning message => "warning: " ++ message ++ "\n"
  | _ => ""

end ReportLine

namespace Report

/-- What a report prints on the first stream. -/
def stdout (report : Report) : String := String.join (report.map ReportLine.stdout)

/-- What a report prints on the second stream. -/
def stderr (report : Report) : String := String.join (report.map ReportLine.stderr)

end Report

end ClassBridge

import EventSheet.Json.Printer
import EventSheet.Report.Basic
import EventSheet.Text.Lines

/-!
# Reports as JSON

One line of JSON for each diagnostic, for editors: the code, the message, the place in the text and,
where there is one, the remedy. The keys of every object are in alphabetical order.
-/

namespace EventSheet

/-- The first line of a message, which stands under the text. -/
def firstLine (message : String) : String :=
  let line := message.toList.takeWhile (· != '\n')
  if line.length = message.toList.length then message
  else String.ofList (if line.getLast? = some '\r' then line.dropLast else line)

/-- A labelled span. -/
def labelJson (label : String) (s : Span) : Json :=
  .object [.mk "end" (.nat s.stop), .mk "label" (.string label), .mk "start" (.nat s.start)]

namespace Diagnostic

/-- The places a diagnostic points at: its own and that of its note. -/
def labels (d : Diagnostic) : List Json :=
  labelJson (firstLine d.message) d.span ::
    (d.problem.note?.map fun note => labelJson note.1 note.2).toList

/-- A diagnostic of a text with the given lines, which comes from the given file. -/
def toJson (d : Diagnostic) (lines : LineIndex) (file : String) : Json :=
  let position := lines.position d.span.start
  .object [.mk "code" (.string d.code.name), .mk "column" (.nat position.column),
    .mk "file" (.string file), .mk "fix" (.ofOption d.code.fix?),
    .mk "line" (.nat position.line), .mk "message" (.string d.message),
    .mk "severity" (.string d.severity.name), .mk "spans" (.array d.labels)]

end Diagnostic

/-- The diagnostics of a text, one line each, in order. -/
def jsonLines (diagnostics : List Diagnostic) (source file : String) : List String :=
  let lines := LineIndex.ofText source
  diagnostics.map fun d => (d.toJson lines file).compact

/-- The summary of a report. -/
def Report.summary (r : Report) : Json :=
  .object [.mk "errors" (.nat r.errorCount), .mk "type" (.string r.type.name),
    .mk "warnings" (.nat r.warningCount)]

end EventSheet

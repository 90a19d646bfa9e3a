import EventSheet.Diagnostic.Problem

/-!
# Diagnostics

A `Diagnostic` is a problem and the place it is found at. Diagnostics are data and never stop
anything: every stage adds its own and goes on, so that an editor can underline all problems of an
expression at once.
-/

namespace EventSheet

/-- A problem of an expression together with the place it is found at. -/
structure Diagnostic where
  problem : Problem
  span : Span
  deriving DecidableEq

namespace Diagnostic

/-- The identifier of a diagnostic. -/
def code (d : Diagnostic) : Code := d.problem.code

/-- Whether a diagnostic blocks the expression or is only reported. -/
def severity (d : Diagnostic) : Severity := d.problem.severity

/-- The wording of a diagnostic. -/
def message (d : Diagnostic) : String := d.problem.message

/-- Whether a diagnostic blocks the expression. -/
def isError (d : Diagnostic) : Bool := d.severity == .error

/-- A diagnostic on one line: severity, code, place and message. -/
def display (d : Diagnostic) : String :=
  s!"{d.severity.name}[{d.code.name}] {d.span.start}..{d.span.stop}: {d.message}"

end Diagnostic

end EventSheet

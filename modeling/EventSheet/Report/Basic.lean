import EventSheet.Expr.Parser
import EventSheet.Typing.Checker

/-!
# Reports

The whole way from a text to what an editor shows: `checkText` reads an expression and checks its
tree where a type is required. A report always has a tree, a type and every problem found, however
malformed the text; the problems of its form come before those of its meaning.
-/

namespace EventSheet

/-- The outcome of checking a text. -/
structure Report where
  root : Expr
  /-- The type the whole expression resolves to. -/
  type : SemanticType
  diagnostics : List Diagnostic

/-- Reads and checks a text where a value of type `expected` is required. -/
def checkText (ctx : Context) (expected : SemanticType) (source : String) : Report :=
  let p := parse source
  let v := p.root.check ctx expected
  ⟨p.root, v.type, p.diagnostics ++ v.diagnostics⟩

namespace Report

/-- The number of diagnostics that block the expression. -/
def errorCount (r : Report) : Nat := r.diagnostics.countP (·.isError)

/-- The number of diagnostics that only warn. -/
def warningCount (r : Report) : Nat := r.diagnostics.countP (!·.isError)

/-- Whether anything blocks the expression. -/
def hasErrors (r : Report) : Bool := r.diagnostics.any (·.isError)

end Report

end EventSheet

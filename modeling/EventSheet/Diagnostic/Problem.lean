import EventSheet.Diagnostic.Code
import EventSheet.Expr.Basic
import EventSheet.Token.Basic
import EventSheet.Typing.SemanticType

/-!
# Problems of expressions

Everything that can be wrong with an expression, as causes. A `Problem` holds what its wording
needs; `Problem.code` sorts it under a stable identifier, `Problem.severity` says whether it blocks,
`Problem.message` words it for the user and `Problem.note?` points at a second place where there is
one: the bracket that was left open. A problem told about a parameter has a code and a wording of
its own and keeps the severity and the note of its cause.
-/

namespace EventSheet

/-- What is wrong with an expression. -/
inductive Problem
  /-- The text ends where a value is needed. -/
  | incomplete
  /-- A parenthesis closes where a value is needed. -/
  | valueBeforeClosing
  /-- A comma or a bracket stands where a value is needed. -/
  | valueExpected (found : TokenKind)
  /-- A token stands where no value can begin with it. -/
  | unexpectedToken (found : TokenKind)
  | behaviorFunctionExpected
  | callParenthesisExpected
  | childNameExpected
  | unterminatedString
  | unmatchedParenthesis (opening : Span)
  | unterminatedParameters (opening : Span)
  | unterminatedIndex (opening : Span)
  | redundantParentheses
  | nestingTooDeep
  | unexpectedClosingParenthesis
  | extraCharacters
  /-- A literal of one type where another type is required. -/
  | misplacedLiteral (found expected : SemanticType)
  | misplacedIdentifier (name : String) (expected : SemanticType)
  | misplacedVariable (expected : SemanticType)
  | emptyExpression (expected : SemanticType)
  | misplacedOperator (expected : SemanticType)
  /-- A sign before a text. -/
  | signedText
  /-- A sign gives a number where another type is required. -/
  | misplacedNumber (expected : SemanticType)
  | operatorOnTexts (operator : Operator)
  | unknownFunction (name : String)
  | unsupportedCapability (capability : String)
  | returnTypeMismatch (returned expected : SemanticType)
  | tooFewParameters (least most : Nat)
  | tooManyParameters (least most : Nat)
  | unknownParameterKind (position : Nat) (kind : String)
  /-- A type error of an argument, told about the parameter it is written for. -/
  | inParameter (position : Nat) (kind : String) (cause : Problem)
  /-- An argument that resolves to a type its parameter does not take. -/
  | parameterMismatch (position : Nat) (kind : String) (expected found : SemanticType)
  | malformedObject
  | malformedVariable
  | malformedBehavior
  | variableWithoutObject
  | behaviorWithoutObject
  | undeclaredVariable (name object : String)
  | unknownBehavior (object name : String)
  deriving DecidableEq

namespace Problem

/-- The identifier under which a problem is reported. -/
def code : Problem → Code
  | incomplete | valueBeforeClosing => .missingOperand
  | valueExpected _ | unexpectedToken _ | behaviorFunctionExpected | callParenthesisExpected
  | childNameExpected => .syntaxError
  | unterminatedString => .unterminatedString
  | unmatchedParenthesis _ => .unmatchedParenthesis
  | unterminatedParameters _ => .unterminatedParameters
  | unterminatedIndex _ => .unterminatedIndex
  | redundantParentheses => .redundantParentheses
  | nestingTooDeep => .nestingTooDeep
  | unexpectedClosingParenthesis => .unexpectedClosingParenthesis
  | extraCharacters => .extraCharacters
  | misplacedLiteral _ _ | misplacedVariable _ | misplacedNumber _ | returnTypeMismatch _ _ =>
    .typeError
  | misplacedIdentifier _ _ => .unexpectedIdentifier
  | emptyExpression _ => .emptyExpression
  | misplacedOperator _ | signedText | operatorOnTexts _ => .invalidOperator
  | unknownFunction _ => .invalidFunctionName
  | unsupportedCapability _ => .unsupportedObjectCapability
  | tooFewParameters _ _ => .tooFewParameters
  | tooManyParameters _ _ => .tooManyParameters
  | unknownParameterKind _ _ => .unknownParameterType
  | inParameter _ _ _ | parameterMismatch _ _ _ _ => .parameterTypeMismatch
  | malformedObject => .malformedObjectParameter
  | malformedVariable => .malformedVariableParameter
  | malformedBehavior => .malformedBehaviorParameter
  | variableWithoutObject | behaviorWithoutObject => .missingObjectContext
  | undeclaredVariable _ _ => .undeclaredObjectVariable
  | unknownBehavior _ _ => .invalidBehaviorName

/-- Whether a problem blocks the expression or is only reported. -/
def severity : Problem → Severity
  | redundantParentheses | undeclaredVariable _ _ => .warning
  | inParameter _ _ cause => cause.severity
  | _ => .error

/-- The description of a token with its first letter in upper case. A description begins with a
letter of ASCII or with a quote. -/
def capitalized (text : String) : String :=
  match text.toList with
  | [] => ""
  | c :: cs => String.ofList (c.toUpper :: cs)

/-- How many parameters a function takes, in words. -/
def countSentence (least most : Nat) : String :=
  if least = most then s!"The number of parameters must be exactly {least}"
  else s!"The number of parameters must be: {least}-{most}"

/-- What is said of a literal. -/
def literalMessage : SemanticType → SemanticType → String
  | .number, .string => "You entered a number, but a text was expected (in quotes)."
  | .string, .number => "You entered a text, but a number was expected."
  | .number, expected =>
    s!"You entered a number, but this type was expected: {expected.name}."
  | _, expected => s!"You entered a text, but this type was expected: {expected.name}."

/-- What is said of a bare name. -/
def identifierMessage (name : String) : SemanticType → String
  | .number =>
    s!"You must enter a number or a valid expression call. `{name}` is neither a number nor a " ++
      "function."
  | .string => s!"You must wrap your text inside double quotes (example: \"{name}\")."
  | expected => s!"`{name}` cannot be used here ({expected.name} expected)."

/-- What is said where nothing was written. -/
def emptyMessage : SemanticType → String
  | .object => "You must enter the name of an object here."
  | .var => "You must enter the name of a variable here."
  | _ => "You must enter a number, a text or an expression here."

/-- What is said of a call that returns another type than the one required. -/
def returnMessage : SemanticType → SemanticType → String
  | .number, .string =>
    "You tried to use an expression that returns a number, but a string is expected. Use " ++
      "`ToString` if you need to convert a number to a string."
  | .number, expected =>
    "You tried to use an expression that returns a number, but another type is expected: " ++
      expected.name
  | .string, .number =>
    "You tried to use an expression that returns a string, but a number is expected. Use " ++
      "`ToNumber` if you need to convert a string to a number."
  | .string, expected =>
    "You tried to use an expression that returns a string, but another type is expected: " ++
      expected.name
  | returned, expected =>
    s!"You tried to use an expression with the wrong return type: {returned.name} (but " ++
      s!"{expected.name} is expected)"

/-- How a problem is worded for the user. -/
def message : Problem → String
  | incomplete => "You must enter a value here. The expression is not complete."
  | valueBeforeClosing => "You must enter a value before this closing parenthesis."
  | valueExpected found => s!"A value was expected here, but found {found.description}."
  | unexpectedToken found =>
    capitalized found.description ++
      " is not expected here. Enter a number, a text, a variable or a function call."
  | behaviorFunctionExpected => "The name of a behavior function is expected after `::`."
  | callParenthesisExpected =>
    "An opening parenthesis was expected here to call the behavior function."
  | childNameExpected => "A name is expected after `.` to access a child variable."
  | unterminatedString =>
    "A text must be ended by a double quote (\"). Add a double quote to terminate the text."
  | unmatchedParenthesis _ =>
    "Missing a closing parenthesis. Add a closing parenthesis for each opening parenthesis."
  | unterminatedParameters _ =>
    "The list of parameters is not terminated. Add a closing parenthesis to end the parameters."
  | unterminatedIndex _ => "Missing a closing bracket. Add `]` to end the variable index."
  | redundantParentheses =>
    "These parentheses are not needed. Remove them to simplify the expression."
  | nestingTooDeep =>
    s!"This expression is nested too deeply (more than {nestingLimit} levels). Split it into " ++
      "simpler expressions."
  | unexpectedClosingParenthesis =>
    "This closing parenthesis has no matching opening parenthesis. Remove it or add a `(` before."
  | extraCharacters =>
    "The expression has extra characters at the end that should be removed (or completed if " ++
      "your expression is not finished)."
  | misplacedLiteral found expected => literalMessage found expected
  | misplacedIdentifier name expected => identifierMessage name expected
  | misplacedVariable expected =>
    s!"A variable cannot be used directly here ({expected.name} expected). Use an expression " ++
      "like `Variable` or `VariableString` to read its value."
  | emptyExpression expected => emptyMessage expected
  | misplacedOperator expected => s!"Operators can't be used here ({expected.name} expected)."
  | signedText =>
    "You've used an operator that is not supported with texts. Only `+` can be used to " ++
      "concatenate texts."
  | misplacedNumber expected =>
    s!"This operation gives a number, but this type was expected: {expected.name}."
  | operatorOnTexts operator =>
    s!"`{operator.symbol}` can't be used with texts. Only `+` can be used to concatenate texts."
  | unknownFunction name =>
    s!"Cannot find an expression with this name: {name}\n" ++
      "Double check that you've not made any typo in the name."
  | unsupportedCapability capability =>
    "This expression exists, but it can't be used on this object (objects of this type don't " ++
      s!"support `{capability}`)."
  | returnTypeMismatch returned expected => returnMessage returned expected
  | tooFewParameters least most =>
    "You have not entered enough parameters for the expression. " ++ countSentence least most
  | tooManyParameters least most =>
    "This parameter was not expected by this expression. Remove it or verify that you've " ++
      "entered the proper expression name. " ++ countSentence least most
  | unknownParameterKind position kind =>
    s!"This function is improperly set up (parameter {position} has the unknown type " ++
      s!"`{kind}`). Reach out to the extension developer to fix this issue."
  | inParameter position kind cause =>
    s!"Parameter {position} should be of type `{kind}`. " ++ cause.message
  | parameterMismatch position kind expected found =>
    s!"Parameter {position} should be of type `{kind}` ({expected.name}), but {found.name} was " ++
      "given."
  | malformedObject =>
    "An object name was expected but something else was written. Enter just the name of the " ++
      "object for this parameter."
  | malformedVariable =>
    "A variable name was expected but something else was written. Enter just the name of the " ++
      "variable for this parameter."
  | malformedBehavior =>
    "A behavior name was expected but something else was written. Enter just the name of the " ++
      "behavior for this parameter."
  | variableWithoutObject =>
    "This object variable is not preceded by an object, so it can't be found. The object must " ++
      "be written before the variable."
  | behaviorWithoutObject =>
    "This behavior is not preceded by an object, so it can't be found. The object must be " ++
      "written before the behavior."
  | undeclaredVariable name object => s!"`{name}` is not declared as a variable of {object}."
  | unknownBehavior object name => s!"{object} has no behavior called `{name}`."

/-- A second place that belongs to the problem, and what is said of it. -/
def note? : Problem → Option (String × Span)
  | unmatchedParenthesis opening => some ("parenthesis opened here", opening)
  | unterminatedParameters opening => some ("parameters start here", opening)
  | unterminatedIndex opening => some ("bracket opened here", opening)
  | inParameter _ _ cause => cause.note?
  | _ => none

/-- Apart from what is told about a parameter, the code decides on the severity. -/
theorem severity_eq_warning_iff {problem : Problem} (h : problem.code ≠ .parameterTypeMismatch) :
    problem.severity = .warning ↔
      problem.code = .redundantParentheses ∨ problem.code = .undeclaredObjectVariable := by
  cases problem <;> simp_all [severity, code]

theorem severity_of_typeError {problem : Problem} (h : problem.code = .typeError) :
    problem.severity = .error := by
  cases problem <;> first | rfl | exact nomatch h

theorem note?_of_typeError {problem : Problem} (h : problem.code = .typeError) :
    problem.note? = none := by
  cases problem <;> first | rfl | exact nomatch h

end Problem

end EventSheet

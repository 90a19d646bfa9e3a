/-!
# Codes of diagnostics

The stable identifiers of everything that can be said about an expression. An editor decides by the
code and its severity; the wording belongs to the problem itself.
-/

namespace EventSheet

/-- Whether a diagnostic blocks an expression or is only reported. -/
inductive Severity
  | error
  | warning
  deriving DecidableEq

/-- How a severity is written. -/
def Severity.name : Severity → String
  | error => "error"
  | warning => "warning"

/-- The identifier of a diagnostic. -/
inductive Code
  | syntaxError
  | missingOperand
  | unterminatedString
  | unmatchedParenthesis
  | unexpectedClosingParenthesis
  | unterminatedParameters
  | unterminatedIndex
  | extraCharacters
  | redundantParentheses
  | nestingTooDeep
  | typeError
  | invalidFunctionName
  | tooFewParameters
  | tooManyParameters
  | parameterTypeMismatch
  | malformedObjectParameter
  | malformedBehaviorParameter
  | malformedVariableParameter
  | unexpectedIdentifier
  | invalidOperator
  | emptyExpression
  | unsupportedObjectCapability
  | missingObjectContext
  | invalidBehaviorName
  | undeclaredObjectVariable
  | unknownParameterType
  deriving DecidableEq

namespace Code

/-- How a code is written. -/
def name : Code → String
  | syntaxError => "syntax_error"
  | missingOperand => "missing_operand"
  | unterminatedString => "unterminated_string"
  | unmatchedParenthesis => "unmatched_parenthesis"
  | unexpectedClosingParenthesis => "unexpected_closing_parenthesis"
  | unterminatedParameters => "unterminated_parameters"
  | unterminatedIndex => "unterminated_index"
  | extraCharacters => "extra_characters"
  | redundantParentheses => "redundant_parentheses"
  | nestingTooDeep => "nesting_too_deep"
  | typeError => "type_error"
  | invalidFunctionName => "invalid_function_name"
  | tooFewParameters => "too_few_parameters"
  | tooManyParameters => "too_many_parameters"
  | parameterTypeMismatch => "parameter_type_mismatch"
  | malformedObjectParameter => "malformed_object_parameter"
  | malformedBehaviorParameter => "malformed_behavior_parameter"
  | malformedVariableParameter => "malformed_variable_parameter"
  | unexpectedIdentifier => "unexpected_identifier"
  | invalidOperator => "invalid_operator"
  | emptyExpression => "empty_expression"
  | unsupportedObjectCapability => "unsupported_object_capability"
  | missingObjectContext => "missing_object_context"
  | invalidBehaviorName => "invalid_behavior_name"
  | undeclaredObjectVariable => "undeclared_object_variable"
  | unknownParameterType => "unknown_parameter_type"

/-- Whether the code belongs to the form of an expression rather than to its meaning. -/
def isForm : Code → Bool
  | syntaxError | missingOperand | unterminatedString | unmatchedParenthesis
  | unexpectedClosingParenthesis | unterminatedParameters | unterminatedIndex | extraCharacters
  | redundantParentheses | nestingTooDeep => true
  | _ => false

/-- What to do about a diagnostic, for the codes whose remedy is obvious. -/
def fix? : Code → Option String
  | unterminatedString => some "add a `\"` at the end of the text"
  | unmatchedParenthesis => some "add a `)` to close the group"
  | unexpectedClosingParenthesis => some "remove this `)`"
  | unterminatedParameters => some "add a `)` after the last parameter"
  | unterminatedIndex => some "add a `]` after the index"
  | redundantParentheses => some "remove the extra pair of parentheses"
  | malformedObjectParameter => some "write only the name of an object"
  | malformedBehaviorParameter => some "write only the name of a behavior"
  | malformedVariableParameter => some "write only the name of a variable"
  | missingObjectContext => some "write the object before this parameter"
  | unknownParameterType => some "the extension declaring this expression is misconfigured"
  | _ => none

end Code

end EventSheet

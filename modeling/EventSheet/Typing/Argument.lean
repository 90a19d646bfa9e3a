import EventSheet.Typing.Call

/-!
# Checking arguments

An argument is checked by the family of the parameter it is written for. Numbers and texts are
checked as expressions, and a type error of the argument itself is told about the parameter. Names
of objects, variables and behaviors are bare names; a variable or a behavior belongs to the object
named last before it, or to the object the call is made on.
-/

namespace EventSheet

/-- What checking an expression gives: the type it resolves to and what was found. -/
structure Verdict where
  type : SemanticType
  diagnostics : List Diagnostic

/-- An argument, the check of it as an expression, and the parameter it is written for. -/
structure Argument where
  expr : Expr
  /-- The check of the argument where the given type is required. -/
  check : SemanticType → Verdict
  parameter : Parameter
  /-- The number of the argument, counted from one. -/
  position : Nat

namespace Argument

/-- A problem of the argument as a whole. -/
def problem (a : Argument) (p : Problem) : Diagnostic := ⟨p, a.expr.span⟩

/-- What the argument holds besides, when it cannot be what its parameter takes. -/
def nested (a : Argument) : List Diagnostic := (a.check .unknown).diagnostics

/-- Tells the first type error that covers all of the argument about its parameter; none when there
is no such error. Errors further inside stay as they are. -/
def attribute? (a : Argument) : List Diagnostic → Option (List Diagnostic)
  | [] => none
  | d :: ds =>
    if d.code = .typeError ∧ d.span = a.expr.span then
      some (⟨.inParameter a.position a.parameter.kind d.problem, d.span⟩ :: ds)
    else (attribute? a ds).map (d :: ·)

/-- Reports an argument that passed without a word and still has a type its parameter does not
take. -/
def settle (a : Argument) (family : ParameterFamily) (v : Verdict) : List Diagnostic :=
  if v.diagnostics.isEmpty && !v.type.fits family.expectedType then
    [a.problem (.parameterMismatch a.position a.parameter.kind family.expectedType v.type)]
  else v.diagnostics

/-- An argument that is a number or a text. -/
def value (a : Argument) (family : ParameterFamily) : List Diagnostic :=
  let v := a.check family.expectedType
  match a.attribute? v.diagnostics with
  | some ds => ds
  | none => a.settle family v

/-- An argument that names an object. -/
def object (a : Argument) : Verdict :=
  match a.expr.identifier? with
  | some _ => a.check .object
  | none => ⟨.object, a.problem .malformedObject :: a.nested⟩

/-- The name of the variable that an argument begins with. -/
def variableName? (a : Argument) : Option String :=
  match a.expr with
  | .identifier name _ => some name
  | .access name _ _ => some name.text
  | _ => none

/-- What is wrong with a variable of the object `context`, as far as the scope knows. -/
def variableProblem? (a : Argument) (scope : Scope) (context : Option String) (name : String) :
    Option Diagnostic :=
  if a.parameter.kind = objectVariableKind then
    match context with
    | none => some (a.problem .variableWithoutObject)
    | some object =>
      match scope.objectVariables object with
      | some declared =>
        if declared.contains name then none
        else some (a.problem (.undeclaredVariable name object))
      | none => none
  else none

/-- An argument that names a variable. -/
def variableRef (a : Argument) (scope : Scope) (context : Option String) : Verdict :=
  match a.variableName? with
  | some name =>
    let v := a.check .var
    ⟨v.type, (a.variableProblem? scope context name).toList ++ v.diagnostics⟩
  | none => ⟨.var, a.problem .malformedVariable :: a.nested⟩

/-- An argument that names a behavior. -/
def behavior (a : Argument) (scope : Scope) (context : Option String) : List Diagnostic :=
  match a.expr.identifier? with
  | none => a.problem .malformedBehavior :: a.nested
  | some name =>
    match context with
    | none => [a.problem .behaviorWithoutObject]
    | some object =>
      match scope.behaviorType object name with
      | none => [a.problem (.unknownBehavior object name)]
      | some _ => []

/-- What is found in an argument, when `context` is the object that variables and behaviors written
here belong to. -/
def diagnostics (a : Argument) (scope : Scope) (context : Option String) : List Diagnostic :=
  match ParameterFamily.ofKind? a.parameter.kind with
  | none => a.problem (.unknownParameterKind a.position a.parameter.kind) :: a.nested
  | some .number => a.value .number
  | some .string => a.value .string
  | some .object => a.settle .object a.object
  | some .var => a.settle .var (a.variableRef scope context)
  | some .behavior => a.behavior scope context

/-- The object that variables and behaviors written after the argument belong to. -/
def contextAfter (a : Argument) (context : Option String) : Option String :=
  match ParameterFamily.ofKind? a.parameter.kind, a.expr.identifier? with
  | some .object, some name => some name
  | _, _ => context

end Argument

end EventSheet

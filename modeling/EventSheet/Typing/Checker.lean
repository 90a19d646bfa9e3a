import EventSheet.Typing.Argument

/-!
# Checking expressions

The type that the surroundings require goes down the tree, the type an expression resolves to comes
back, and what is wrong is collected in the order of the walk. Nothing stops the walk: an expression
that cannot be resolved is `unknown`, and `unknown` causes no second error. Where a number or a text
may stand, the left operand of an operator decides which of them the operation is about.
-/

namespace EventSheet

/-- A number or a text as it is written. -/
def checkLiteral (found expected : SemanticType) (s : Span) : Verdict :=
  ⟨found, if found.fits expected then [] else [⟨.misplacedLiteral found expected, s⟩]⟩

/-- A bare name, which stands for an object or a variable where one is required. -/
def checkIdentifier (name : String) (expected : SemanticType) (s : Span) : Verdict :=
  match expected with
  | .object => ⟨.object, []⟩
  | .var => ⟨.var, []⟩
  | .unknown => ⟨.unknown, []⟩
  | _ => ⟨.unknown, [⟨.misplacedIdentifier name expected, s⟩]⟩

/-- A variable with accessors, after what was found in its indices. -/
def checkAccess (inside : List Diagnostic) (expected : SemanticType) (s : Span) : Verdict :=
  match expected with
  | .var => ⟨.var, inside⟩
  | .unknown => ⟨.unknown, inside⟩
  | _ => ⟨.unknown, inside ++ [⟨.misplacedVariable expected, s⟩]⟩

/-- Nothing, where something may be required. -/
def checkEmpty (expected : SemanticType) (s : Span) : Verdict :=
  match expected with
  | .number | .string | .numberOrString | .object | .var =>
    ⟨.empty, [⟨.emptyExpression expected, s⟩]⟩
  | _ => ⟨.empty, []⟩

/-- Whether no operator may stand where the type is required. -/
def SemanticType.refusesOperators : SemanticType → Bool
  | object | var | empty => true
  | _ => false

/-- What is wrong with a sign where the type is required. -/
def signProblem? (expected : SemanticType) : Option Problem :=
  if expected = .string then some .signedText
  else if SemanticType.number.fits expected then none
  else some (.misplacedNumber expected)

/-- The type of an operation whose left operand has the type `left`. -/
def operationType (left expected : SemanticType) : SemanticType :=
  match expected with
  | .numberOrString | .unknown => if left.isValue then left else expected
  | _ => expected

/-- What is wrong with an operator between operands of a type. -/
def operatorProblem? (operator : Operator) (operation : SemanticType) : Option Problem :=
  if operation = .string ∧ operator ≠ .add then some (.operatorOnTexts operator) else none

/-- The type that the right operand is required to have. -/
def rightExpected (operation expected : SemanticType) : SemanticType :=
  if expected = .numberOrString then operation else expected

mutual

/-- Checks an expression where a value of type `expected` is required. -/
def Expr.check (ctx : Context) (expected : SemanticType) : Expr → Verdict
  | .number _ s => checkLiteral .number expected s
  | .string _ s => checkLiteral .string expected s
  | .identifier name s => checkIdentifier name expected s
  | .access _ accessors s => checkAccess (checkIndices ctx accessors) expected s
  | .unary _ operand s =>
    if expected.refusesOperators then
      ⟨.unknown, ⟨.misplacedOperator expected, s⟩ :: (operand.check ctx .unknown).diagnostics⟩
    else
      ⟨.number, ((signProblem? expected).map (⟨·, s⟩)).toList ++
        (operand.check ctx .number).diagnostics⟩
  | .binary operator left right s =>
    if expected.refusesOperators then
      ⟨.unknown, ⟨.misplacedOperator expected, s⟩ ::
        ((left.check ctx .unknown).diagnostics ++ (right.check ctx .unknown).diagnostics)⟩
    else
      let l := left.check ctx expected
      let operation := operationType l.type expected
      ⟨operation, l.diagnostics ++
        (((operatorProblem? operator operation).map (⟨·, s⟩)).toList ++
          (right.check ctx (rightExpected operation expected)).diagnostics)⟩
  | .call callee arguments s =>
    let r := ctx.resolve expected callee arguments s
    match r.outcome with
    | .error d => ⟨r.type, d :: checkLoosely ctx arguments⟩
    | .ok signature =>
      ⟨r.type, checkArguments ctx (callee.object?.map (·.text)) 1 arguments
        (signature.written callee.impliedParameters)⟩
  | .empty s => checkEmpty expected s
  | .error _ _ _ => ⟨.unknown, []⟩

/-- What is found in the indices of a chain of accessors. -/
def checkIndices (ctx : Context) : List Accessor → List Diagnostic
  | [] => []
  | .child _ _ :: rest => checkIndices ctx rest
  | .index index _ :: rest =>
    (index.check ctx .numberOrString).diagnostics ++ checkIndices ctx rest

/-- What is found in the arguments of a call that failed its own checks. -/
def checkLoosely (ctx : Context) : List Expr → List Diagnostic
  | [] => []
  | argument :: rest => (argument.check ctx .unknown).diagnostics ++ checkLoosely ctx rest

/-- What is found in the arguments of a call, paired with the parameters they are written for.
`context` is the object that the next variable or behavior belongs to. -/
def checkArguments (ctx : Context) (context : Option String) (position : Nat) :
    List Expr → List Parameter → List Diagnostic
  | argument :: rest, parameter :: parameters =>
    let a : Argument :=
      ⟨argument, fun expected => argument.check ctx expected, parameter, position⟩
    a.diagnostics ctx.scope context ++
      checkArguments ctx (a.contextAfter context) (position + 1) rest parameters
  | _, _ => []

end

end EventSheet

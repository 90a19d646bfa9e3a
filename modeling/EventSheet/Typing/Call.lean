import EventSheet.Catalog.Provider
import EventSheet.Diagnostic.Basic
import EventSheet.Scope

/-!
# Resolving calls

What a call means before its arguments are looked at: which function it names, whether the object
has what the function requires, whether the returned value can stand where the call is written and
whether the number of arguments is right. The first of these that fails is the only one reported;
the call still resolves to what its function returns, when there is a function.
-/

namespace EventSheet

/-- What expressions are checked against. -/
structure Context where
  provider : Provider
  scope : Scope

/-- The function a call names and the type of the object it is called on. -/
structure Lookup where
  signature : Option Signature
  objectType : String

/-- A call after its own checks: the type it resolves to, and its function or what stopped it. -/
structure Resolution where
  type : SemanticType
  outcome : Except Diagnostic Signature

namespace Context

/-- The function that a callee names. A name that is not declared has the type of the base
object. -/
def lookup (ctx : Context) : Callee → Lookup
  | .free function => ⟨ctx.provider.freeFunction function.text, baseObjectType⟩
  | .onObject object function =>
    let type := (ctx.scope.objectType object.text).getD baseObjectType
    ⟨ctx.provider.objectFunction type function.text, type⟩
  | .onBehavior object behavior function =>
    let type := (ctx.scope.behaviorType object.text behavior.text).getD ""
    ⟨ctx.provider.behaviorFunction type function.text,
      (ctx.scope.objectType object.text).getD baseObjectType⟩

/-- The capability that a function requires and the object it is called on lacks. -/
def capabilityProblem? (ctx : Context) (callee : Callee) (type : String) (s : Signature) :
    Option Diagnostic :=
  match callee.object?, s.requiredCapability with
  | some object, some capability =>
    if ctx.provider.lacks type capability then
      some ⟨.unsupportedCapability capability, object.span⟩
    else none
  | _, _ => none

end Context

/-- Whether a returned value can stand where a call is written. Unlike other values, a returned one
of no settled type stands only where its very type is required. -/
def SemanticType.returnsFor (returned expected : SemanticType) : Bool :=
  match returned, expected with
  | _, .unknown => true
  | .number, .numberOrString => true
  | .string, .numberOrString => true
  | returned, expected => returned == expected

/-- The span of a list of arguments, from the first to the last. -/
def argumentsSpan : Expr → List Expr → Span
  | argument, rest => rest.foldl (fun s e => s.merge e.span) argument.span

/-- A number of arguments that the function does not take. Surplus arguments are reported where they
are written. -/
def countProblem? (callee : Callee) (s : Signature) (arguments : List Expr) (span : Span) :
    Option Diagnostic :=
  let range := s.countRange callee.impliedParameters
  if arguments.length < range.1 then some ⟨.tooFewParameters range.1 range.2, span⟩
  else
    match arguments.drop range.2 with
    | [] => none
    | extra :: rest => some ⟨.tooManyParameters range.1 range.2, argumentsSpan extra rest⟩

/-- Resolves a call, its arguments left aside but for their number. -/
def Context.resolve (ctx : Context) (expected : SemanticType) (callee : Callee)
    (arguments : List Expr) (span : Span) : Resolution :=
  let found := ctx.lookup callee
  match found.signature with
  | none => ⟨.unknown, .error ⟨.unknownFunction callee.function.text, span⟩⟩
  | some s =>
    let returned := SemanticType.ofKind s.returnKind
    match ctx.capabilityProblem? callee found.objectType s with
    | some d => ⟨returned, .error d⟩
    | none =>
      if returned.returnsFor expected then
        match countProblem? callee s arguments span with
        | some d => ⟨returned, .error d⟩
        | none => ⟨returned, .ok s⟩
      else ⟨returned, .error ⟨.returnTypeMismatch returned expected, span⟩⟩

end EventSheet

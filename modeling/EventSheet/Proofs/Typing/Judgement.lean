import EventSheet.Proofs.Typing.Calls

/-!
# A typing judgement

Which expressions have which type, told from the bottom up: the type of an expression follows from
those of its parts and nothing is asked of it by its surroundings. An argument fits the parameter it
is written for; what a bare name has to be there depends on the object before it, and a `Naming`
says how.
-/

namespace EventSheet

/-- What is asked of the names that are written for a parameter, by the object named last before
them. -/
structure Naming where
  takesVariable : Parameter → Option String → Prop
  takesBehavior : Option String → String → Prop

/-- A variable of an object needs an object before it, and so does a behavior, which has to be one
of that object. -/
def Naming.ofScope (scope : Scope) : Naming where
  takesVariable p context := p.kind = objectVariableKind → context.isSome
  takesBehavior context name :=
    ∃ object, context = some object ∧ (scope.behaviorType object name).isSome

/-- The object that names after an argument belong to. -/
def objectAfter (p : Parameter) (e : Expr) (context : Option String) : Option String :=
  match ParameterFamily.ofKind? p.kind, e.identifier? with
  | some .object, some name => some name
  | _, _ => context

section

variable (ctx : Context) (naming : Naming)

mutual

/-- The expression has the type. -/
inductive HasType : Expr → SemanticType → Prop
  | number {text : String} {s : Span} : HasType (.number text s) .number
  | string {value : String} {s : Span} : HasType (.string value s) .string
  | unary {sign : Sign} {e : Expr} {s : Span} :
      HasType e .number → HasType (.unary sign e s) .number
  | numbers {operator : Operator} {a b : Expr} {s : Span} :
      HasType a .number → HasType b .number → HasType (.binary operator a b s) .number
  | strings {a b : Expr} {s : Span} :
      HasType a .string → HasType b .string → HasType (.binary .add a b s) .string
  | either {operator : Operator} {a b : Expr} {t : SemanticType} {s : Span} :
      HasType a .numberOrString → HasType b t →
      HasType (.binary operator a b s) .numberOrString
  | call {callee : Callee} {es : List Expr} {f : Signature} {s : Span} :
      Callable ctx callee es f → (SemanticType.ofKind f.returnKind).isValue = true →
      ArgumentsFit (callee.object?.map (·.text)) es (f.written callee.impliedParameters) →
      HasType (.call callee es s) (.ofKind f.returnKind)

/-- Every argument fits the parameter it is written for. -/
inductive ArgumentsFit : Option String → List Expr → List Parameter → Prop
  | done {context : Option String} {ps : List Parameter} : ArgumentsFit context [] ps
  | cons {context : Option String} {e : Expr} {es : List Expr} {p : Parameter}
      {ps : List Parameter} :
      Fits p context e → ArgumentsFit (objectAfter p e context) es ps →
      ArgumentsFit context (e :: es) (p :: ps)

/-- The argument fits a parameter, when names written here belong to the object `context`. -/
inductive Fits : Parameter → Option String → Expr → Prop
  | number {p : Parameter} {context : Option String} {e : Expr} :
      ParameterFamily.ofKind? p.kind = some .number → HasType e .number → Fits p context e
  | string {p : Parameter} {context : Option String} {e : Expr} :
      ParameterFamily.ofKind? p.kind = some .string → HasType e .string → Fits p context e
  | object {p : Parameter} {context : Option String} {name : String} {s : Span} :
      ParameterFamily.ofKind? p.kind = some .object → Fits p context (.identifier name s)
  | var {p : Parameter} {context : Option String} {name : String} {s : Span} :
      ParameterFamily.ofKind? p.kind = some .var → naming.takesVariable p context →
      Fits p context (.identifier name s)
  | access {p : Parameter} {context : Option String} {name : Name} {as : List Accessor} {s : Span} :
      ParameterFamily.ofKind? p.kind = some .var → naming.takesVariable p context →
      IndicesTyped as → Fits p context (.access name as s)
  | behavior {p : Parameter} {context : Option String} {name : String} {s : Span} :
      ParameterFamily.ofKind? p.kind = some .behavior → naming.takesBehavior context name →
      Fits p context (.identifier name s)

/-- Every index in a chain of accessors has a type. -/
inductive IndicesTyped : List Accessor → Prop
  | nil : IndicesTyped []
  | child {name : String} {s : Span} {as : List Accessor} :
      IndicesTyped as → IndicesTyped (.child name s :: as)
  | index {e : Expr} {s : Span} {t : SemanticType} {as : List Accessor} :
      HasType e t → IndicesTyped as → IndicesTyped (.index e s :: as)

end

end

end EventSheet

import EventSheet.Text.Span

/-!
# Expression trees

The tree of an expression. Every node carries the span it was written at; parentheses leave no node
behind, they only widen the span of what they enclose. A text that does not fit the grammar has a
tree too: `Expr.error` stands for what could not be read and `Expr.empty` for nothing at all.

A call is written in one of three shapes, and a `Callee` is the part of it before the arguments.
-/

namespace EventSheet

/-- The most levels of nesting an expression may have. Parentheses, signs, arguments, indices and
operators each count one level. -/
def nestingLimit : Nat := 200

/-- A name together with the place it is written at. -/
structure Name where
  text : String
  span : Span
  deriving DecidableEq

/-- An operator written before its operand. -/
inductive Sign
  | plus
  | minus
  deriving DecidableEq

/-- An operator written between its operands. -/
inductive Operator
  | add
  | sub
  | mul
  | div
  | pow
  deriving DecidableEq

/-- How a sign is written. -/
def Sign.symbol : Sign → String
  | plus => "+"
  | minus => "-"

/-- How an operator is written. -/
def Operator.symbol : Operator → String
  | add => "+"
  | sub => "-"
  | mul => "*"
  | div => "/"
  | pow => "^"

/-- What a call is made on: a function alone, a function of an object, or a function of a behavior
of an object. -/
inductive Callee
  | free (function : Name)
  | onObject (object function : Name)
  | onBehavior (object behavior function : Name)
  deriving DecidableEq

namespace Callee

/-- The name of the called function. -/
def function : Callee → Name
  | free f => f
  | onObject _ f => f
  | onBehavior _ _ f => f

/-- The object a call is made on. -/
def object? : Callee → Option Name
  | free _ => none
  | onObject o _ => some o
  | onBehavior o _ _ => some o

/-- The behavior a call is made on. -/
def behavior? : Callee → Option Name
  | free _ => none
  | onObject _ _ => none
  | onBehavior _ b _ => some b

/-- Where the call starts in the text. -/
def start : Callee → Nat
  | free f => f.span.start
  | onObject o _ => o.span.start
  | onBehavior o _ _ => o.span.start

/-- The number of leading parameters that the shape of the call supplies: the object and the
behavior are parameters that nobody writes between the parentheses. -/
def impliedParameters : Callee → Nat
  | free _ => 0
  | onObject _ _ => 1
  | onBehavior _ _ _ => 2

/-- The callee as it reads without blanks. -/
def path : Callee → String
  | free f => f.text
  | onObject o f => o.text ++ "." ++ f.text
  | onBehavior o b f => o.text ++ "." ++ b.text ++ "::" ++ f.text

end Callee

mutual

/-- A node of an expression tree. -/
inductive Expr
  /-- A number as it is written. -/
  | number (text : String) (span : Span)
  /-- A text, its escapes decoded. -/
  | string (value : String) (span : Span)
  /-- A bare name: an object, a variable or a behavior, as its place decides. -/
  | identifier (name : String) (span : Span)
  /-- A variable followed by a chain of accessors. -/
  | access (name : Name) (accessors : List Accessor) (span : Span)
  | unary (sign : Sign) (operand : Expr) (span : Span)
  | binary (operator : Operator) (left right : Expr) (span : Span)
  | call (callee : Callee) (arguments : List Expr) (span : Span)
  /-- Nothing was written. -/
  | empty (span : Span)
  /-- A piece of text that does not fit the grammar. -/
  | error (reason text : String) (span : Span)

/-- One step into a structured variable. -/
inductive Accessor
  /-- The child of a given name, from its dot on. -/
  | child (name : String) (span : Span)
  /-- The element at an index, brackets included. -/
  | index (index : Expr) (span : Span)

end

/-- Where a step into a variable is written. -/
def Accessor.span : Accessor → Span
  | child _ s => s
  | index _ s => s

namespace Expr

/-- Where a node is written. -/
def span : Expr → Span
  | number _ s => s
  | string _ s => s
  | identifier _ s => s
  | access _ _ s => s
  | unary _ _ s => s
  | binary _ _ _ s => s
  | call _ _ s => s
  | empty s => s
  | error _ _ s => s

/-- The same node at another place. -/
def withSpan (s : Span) : Expr → Expr
  | number t _ => number t s
  | string v _ => string v s
  | identifier n _ => identifier n s
  | access n as _ => access n as s
  | unary o e _ => unary o e s
  | binary o l r _ => binary o l r s
  | call c es _ => call c es s
  | empty _ => empty s
  | error r t _ => error r t s

/-- Whether the node stands for a piece of text that does not fit the grammar. -/
def isError : Expr → Bool
  | error _ _ _ => true
  | _ => false

/-- The name, when the node is a bare one. -/
def identifier? : Expr → Option String
  | identifier n _ => some n
  | _ => none

@[simp] theorem span_withSpan (s : Span) (e : Expr) : (e.withSpan s).span = s := by
  cases e <;> rfl

@[simp] theorem isError_withSpan (s : Span) (e : Expr) : (e.withSpan s).isError = e.isError := by
  cases e <;> rfl

@[simp] theorem withSpan_withSpan (s t : Span) (e : Expr) :
    (e.withSpan s).withSpan t = e.withSpan t := by
  cases e <;> rfl

end Expr

end EventSheet

import EventSheet.Catalog.Basic

/-!
# Providers of functions

Checking asks for functions by name and never decides by itself which ones there are. A `Provider`
is anything that answers: an unknown name is an ordinary mistake of a user, so every answer may be
none.
-/

namespace EventSheet

/-- Answers which functions and object types there are. -/
structure Provider where
  /-- A function called on its own, by name. -/
  freeFunction : String → Option Signature
  /-- A function called on an object, by the type of the object and the name of the function. -/
  objectFunction : String → String → Option Signature
  /-- A function called on a behavior, by the type of the behavior and the name of the function. -/
  behaviorFunction : String → String → Option Signature
  /-- What is declared of a type of objects. -/
  objectType : String → Option ObjectType

/-- Whether objects of a type lack a capability. A type that is not declared lacks none. -/
def Provider.lacks (p : Provider) (type capability : String) : Bool :=
  ((p.objectType type).map (·.lacks capability)).getD false

end EventSheet

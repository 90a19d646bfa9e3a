/-!
# Catalogs of functions

What extensions declare: functions that expressions may call, on their own, on objects of a type or
on behaviors of a type. A `Signature` lists all parameters of a function; the object and behavior it
is called on come first among them and are not written between the parentheses. `Signature.written`
gives the parameters a user writes and `Signature.countRange` how many arguments they take.
-/

namespace EventSheet

/-- A declared parameter of a function. -/
structure Parameter where
  kind : String
  /-- The argument may be left out. -/
  optional : Bool
  /-- The argument is supplied elsewhere and never written. -/
  codeOnly : Bool
  description : String
  deriving DecidableEq

/-- A declared function. -/
structure Signature where
  name : String
  /-- The kind of value it returns, as the catalog words it. -/
  returnKind : String
  parameters : List Parameter
  /-- A capability that objects it is called on must not lack. -/
  requiredCapability : Option String
  description : String
  deriving DecidableEq

/-- A declared type of objects. -/
structure ObjectType where
  name : String
  functions : List Signature
  /-- The capabilities of the base object that objects of this type lack. -/
  unsupportedCapabilities : List String
  deriving DecidableEq

/-- A declared type of behaviors. -/
structure BehaviorType where
  name : String
  functions : List Signature
  deriving DecidableEq

/-- A named bundle of functions, object types and behavior types. -/
structure Extension where
  name : String
  functions : List Signature
  objects : List ObjectType
  behaviors : List BehaviorType
  deriving DecidableEq

/-- The type of the base object, whose functions apply to every object. -/
def baseObjectType : String := ""

namespace Parameter

/-- A parameter that must be written. -/
def required (kind : String) : Parameter := ⟨kind, false, false, ""⟩

/-- Whether a call has to supply an argument. -/
def isRequired (p : Parameter) : Bool := !p.optional

end Parameter

namespace Signature

/-- The parameters a user writes, when the shape of the call supplies the first ones. -/
def written (s : Signature) (implied : Nat) : List Parameter :=
  (s.parameters.drop implied).filter (!·.codeOnly)

/-- The least and the greatest number of arguments a user writes. -/
def countRange (s : Signature) (implied : Nat) : Nat × Nat :=
  let parameters := s.written implied
  (parameters.countP Parameter.isRequired, parameters.length)

theorem countRange_le (s : Signature) (implied : Nat) :
    (s.countRange implied).1 ≤ (s.countRange implied).2 :=
  List.countP_le_length

end Signature

/-- Whether objects of a type lack a capability. -/
def ObjectType.lacks (t : ObjectType) (capability : String) : Bool :=
  t.unsupportedCapabilities.contains capability

end EventSheet

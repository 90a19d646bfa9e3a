/-!
# Types of expressions

The types an expression can have or be required to have, and the families into which the kinds of
parameters fall. The types are no lattice: only `numberOrString` goes together with two others, and
`unknown` with all.
-/

namespace EventSheet

/-- The type an expression resolves to, or the type its place requires. -/
inductive SemanticType
  | number
  | string
  | numberOrString
  | var
  | object
  | boolean
  /-- Not resolved. As a requirement it accepts anything. -/
  | unknown
  /-- No value. -/
  | empty
  deriving DecidableEq

/-- Kinds of parameters that are checked alike. -/
inductive ParameterFamily
  | number
  | string
  | var
  | object
  | behavior
  deriving DecidableEq

/-- The kinds of parameters that take a number. -/
def numberKinds : List String := ["number", "expression", "camera", "forceMultiplier"]

/-- The kinds of parameters that take a text. -/
def stringKinds : List String :=
  ["string", "layer", "color", "file", "joyaxis", "stringWithSelector", "sceneName",
   "layerEffectName", "layerEffectParameterName", "objectEffectName", "objectPointName",
   "objectAnimationName", "functionParameterName", "externalLayoutName", "leaderboardId",
   "identifier", "key", "mouse", "password", "musicfile", "soundfile", "police"]

/-- The kind of the parameters that name a variable of the object before them. -/
def objectVariableKind : String := "objectvar"

/-- The kinds of parameters that take the name of a variable. -/
def variableKinds : List String := ["variable", "scenevar", "globalvar", objectVariableKind]

/-- The kinds of parameters that take the name of an object. -/
def objectKinds : List String :=
  ["object", "objectPtr", "objectList", "objectListOrEmptyIfJustDeclared",
   "objectListOrEmptyWithoutPicking"]

/-- The kinds of parameters that take the name of a behavior. -/
def behaviorKinds : List String := ["behavior"]

/-- The kinds of values that are either true or false. -/
def booleanKinds : List String := ["boolean", "yesorno", "trueorfalse"]

namespace ParameterFamily

/-- The family of a kind of parameter; none for a kind that is not known. -/
def ofKind? (kind : String) : Option ParameterFamily :=
  if numberKinds.contains kind then some number
  else if stringKinds.contains kind then some string
  else if variableKinds.contains kind then some var
  else if objectKinds.contains kind then some object
  else if behaviorKinds.contains kind then some behavior
  else none

/-- The type an argument of the family is checked against. -/
def expectedType : ParameterFamily → SemanticType
  | number => .number
  | string => .string
  | var => .var
  | object => .object
  | behavior => .unknown

/-- The name of a family. -/
def name : ParameterFamily → String
  | number => "Number"
  | string => "String"
  | var => "Variable"
  | object => "Object"
  | behavior => "Behavior"

end ParameterFamily

namespace SemanticType

/-- The type that a kind of return value or of parameter stands for. -/
def ofKind (kind : String) : SemanticType :=
  if kind = "number|string" then numberOrString
  else if booleanKinds.contains kind then boolean
  else
    match ParameterFamily.ofKind? kind with
    | some family => family.expectedType
    | none => unknown

/-- Whether a value of type `found` can stand where `expected` is required. What is not resolved
never causes a second error. -/
def fits (found expected : SemanticType) : Bool :=
  match found, expected with
  | _, unknown => true
  | unknown, _ => true
  | number, numberOrString => true
  | string, numberOrString => true
  | numberOrString, number => true
  | numberOrString, string => true
  | found, expected => found == expected

/-- Whether the type holds a number or a text. -/
def isValue : SemanticType → Bool
  | number | string | numberOrString => true
  | _ => false

/-- How a type is written. -/
def name : SemanticType → String
  | number => "number"
  | string => "string"
  | numberOrString => "number|string"
  | var => "variable"
  | object => "object"
  | boolean => "boolean"
  | unknown => "unknown"
  | empty => "empty"

/-- Every type, in the order in which they are listed to a user. -/
def all : List SemanticType :=
  [number, string, numberOrString, var, object, boolean, unknown, empty]

/-- The type of a given name. -/
def ofName? (text : String) : Option SemanticType :=
  all.find? (·.name == text)

/-- What is said of a name that no type has. -/
def unknownNameMessage (text : String) : String :=
  s!"unknown type `{text}` (expected number, string, number|string, variable, object, boolean, " ++
    "unknown or empty)"

@[simp] theorem ofName?_name (t : SemanticType) : ofName? t.name = some t := by
  cases t <;> rfl

end SemanticType

end EventSheet

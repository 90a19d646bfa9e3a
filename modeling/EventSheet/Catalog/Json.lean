import EventSheet.Catalog.Basic
import EventSheet.Json.Basic

/-!
# Catalogs as JSON

The written form of the records of a catalog and the way back. Fields that may be left out have a
default; a field that is given has to have its type, and null is a value only for the capability a
function requires. A catalog is an object with a list of extensions, or a single extension.
-/

namespace EventSheet

/-! ### Writing -/

/-- A parameter, with all its fields. -/
def Parameter.toJson (p : Parameter) : Json :=
  .object [.mk "type" (.string p.kind), .mk "optional" (.bool p.optional),
    .mk "codeOnly" (.bool p.codeOnly), .mk "description" (.string p.description)]

/-- A function, with all its fields but a capability that it does not require. -/
def Signature.toJson (s : Signature) : Json :=
  .object ([.mk "name" (.string s.name), .mk "returnType" (.string s.returnKind),
    .mk "parameters" (.array (s.parameters.map Parameter.toJson))] ++
    (s.requiredCapability.map fun c =>
      Member.mk "requiredBaseObjectCapability" (.string c)).toList ++
    [.mk "description" (.string s.description)])

/-- An object type, with all its fields. -/
def ObjectType.toJson (t : ObjectType) : Json :=
  .object [.mk "type" (.string t.name),
    .mk "expressions" (.array (t.functions.map Signature.toJson)),
    .mk "unsupportedBaseObjectCapabilities" (.texts t.unsupportedCapabilities)]

/-- A behavior type, with all its fields. -/
def BehaviorType.toJson (t : BehaviorType) : Json :=
  .object [.mk "type" (.string t.name),
    .mk "expressions" (.array (t.functions.map Signature.toJson))]

/-- An extension, with all its fields. -/
def Extension.toJson (e : Extension) : Json :=
  .object [.mk "name" (.string e.name),
    .mk "expressions" (.array (e.functions.map Signature.toJson)),
    .mk "objects" (.array (e.objects.map ObjectType.toJson)),
    .mk "behaviors" (.array (e.behaviors.map BehaviorType.toJson))]

/-- A catalog of extensions. -/
def catalogJson (es : List Extension) : Json :=
  .object [.mk "extensions" (.array (es.map Extension.toJson))]

/-! ### Reading -/

/-- Reads a parameter. -/
def Parameter.ofJson? (j : Json) : Option Parameter := do
  let fields ← j.record? .refused ["type", "optional", "codeOnly", "description"]
  return ⟨← fields.required "type" Json.text?,
    ← fields.optional "optional" false Json.bool?,
    ← fields.optional "codeOnly" false Json.bool?,
    ← fields.optional "description" "" Json.text?⟩

/-- Reads a function. -/
def Signature.ofJson? (j : Json) : Option Signature := do
  let fields ← j.record? .refused
    ["name", "returnType", "parameters", "requiredBaseObjectCapability", "description"]
  return ⟨← fields.required "name" Json.text?,
    ← fields.required "returnType" Json.text?,
    ← fields.optional "parameters" [] (Json.list? Parameter.ofJson?),
    ← fields.optional "requiredBaseObjectCapability" none (Json.nullable? Json.text?),
    ← fields.optional "description" "" Json.text?⟩

/-- Reads an object type. -/
def ObjectType.ofJson? (j : Json) : Option ObjectType := do
  let fields ← j.record? .refused ["type", "expressions", "unsupportedBaseObjectCapabilities"]
  return ⟨← fields.required "type" Json.text?,
    ← fields.optional "expressions" [] (Json.list? Signature.ofJson?),
    ← fields.optional "unsupportedBaseObjectCapabilities" [] (Json.list? Json.text?)⟩

/-- Reads a behavior type. -/
def BehaviorType.ofJson? (j : Json) : Option BehaviorType := do
  let fields ← j.record? .refused ["type", "expressions"]
  return ⟨← fields.required "type" Json.text?,
    ← fields.optional "expressions" [] (Json.list? Signature.ofJson?)⟩

/-- Reads an extension. -/
def Extension.ofJson? (j : Json) : Option Extension := do
  let fields ← j.record? .refused ["name", "expressions", "objects", "behaviors"]
  return ⟨← fields.required "name" Json.text?,
    ← fields.optional "expressions" [] (Json.list? Signature.ofJson?),
    ← fields.optional "objects" [] (Json.list? ObjectType.ofJson?),
    ← fields.optional "behaviors" [] (Json.list? BehaviorType.ofJson?)⟩

/-- Reads a list of extensions, which is always written by name. -/
def extensionsOfJson? : Json → Option (List Extension)
  | .object members => do
    let fields ← (Json.object members).record? .refused ["extensions"]
    fields.required "extensions" (Json.list? Extension.ofJson?)
  | _ => none

/-- Reads a catalog: a list of extensions or, when that does not fit, one extension. -/
def catalogOfJson? (j : Json) : Option (List Extension) :=
  extensionsOfJson? j <|> (Extension.ofJson? j).map ([·])

end EventSheet

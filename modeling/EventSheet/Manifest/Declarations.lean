import EventSheet.Json.Basic
import EventSheet.Scope

/-!
# Reading declarations

Reads declared objects and groups from a value. The variables of an object may be null, which says
that the object does not list them.
-/

namespace EventSheet

/-- Reads a declared object. -/
def ObjectDeclaration.ofJson? (surplus : Json.Surplus) (j : Json) : Option ObjectDeclaration := do
  let fields ← j.record? surplus ["type", "behaviors", "variables"]
  return ⟨← fields.required "type" Json.text?,
    ← fields.optional "behaviors" .empty fun b => (b.entries? Json.text?).map Index.ofList,
    ← fields.optional "variables" none (Json.nullable? (Json.list? Json.text?))⟩

/-- Reads the objects and groups declared in one place. -/
def Declarations.ofJson? (surplus : Json.Surplus) (j : Json) : Option Declarations := do
  let fields ← j.record? surplus ["objects", "groups"]
  return ⟨← fields.optional "objects" .empty fun b =>
      (b.entries? (ObjectDeclaration.ofJson? surplus)).map Index.ofList,
    ← fields.optional "groups" .empty fun b =>
      (b.entries? (Json.list? Json.text?)).map Index.ofList⟩

end EventSheet

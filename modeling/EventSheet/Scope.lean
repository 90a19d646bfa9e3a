import EventSheet.Index

/-!
# Declared objects

Expressions name objects and never their types. A `Scope` answers which type and behaviors a name
stands for: it holds the objects and groups of a project and those of the scene at hand, and a name
of the scene hides the same name of the project. A group has a type, or a behavior of some type,
when all its members agree on it.
-/

namespace EventSheet

/-- A declared object. -/
structure ObjectDeclaration where
  type : String
  /-- The types of its behaviors, by name. -/
  behaviors : Index String
  /-- Its variables. An object that lists none has any variable one asks for. -/
  variableNames : Option (List String)

/-- The objects and groups declared in one place. -/
structure Declarations where
  objects : Index ObjectDeclaration
  /-- The members of groups, by the name of the group. -/
  groups : Index (List String)

/-- Nothing declared. -/
def Declarations.empty : Declarations := ⟨.empty, .empty⟩

/-- The declarations of a project and those of a scene in it. -/
structure Scope where
  project : Declarations
  scene : Declarations

/-- The value that all of some answers agree on; none when one is missing or there is no answer. -/
def agreed : List (Option String) → Option String
  | [] => none
  | answer :: rest => if rest.all (· == answer) then answer else none

namespace Scope

/-- Nothing declared anywhere. -/
def empty : Scope := ⟨.empty, .empty⟩

/-- The object of a name. -/
def object? (s : Scope) (name : String) : Option ObjectDeclaration :=
  s.scene.objects.find? name <|> s.project.objects.find? name

/-- The members of the group of a name. -/
def group? (s : Scope) (name : String) : Option (List String) :=
  s.scene.groups.find? name <|> s.project.groups.find? name

/-- A property of an object, or of a group whose members agree on it. -/
def property (s : Scope) (name : String) (f : ObjectDeclaration → Option String) :
    Option String :=
  match s.object? name with
  | some object => f object
  | none => (s.group? name).bind fun members => agreed (members.map fun m => (s.object? m).bind f)

/-- The type of an object or of a group. -/
def objectType (s : Scope) (name : String) : Option String :=
  s.property name fun object => some object.type

/-- The type of a behavior of an object or of a group. -/
def behaviorType (s : Scope) (name behavior : String) : Option String :=
  s.property name fun object => object.behaviors.find? behavior

/-- The variables that an object lists. A group never lists any. -/
def objectVariables (s : Scope) (name : String) : Option (List String) :=
  (s.object? name).bind (·.variableNames)

end Scope

theorem agreed_eq_some_iff {answers : List (Option String)} {v : String} :
    agreed answers = some v ↔ answers ≠ [] ∧ ∀ a ∈ answers, a = some v := by
  cases answers with
  | nil => simp [agreed]
  | cons a rest =>
    simp only [agreed, List.all_eq_true, beq_iff_eq, ne_eq, reduceCtorEq, not_false_eq_true,
      List.mem_cons, forall_eq_or_imp, true_and]
    constructor
    · intro h
      split at h
      next hall => exact ⟨h, fun x hx => (hall x hx).trans h⟩
      next => cases h
    · rintro ⟨rfl, hall⟩
      rw [if_pos hall]

end EventSheet

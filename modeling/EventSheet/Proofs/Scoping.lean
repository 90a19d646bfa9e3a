import EventSheet.Scope

/-!
# What names stand for

A name stands for the object of that name in the scene, or else for the one in the project; a name
of no object stands for what the members of its group agree on:
`Scope.answers_of_object_or_members`. So an object of the scene hides whatever the project declares
under its name. A group of the scene hides a group of the project and no object of it:
`Scope.scene_hides_project`.
-/

namespace EventSheet

/-! ### Two levels -/

/-- The value of a name in two indexes of which the upper one hides the lower one. -/
inductive Index.Layered {α : Type} (upper lower : Index α) (name : String) (value : α) : Prop
  | upper : upper.find? name = some value → Layered upper lower name value
  | lower : upper.find? name = none → lower.find? name = some value →
      Layered upper lower name value

theorem Index.layered_iff {α : Type} {upper lower : Index α} {name : String} {value : α} :
    upper.Layered lower name value ↔ (upper.find? name <|> lower.find? name) = some value := by
  constructor
  · rintro (h | ⟨hupper, hlower⟩)
    · rw [h]
      rfl
    · rw [hupper]
      exact hlower
  · intro h
    cases hupper : upper.find? name with
    | some v =>
      rw [hupper] at h
      exact .upper (hupper.trans h)
    | none =>
      rw [hupper] at h
      exact .lower hupper h

namespace Scope

/-- The name stands for the object. -/
def IsObject (s : Scope) (name : String) (object : ObjectDeclaration) : Prop :=
  s.scene.objects.Layered s.project.objects name object

/-- The group of the name has the members. -/
def IsGroup (s : Scope) (name : String) (members : List String) : Prop :=
  s.scene.groups.Layered s.project.groups name members

/-- The group of the name has members, and each of them stands for an object with the value. -/
def MembersShare (s : Scope) (f : ObjectDeclaration → Option String) (name value : String) : Prop :=
  ∃ members, s.IsGroup name members ∧ members ≠ [] ∧
    ∀ m ∈ members, ∃ object, s.IsObject m object ∧ f object = some value

section

variable {s : Scope} {name value : String} {f : ObjectDeclaration → Option String}

theorem object?_eq_some_iff {object : ObjectDeclaration} :
    s.object? name = some object ↔ s.IsObject name object :=
  Index.layered_iff.symm

theorem object?_eq_none_iff : s.object? name = none ↔ ∀ object, ¬ s.IsObject name object := by
  simp only [Option.eq_none_iff_forall_ne_some, ne_eq, object?_eq_some_iff]

theorem group?_eq_some_iff {members : List String} :
    s.group? name = some members ↔ s.IsGroup name members :=
  Index.layered_iff.symm

theorem property_of_object {object : ObjectDeclaration} (h : s.IsObject name object) :
    s.property name f = f object := by
  rw [property, object?_eq_some_iff.2 h]

/-- A group has a property when its members share it. -/
theorem property_eq_some_iff_of_group (h : ∀ object, ¬ s.IsObject name object) :
    s.property name f = some value ↔ s.MembersShare f name value := by
  have hmember (m : String) : (s.object? m).bind f = some value ↔
      ∃ object, s.IsObject m object ∧ f object = some value := by
    simp only [Option.bind_eq_some_iff, object?_eq_some_iff]
  rw [property, object?_eq_none_iff.2 h]
  simp only [MembersShare, Option.bind_eq_some_iff, group?_eq_some_iff, agreed_eq_some_iff, ne_eq,
    List.map_eq_nil_iff, List.forall_mem_map, hmember]

end

end Scope

/-! ### The order of members -/

/-- The same objects and the same groups, but for the order in which the members of a group are
listed and how often one of them is. -/
structure Declarations.SameMembers (p q : Declarations) : Prop where
  objects : ∀ name, p.objects.find? name = q.objects.find? name
  groups : ∀ name,
    Option.Rel (fun ms ms' => ∀ m, m ∈ ms ↔ m ∈ ms') (p.groups.find? name) (q.groups.find? name)

namespace Scope

/-- Two scopes that declare the same up to the order of members. -/
structure SameMembers (s s' : Scope) : Prop where
  project : s.project.SameMembers s'.project
  scene : s.scene.SameMembers s'.scene

/-- Two scopes that give the same answers for a name. -/
structure AnswerAlike (s s' : Scope) (name : String) : Prop where
  type : s.objectType name = s'.objectType name
  behavior : ∀ behavior, s.behaviorType name behavior = s'.behaviorType name behavior
  variableNames : s.objectVariables name = s'.objectVariables name

section

variable {s s' : Scope} {name : String}

/-- The answers for a name depend on its object and, where it has none, on the objects of the
members of its group. -/
theorem AnswerAlike.of_property (hobject : s.object? name = s'.object? name)
    (hproperty : ∀ f, s.property name f = s'.property name f) : s.AnswerAlike s' name where
  type := hproperty _
  behavior _ := hproperty _
  variableNames := by rw [objectVariables, hobject, objectVariables]

theorem SameMembers.object?_eq (h : s.SameMembers s') (name : String) :
    s.object? name = s'.object? name := by
  rw [object?, h.scene.objects, h.project.objects, object?]

theorem SameMembers.group?_rel (h : s.SameMembers s') (name : String) :
    Option.Rel (fun ms ms' => ∀ m, m ∈ ms ↔ m ∈ ms') (s.group? name) (s'.group? name) := by
  have hscene := h.scene.groups name
  have hproject := h.project.groups name
  rw [group?, group?]
  generalize s.scene.groups.find? name = a at hscene ⊢
  generalize s'.scene.groups.find? name = a' at hscene ⊢
  cases hscene with
  | some hmembers => exact .some hmembers
  | none => exact hproject

/-- What members agree on does not depend on their order. -/
theorem agreed_map_congr {ms ms' : List String} (h : ∀ m, m ∈ ms ↔ m ∈ ms')
    (f : String → Option String) : agreed (ms.map f) = agreed (ms'.map f) := by
  have hnil : ms = [] ↔ ms' = [] := by
    simp only [List.eq_nil_iff_forall_not_mem, h]
  ext value
  rw [agreed_eq_some_iff, agreed_eq_some_iff]
  simp only [ne_eq, List.map_eq_nil_iff, hnil, List.forall_mem_map, h]

theorem SameMembers.property_eq (h : s.SameMembers s') (f : ObjectDeclaration → Option String) :
    s.property name f = s'.property name f := by
  have hgroup := h.group?_rel name
  have hobject : s.object? = s'.object? := funext h.object?_eq
  rw [property, property, hobject]
  cases s'.object? name with
  | some object => rfl
  | none =>
    dsimp only
    generalize s.group? name = a at hgroup ⊢
    generalize s'.group? name = a' at hgroup ⊢
    cases hgroup with
    | none => rfl
    | some hmembers => exact agreed_map_congr hmembers _

/-- A name stands for its object: the one of the scene, or else the one of the project. A name of no
object has the type, or the behavior, that all members of its group have, which is the group of the
scene, or else that of the project; it has none when there is no group, no member, a member that is
no object or two that differ, and it never has variables. It does not matter in which order the
members of groups are listed and how often. -/
theorem answers_of_object_or_members (s : Scope) (name : String) :
    (∀ object, s.IsObject name object →
      s.objectType name = some object.type ∧
      (∀ behavior, s.behaviorType name behavior = object.behaviors.find? behavior) ∧
      s.objectVariables name = object.variableNames) ∧
    ((∀ object, ¬ s.IsObject name object) →
      (∀ type, s.objectType name = some type ↔
        s.MembersShare (fun object => some object.type) name type) ∧
      (∀ behavior type, s.behaviorType name behavior = some type ↔
        s.MembersShare (fun object => object.behaviors.find? behavior) name type) ∧
      s.objectVariables name = none) ∧
    ∀ s', s.SameMembers s' → s.AnswerAlike s' name := by
  refine ⟨?_, ?_, ?_⟩
  · intro object hobject
    refine ⟨property_of_object hobject, fun _ => property_of_object hobject, ?_⟩
    rw [objectVariables, object?_eq_some_iff.2 hobject]
    rfl
  · intro hnone
    refine ⟨fun _ => property_eq_some_iff_of_group hnone,
      fun _ _ => property_eq_some_iff_of_group hnone, ?_⟩
    rw [objectVariables, object?_eq_none_iff.2 hnone]
    rfl
  · intro s' h
    exact .of_property (h.object?_eq name) h.property_eq

theorem answers_of_reordered_members :
    let bat : ObjectDeclaration := ⟨"Sprite", .empty, none⟩
    let s : Scope := ⟨⟨.empty, .ofList [("Foes", ["Bat", "Owl"])]⟩,
      ⟨.ofList [("Bat", bat), ("Owl", bat)], .empty⟩⟩
    let s' : Scope := ⟨⟨.empty, .ofList [("Foes", ["Owl", "Bat", "Owl"])]⟩,
      ⟨.ofList [("Bat", bat), ("Owl", bat)], .empty⟩⟩
    s.SameMembers s' ∧ s.objectType "Foes" = some "Sprite" ∧
      s'.objectType "Foes" = some "Sprite" := by
  intro bat s s'
  have hmembers : s.SameMembers s' := by
    refine ⟨⟨fun _ => rfl, ?_⟩, ⟨fun _ => rfl, fun _ => .none⟩⟩
    intro name
    by_cases hname : "Foes" = name
    · subst hname
      exact .some (by grind)
    · have hnone (ms : List String) : (Index.ofList [("Foes", ms)]).find? name = none :=
        if_neg hname
      rw [hnone, hnone]
      exact .none
  have htype : s.objectType "Foes" = some "Sprite" := by decide +kernel
  have hsame := ((answers_of_object_or_members s "Foes").2.2 s' hmembers).type
  exact ⟨hmembers, htype, hsame.symm.trans htype⟩

end

/-! ### What a scene hides -/

end Scope

/-- Two sets of declarations that differ at most in what they declare under a name. -/
structure Declarations.AgreeBut (name : String) (p q : Declarations) : Prop where
  objects : ∀ other, other ≠ name → p.objects.find? other = q.objects.find? other
  groups : ∀ other, other ≠ name → p.groups.find? other = q.groups.find? other

/-- The name is one of an object or of a group. -/
def Declarations.Declares (d : Declarations) (name : String) : Prop :=
  (d.objects.find? name).isSome = true ∨ (d.groups.find? name).isSome = true

namespace Scope

section

variable {scene p q : Declarations} {name : String}

/-- An object of the scene is all that counts of its name. -/
theorem answerAlike_of_sceneObject (h : (scene.objects.find? name).isSome = true) :
    AnswerAlike ⟨p, scene⟩ ⟨q, scene⟩ name := by
  obtain ⟨object, hobject⟩ := Option.isSome_iff_exists.1 h
  have hp : IsObject ⟨p, scene⟩ name object := .upper hobject
  have hq : IsObject ⟨q, scene⟩ name object := .upper hobject
  refine .of_property ?_ fun f => ?_
  · rw [object?_eq_some_iff.2 hp, object?_eq_some_iff.2 hq]
  · rw [property_of_object hp, property_of_object hq]

/-- A group of the scene counts before one of the project. -/
theorem answerAlike_of_sceneGroup (h : (scene.groups.find? name).isSome = true)
    (hagree : p.AgreeBut name q) (hobject : p.objects.find? name = q.objects.find? name) :
    AnswerAlike ⟨p, scene⟩ ⟨q, scene⟩ name := by
  obtain ⟨members, hmembers⟩ := Option.isSome_iff_exists.1 h
  have hobjects : object? ⟨p, scene⟩ = object? ⟨q, scene⟩ := by
    funext other
    have hother : p.objects.find? other = q.objects.find? other := by
      by_cases hname : other = name
      · rw [hname, hobject]
      · exact hagree.objects other hname
    rw [object?, hother, object?]
  have hgroup (d : Declarations) : group? ⟨d, scene⟩ name = some members :=
    group?_eq_some_iff.2 (.upper hmembers)
  refine .of_property (congrFun hobjects name) fun f => ?_
  rw [property, property, hobjects, hgroup, hgroup]

/-- What the project declares under a name that the scene declares does not count, but for an object
of the project under the name of a group of the scene. -/
theorem scene_hides_project (hdeclared : scene.Declares name) (hagree : p.AgreeBut name q)
    (hobject : (scene.objects.find? name).isSome = true ∨
      p.objects.find? name = q.objects.find? name) :
    AnswerAlike ⟨p, scene⟩ ⟨q, scene⟩ name := by
  rcases hdeclared with h | h
  · exact answerAlike_of_sceneObject h
  · rcases hobject with hscene | hproject
    · exact answerAlike_of_sceneObject hscene
    · exact answerAlike_of_sceneGroup h hagree hproject

/-- A group of the scene next to a group of the project that has its name and another member. -/
theorem scene_hides_project_group :
    let scene : Declarations :=
      ⟨.ofList [("Bat", ⟨"Sprite", .empty, none⟩)], .ofList [("Foes", ["Bat"])]⟩
    let q : Declarations := ⟨.empty, .ofList [("Foes", ["Hud"])]⟩
    scene.Declares "Foes" ∧ Declarations.empty.AgreeBut "Foes" q ∧
      objectType ⟨.empty, scene⟩ "Foes" = some "Sprite" ∧
      objectType ⟨q, scene⟩ "Foes" = some "Sprite" := by
  intro scene q
  have hdeclared : scene.Declares "Foes" := .inr (by decide)
  have hagree : Declarations.empty.AgreeBut "Foes" q :=
    ⟨fun _ _ => rfl, fun _ hother => (if_neg (Ne.symm hother)).symm⟩
  have htype : objectType ⟨.empty, scene⟩ "Foes" = some "Sprite" := by decide +kernel
  have hhidden := scene_hides_project hdeclared hagree (.inr rfl)
  exact ⟨hdeclared, hagree, htype, hhidden.type.symm.trans htype⟩

/-- A group of the scene does not hide an object of the project that has its name. -/
theorem sceneGroup_not_hiding : ¬ ∀ (scene p q : Declarations) (name : String),
    scene.Declares name → p.AgreeBut name q → AnswerAlike ⟨p, scene⟩ ⟨q, scene⟩ name := by
  intro h
  let scene : Declarations :=
    ⟨.ofList [("Bat", ⟨"Sprite", .empty, none⟩)], .ofList [("Foes", ["Bat"])]⟩
  let q : Declarations := ⟨.ofList [("Foes", ⟨"Text", .empty, none⟩)], .empty⟩
  have hagree : Declarations.empty.AgreeBut "Foes" q :=
    ⟨fun _ hother => (if_neg (Ne.symm hother)).symm, fun _ _ => rfl⟩
  have htype := (h scene .empty q "Foes" (.inr (by decide)) hagree).type
  exact absurd htype (by decide +kernel)

end

end Scope

end EventSheet

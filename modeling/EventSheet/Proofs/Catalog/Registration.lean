import EventSheet.Catalog.Platform
import Mathlib.Data.Finset.Card

/-!
# What registering extensions changes

A platform answers every question about functions and object types with the last declaration that
was registered: `Platform.add` says so of one extension and `Platform.addAll` of many, look-up by
look-up. No name is held twice, so that the number of functions is the number of the ways in which
the registered ones can be called: `Platform.functionCount_addAll`.
-/

namespace EventSheet

/-! ### The last of several declarations -/

/-- The last member of a list that passes a test. -/
def lastWhere {α : Type} (test : α → Bool) (xs : List α) : Option α := (xs.filter test).getLast?

/-- The last function of a name. -/
def lastNamed (name : String) (functions : List Signature) : Option Signature :=
  lastWhere (fun s => s.name = name) functions

/-- An object type as a platform keeps it. -/
def ObjectType.withoutFunctions (t : ObjectType) : ObjectType := { t with functions := [] }

/-- The last entry of an object type that says something of the type itself. An entry of the base
object does only when it lists what the object lacks. -/
def lastRecord (type : String) (ts : List ObjectType) : Option ObjectType :=
  lastWhere (fun t => t.name = type ∧ (type = baseObjectType → t.unsupportedCapabilities ≠ [])) ts

section Last

variable {α : Type} {test : α → Bool}

theorem lastWhere_append (xs ys : List α) :
    lastWhere test (xs ++ ys) = (lastWhere test ys).or (lastWhere test xs) := by
  rw [lastWhere, List.filter_append, List.getLast?_append]
  rfl

theorem lastWhere_cons (x : α) (xs : List α) :
    lastWhere test (x :: xs) = (lastWhere test xs).or (if test x then some x else none) := by
  rw [← List.singleton_append, lastWhere_append]
  cases h : test x <;> simp [lastWhere, h]

theorem lastWhere_eq_none_iff {xs : List α} :
    lastWhere test xs = none ↔ ∀ x ∈ xs, test x = false := by
  simp [lastWhere]

theorem lastRecord_cons (type : String) (t : ObjectType) (ts : List ObjectType) :
    lastRecord type (t :: ts) =
      (lastRecord type ts).or
        (if t.name = type ∧ (type = baseObjectType → t.unsupportedCapabilities ≠ []) then some t
          else none) := by
  rw [lastRecord, lastWhere_cons]
  simp only [decide_eq_true_eq]
  rfl

theorem lastNamed_append (name : String) (fs gs : List Signature) :
    lastNamed name (fs ++ gs) = (lastNamed name gs).or (lastNamed name fs) :=
  lastWhere_append fs gs

theorem lastNamed_eq_none_iff {name : String} {fs : List Signature} :
    lastNamed name fs = none ↔ ∀ s ∈ fs, s.name ≠ name := by
  simp [lastNamed, lastWhere_eq_none_iff]

theorem isSome_lastNamed_iff {name : String} {fs : List Signature} :
    (lastNamed name fs).isSome = true ↔ ∃ s ∈ fs, s.name = name := by
  rw [Option.isSome_iff_ne_none, ne_eq, lastNamed_eq_none_iff]
  push Not
  rfl

end Last

/-! ### Indexes -/

namespace Index

variable {α β : Type}

/-- Of values that are inserted one after another under their keys, the last one of a key counts. -/
theorem find?_foldl_insert (key : β → String) (value : β → α) (xs : List β) (index : Index α)
    (k : String) :
    (xs.foldl (fun index x => index.insert (key x) (value x)) index).find? k =
      ((lastWhere (fun x => key x = k) xs).map value).or (index.find? k) := by
  induction xs generalizing index with
  | nil => rfl
  | cons x xs ih =>
    rw [List.foldl_cons, ih, find?_insert, lastWhere_cons]
    by_cases h : key x = k <;> cases lastWhere (fun x => key x = k) xs <;> simp [h]

theorem mem_keys_iff {index : Index α} {k : String} :
    k ∈ index.keys ↔ (index.find? k).isSome = true := by
  obtain ⟨entries⟩ := index
  simp only [keys, find?]
  induction entries with
  | nil => simp [findIn]
  | cons e rest ih =>
    rw [List.map_cons, List.mem_cons, ih, findIn]
    by_cases h : e.1 = k
    · simp [h]
    · simp [h, Ne.symm h]

theorem find?_eq_some_of_mem {index : Index α} (h : index.keys.Nodup) {k : String} {v : α}
    (hmem : (k, v) ∈ index.entries) : index.find? k = some v := by
  obtain ⟨entries⟩ := index
  simp only [keys, find?] at h hmem ⊢
  induction entries with
  | nil => cases hmem
  | cons e rest ih =>
    rw [List.map_cons, List.nodup_cons] at h
    rcases List.mem_cons.1 hmem with rfl | hmem
    · simp [findIn]
    · have hne : e.1 ≠ k := by
        rintro rfl
        exact h.1 (List.mem_map.2 ⟨_, hmem, rfl⟩)
      rw [findIn, if_neg hne, ih h.2 hmem]

theorem mem_entries_of_find? {index : Index α} {k : String} {v : α}
    (h : index.find? k = some v) : (k, v) ∈ index.entries := by
  obtain ⟨entries⟩ := index
  simp only [find?] at h ⊢
  induction entries with
  | nil => cases h
  | cons e rest ih =>
    rw [findIn] at h
    split at h
    next hk =>
      cases h
      subst hk
      exact .head _
    next => exact .tail _ (ih h)

end Index

/-! ### One extension -/

namespace Platform

/-- What adding functions leaves under a name. -/
theorem find?_addFunctions (fs : List Signature) (index : Index Signature) (name : String) :
    (addFunctions fs index).find? name = (lastNamed name fs).or (index.find? name) := by
  rw [addFunctions, Index.find?_foldl_insert Signature.name fun s => s, Option.map_id']
  rfl

theorem owned_addOwned (owner : String) (fs : List Signature) (index : Index (Index Signature))
    (o name : String) :
    owned (addOwned owner fs index) o name =
      if owner = o then (lastNamed name fs).or (owned index o name) else owned index o name := by
  rw [owned, addOwned, Index.find?_update]
  split
  next =>
    rw [Option.bind_some, find?_addFunctions, owned]
    cases index.find? o <;> rfl
  next => rfl

/-- The functions of an owner are those of all entries for it, one entry after another. -/
theorem owned_foldl_addOwned {τ : Type} (owner : τ → String) (functions : τ → List Signature)
    (ts : List τ) (index : Index (Index Signature)) (o name : String) :
    owned (ts.foldl (fun index t => addOwned (owner t) (functions t) index) index) o name =
      (lastNamed name ((ts.filter fun t => owner t = o).flatMap functions)).or
        (owned index o name) := by
  induction ts generalizing index with
  | nil => rfl
  | cons t ts ih =>
    rw [List.foldl_cons, ih, owned_addOwned]
    by_cases h : owner t = o
    · simp [h, lastNamed_append, Option.or_assoc]
    · simp [h]

theorem find?_addObjectType (t : ObjectType) (index : Index ObjectType) (type : String) :
    (addObjectType t index).find? type =
      if t.name = type ∧ (type = baseObjectType → t.unsupportedCapabilities ≠ []) then
        some t.withoutFunctions
      else index.find? type := by
  rw [addObjectType]
  by_cases hbase : t.name = baseObjectType ∧ t.unsupportedCapabilities = []
  · rw [if_pos hbase, if_neg]
    rintro ⟨rfl, hlacks⟩
    exact hlacks hbase.1 hbase.2
  · rw [if_neg hbase, Index.find?_insert]
    by_cases hname : t.name = type
    · subst hname
      rw [if_pos rfl, if_pos ⟨rfl, fun h hnil => hbase ⟨h, hnil⟩⟩]
      rfl
    · rw [if_neg hname, if_neg fun h => hname h.1]

theorem find?_foldl_addObjectType (ts : List ObjectType) (index : Index ObjectType)
    (type : String) :
    (ts.foldl (fun index t => addObjectType t index) index).find? type =
      ((lastRecord type ts).map ObjectType.withoutFunctions).or (index.find? type) := by
  induction ts generalizing index with
  | nil => rfl
  | cons t ts ih =>
    rw [List.foldl_cons, ih, find?_addObjectType, lastRecord_cons]
    cases lastRecord type ts with
    | some u => rfl
    | none => split <;> rfl

/-! ### Many extensions -/

/-- Registering extensions one after another is registering all that they declare at once. -/
theorem addAll_eq (p : Platform) (es : List Extension) :
    p.addAll es =
      { extensions := p.extensions ++ es.map (·.name)
        free := addFunctions (es.flatMap (·.functions)) p.free
        objects := (es.flatMap (·.objects)).foldl
          (fun index t => addOwned t.name t.functions index) p.objects
        behaviors := (es.flatMap (·.behaviors)).foldl
          (fun index t => addOwned t.name t.functions index) p.behaviors
        objectTypes := (es.flatMap (·.objects)).foldl
          (fun index t => addObjectType t index) p.objectTypes } := by
  induction es generalizing p with
  | nil => simp [addAll, addFunctions]
  | cons e es ih =>
    have hstep : p.addAll (e :: es) = (p.add e).addAll es := rfl
    rw [hstep, ih]
    simp [add, addFunctions, List.foldl_append]

/-- The functions that extensions declare for objects of a type. -/
def objectFunctions (es : List Extension) (type : String) : List Signature :=
  ((es.flatMap (·.objects)).filter fun t => t.name = type).flatMap (·.functions)

/-- The functions that extensions declare for behaviors of a type. -/
def behaviorFunctions (es : List Extension) (type : String) : List Signature :=
  ((es.flatMap (·.behaviors)).filter fun t => t.name = type).flatMap (·.functions)

section

variable (p : Platform) (es : List Extension)

theorem freeFunction_addAll (name : String) :
    (p.addAll es).freeFunction name =
      (lastNamed name (es.flatMap (·.functions))).or (p.freeFunction name) := by
  rw [addAll_eq]
  exact find?_addFunctions _ _ _

theorem owned_objects_addAll (type name : String) :
    owned (p.addAll es).objects type name =
      (lastNamed name (objectFunctions es type)).or (owned p.objects type name) := by
  rw [addAll_eq]
  exact owned_foldl_addOwned ObjectType.name ObjectType.functions _ _ _ _

theorem behaviorFunction_addAll (type name : String) :
    (p.addAll es).behaviorFunction type name =
      (lastNamed name (behaviorFunctions es type)).or (p.behaviorFunction type name) := by
  rw [addAll_eq]
  exact owned_foldl_addOwned BehaviorType.name BehaviorType.functions _ _ _ _

theorem objectType_addAll (type : String) :
    (p.addAll es).objectType type =
      ((lastRecord type (es.flatMap (·.objects))).map ObjectType.withoutFunctions).or
        (p.objectType type) := by
  rw [addAll_eq]
  exact find?_foldl_addObjectType _ _ _

end

/-- The owners and names of functions by owner. -/
def ownedKeys (index : Index (Index Signature)) : List (String × String) :=
  index.entries.flatMap fun e => e.2.keys.map fun name => (e.1, name)

/-- No owner is held twice, and no name is held twice under one owner. -/
structure OwnedOnce (index : Index (Index Signature)) : Prop where
  owners : index.keys.Nodup
  names : ∀ owner functions, index.find? owner = some functions → functions.keys.Nodup

theorem nodup_addFunctions {index : Index Signature} (h : index.keys.Nodup) (fs : List Signature) :
    (addFunctions fs index).keys.Nodup := by
  unfold addFunctions
  induction fs generalizing index with
  | nil => exact h
  | cons s fs ih => exact ih (Index.nodup_insert h s.name s)

theorem OwnedOnce.addOwned {index : Index (Index Signature)} (h : OwnedOnce index) (owner : String)
    (fs : List Signature) : OwnedOnce (addOwned owner fs index) := by
  refine ⟨Index.nodup_insert h.owners _ _, ?_⟩
  intro o functions hfind
  rw [Platform.addOwned, Index.find?_update] at hfind
  split at hfind
  next =>
    cases hfind
    apply nodup_addFunctions
    cases hknown : index.find? o with
    | none => exact .nil
    | some known => exact h.names o known hknown
  next => exact h.names o functions hfind

theorem OwnedOnce.foldl_addOwned {τ : Type} (owner : τ → String) (functions : τ → List Signature)
    (ts : List τ) {index : Index (Index Signature)} (h : OwnedOnce index) :
    OwnedOnce
      (ts.foldl (fun index t => Platform.addOwned (owner t) (functions t) index) index) := by
  induction ts generalizing index with
  | nil => exact h
  | cons t ts ih => exact ih (h.addOwned (owner t) (functions t))

theorem OwnedOnce.nodup_ownedKeys {index : Index (Index Signature)} (h : OwnedOnce index) :
    (ownedKeys index).Nodup := by
  refine List.nodup_flatMap.2 ⟨?_, ?_⟩
  · intro e he
    have hnames := h.names e.1 e.2 (Index.find?_eq_some_of_mem h.owners he)
    exact hnames.map fun a b hab => congrArg Prod.snd hab
  · have howners : index.entries.Pairwise fun e f => e.1 ≠ f.1 := List.pairwise_map.1 h.owners
    refine howners.imp ?_
    intro e f hne k hk hk'
    obtain ⟨_, -, rfl⟩ := List.mem_map.1 hk
    obtain ⟨_, -, heq⟩ := List.mem_map.1 hk'
    exact hne (congrArg Prod.fst heq).symm

theorem OwnedOnce.mem_ownedKeys_iff {index : Index (Index Signature)} (h : OwnedOnce index)
    {owner name : String} :
    (owner, name) ∈ ownedKeys index ↔ (owned index owner name).isSome = true := by
  constructor
  · intro hmem
    obtain ⟨e, he, hname⟩ := List.mem_flatMap.1 hmem
    obtain ⟨_, hname, heq⟩ := List.mem_map.1 hname
    cases heq
    rw [owned, Index.find?_eq_some_of_mem h.owners he]
    exact Index.mem_keys_iff.1 hname
  · intro hsome
    obtain ⟨s, hs⟩ := Option.isSome_iff_exists.1 hsome
    obtain ⟨functions, hfunctions, hs⟩ := Option.bind_eq_some_iff.1 hs
    have hname : name ∈ functions.keys := Index.mem_keys_iff.2 (by rw [hs]; rfl)
    exact List.mem_flatMap.2 ⟨_, Index.mem_entries_of_find? hfunctions,
      List.mem_map_of_mem hname⟩

/-- A way in which a function can be called. -/
inductive CallKey
  | free (name : String)
  | object (type name : String)
  | behavior (type name : String)
  deriving DecidableEq

/-- The ways in which the functions of an extension can be called. -/
def callKeys (e : Extension) : List CallKey :=
  e.functions.map (fun s => .free s.name) ++
    (e.objects.flatMap fun t => t.functions.map fun s => .object t.name s.name) ++
    e.behaviors.flatMap fun t => t.functions.map fun s => .behavior t.name s.name

theorem mem_callKeys_free_iff {e : Extension} {name : String} :
    .free name ∈ callKeys e ↔ ∃ s ∈ e.functions, s.name = name := by
  simp [callKeys]

theorem mem_callKeys_object_iff {e : Extension} {type name : String} :
    .object type name ∈ callKeys e ↔
      ∃ t ∈ e.objects, t.name = type ∧ ∃ s ∈ t.functions, s.name = name := by
  simp [callKeys, and_left_comm]

theorem mem_callKeys_behavior_iff {e : Extension} {type name : String} :
    .behavior type name ∈ callKeys e ↔
      ∃ t ∈ e.behaviors, t.name = type ∧ ∃ s ∈ t.functions, s.name = name := by
  simp [callKeys, and_left_comm]

/-- The ways in which the functions of a platform can be called. -/
def knownKeys (p : Platform) : List CallKey :=
  p.free.keys.map .free ++ (ownedKeys p.objects).map (fun k => .object k.1 k.2) ++
    (ownedKeys p.behaviors).map fun k => .behavior k.1 k.2

theorem functionCount_eq_length (p : Platform) : p.functionCount = p.knownKeys.length := by
  simp [functionCount, knownKeys, ownedKeys, Index.size, Index.keys, Index.values,
    List.length_flatMap, List.map_map, Function.comp_def, Nat.add_assoc]

/-- The function that is called in a way. -/
def called (p : Platform) : CallKey → Option Signature
  | .free name => p.freeFunction name
  | .object type name => owned p.objects type name
  | .behavior type name => p.behaviorFunction type name

/-- No function of a platform is held twice. -/
structure HeldOnce (p : Platform) : Prop where
  free : p.free.keys.Nodup
  objects : OwnedOnce p.objects
  behaviors : OwnedOnce p.behaviors

theorem heldOnce_empty : HeldOnce empty where
  free := .nil
  objects := ⟨.nil, nofun⟩
  behaviors := ⟨.nil, nofun⟩

theorem HeldOnce.addAll {p : Platform} (h : p.HeldOnce) (es : List Extension) :
    (p.addAll es).HeldOnce := by
  rw [addAll_eq]
  exact ⟨nodup_addFunctions h.free _, h.objects.foldl_addOwned _ _ _,
    h.behaviors.foldl_addOwned _ _ _⟩

theorem HeldOnce.nodup_knownKeys {p : Platform} (h : p.HeldOnce) : p.knownKeys.Nodup := by
  have hfree : (p.free.keys.map CallKey.free).Nodup :=
    h.free.map fun a b hab => CallKey.free.inj hab
  have hobjects : ((ownedKeys p.objects).map fun k => CallKey.object k.1 k.2).Nodup :=
    h.objects.nodup_ownedKeys.map fun a b hab => Prod.ext_iff.2 (CallKey.object.inj hab)
  have hbehaviors : ((ownedKeys p.behaviors).map fun k => CallKey.behavior k.1 k.2).Nodup :=
    h.behaviors.nodup_ownedKeys.map fun a b hab => Prod.ext_iff.2 (CallKey.behavior.inj hab)
  refine List.nodup_append.2 ⟨List.nodup_append.2 ⟨hfree, hobjects, ?_⟩, hbehaviors, ?_⟩
  · intro a ha b hb hab
    obtain ⟨_, -, rfl⟩ := List.mem_map.1 ha
    obtain ⟨_, -, rfl⟩ := List.mem_map.1 hb
    exact nomatch hab
  · intro a ha b hb hab
    obtain ⟨_, -, rfl⟩ := List.mem_map.1 hb
    rcases List.mem_append.1 ha with ha | ha
    · obtain ⟨_, -, rfl⟩ := List.mem_map.1 ha
      exact nomatch hab
    · obtain ⟨_, -, rfl⟩ := List.mem_map.1 ha
      exact nomatch hab

theorem HeldOnce.mem_knownKeys_iff {p : Platform} (h : p.HeldOnce) {key : CallKey} :
    key ∈ p.knownKeys ↔ (p.called key).isSome = true := by
  cases key with
  | free name => simp [knownKeys, called, freeFunction, Index.mem_keys_iff]
  | object type name => simp [knownKeys, called, ← h.objects.mem_ownedKeys_iff]
  | behavior type name =>
    simp [knownKeys, called, behaviorFunction, ← h.behaviors.mem_ownedKeys_iff]

/-- A function can be called in the ways that extensions declare, once they are registered. -/
theorem isSome_called_addAll_iff (es : List Extension) (key : CallKey) :
    ((empty.addAll es).called key).isSome = true ↔ key ∈ es.flatMap callKeys := by
  cases key with
  | free name =>
    have hempty : empty.freeFunction name = none := rfl
    rw [called, freeFunction_addAll, hempty, Option.or_none, isSome_lastNamed_iff]
    simp only [mem_callKeys_free_iff, List.mem_flatMap]
    grind
  | object type name =>
    have hempty : owned empty.objects type name = none := rfl
    rw [called, owned_objects_addAll, hempty, Option.or_none, isSome_lastNamed_iff]
    simp only [mem_callKeys_object_iff, objectFunctions, List.mem_flatMap, List.mem_filter,
      decide_eq_true_eq]
    grind
  | behavior type name =>
    have hempty : empty.behaviorFunction type name = none := rfl
    rw [called, behaviorFunction_addAll, hempty, Option.or_none, isSome_lastNamed_iff]
    simp only [mem_callKeys_behavior_iff, behaviorFunctions, List.mem_flatMap, List.mem_filter,
      decide_eq_true_eq]
    grind

/-- The number of functions is the number of the ways in which they can be called. -/
theorem functionCount_addAll (es : List Extension) :
    (empty.addAll es).functionCount = (es.flatMap callKeys).toFinset.card := by
  have honce := heldOnce_empty.addAll es
  rw [functionCount_eq_length, ← List.toFinset_card_of_nodup honce.nodup_knownKeys]
  congr 1
  ext key
  rw [List.mem_toFinset, List.mem_toFinset, honce.mem_knownKeys_iff, isSome_called_addAll_iff]

end Platform

end EventSheet

import EventSheet.Catalog.Builtin
import EventSheet.Catalog.Provider
import EventSheet.Index

/-!
# Platforms

A `Platform` holds the functions of all extensions registered so far, indexed by the way they are
called. Registering a name again keeps its latest declaration. `Platform.provider` gives the view of
it that checking needs; functions of the base object answer for every type that does not declare a
function of the same name.
-/

namespace EventSheet

/-- The registered functions, by the way they are called. -/
structure Platform where
  /-- The names of the extensions, in the order of registration. -/
  extensions : List String
  free : Index Signature
  /-- Functions of objects, by object type and then by name. -/
  objects : Index (Index Signature)
  /-- Functions of behaviors, by behavior type and then by name. -/
  behaviors : Index (Index Signature)
  /-- Object types without their functions. -/
  objectTypes : Index ObjectType

namespace Platform

/-- The platform without extensions. -/
def empty : Platform := ⟨[], .empty, .empty, .empty, .empty⟩

/-- Adds functions to an index of them. -/
def addFunctions (functions : List Signature) (index : Index Signature) : Index Signature :=
  functions.foldl (fun index f => index.insert f.name f) index

/-- Adds the functions of a type to the functions that are there by type. -/
def addOwned (owner : String) (functions : List Signature) (index : Index (Index Signature)) :
    Index (Index Signature) :=
  index.update owner fun known => addFunctions functions (known.getD .empty)

/-- Adds an object type. The base object has an entry only for what it lacks. -/
def addObjectType (t : ObjectType) (index : Index ObjectType) : Index ObjectType :=
  if t.name = baseObjectType ∧ t.unsupportedCapabilities = [] then index
  else index.insert t.name { t with functions := [] }

/-- Registers an extension. -/
def add (p : Platform) (e : Extension) : Platform where
  extensions := p.extensions ++ [e.name]
  free := addFunctions e.functions p.free
  objects := e.objects.foldl (fun index t => addOwned t.name t.functions index) p.objects
  behaviors := e.behaviors.foldl (fun index t => addOwned t.name t.functions index) p.behaviors
  objectTypes := e.objects.foldl (fun index t => addObjectType t index) p.objectTypes

/-- Registers extensions in order. -/
def addAll (p : Platform) (es : List Extension) : Platform := es.foldl add p

/-- The platform with the built-in extensions. -/
def builtin : Platform := empty.addAll builtinExtensions

/-- A function called on its own. -/
def freeFunction (p : Platform) (name : String) : Option Signature := p.free.find? name

/-- A function of the given type among functions by type. -/
def owned (index : Index (Index Signature)) (owner name : String) : Option Signature :=
  (index.find? owner).bind (·.find? name)

/-- A function called on an object, of its type or of the base object. -/
def objectFunction (p : Platform) (type name : String) : Option Signature :=
  owned p.objects type name <|> owned p.objects baseObjectType name

/-- A function called on a behavior. -/
def behaviorFunction (p : Platform) (type name : String) : Option Signature :=
  owned p.behaviors type name

/-- What is declared of an object type. -/
def objectType (p : Platform) (type : String) : Option ObjectType := p.objectTypes.find? type

/-- The number of functions. -/
def functionCount (p : Platform) : Nat :=
  p.free.size + (p.objects.values.flatMap Index.keys).length +
    (p.behaviors.values.flatMap Index.keys).length

/-- The platform as checking sees it. -/
def provider (p : Platform) : Provider :=
  ⟨p.freeFunction, p.objectFunction, p.behaviorFunction, p.objectType⟩

end Platform

end EventSheet

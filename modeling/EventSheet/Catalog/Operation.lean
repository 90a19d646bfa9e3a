import EventSheet.Catalog.Loading

/-!
# Operations on platforms

What can be done with a platform, one thing after another: starting over, loading catalogs and
registering extensions. An operation changes the platform in place and may fail, and no change is
taken back because of a failure. That nothing has changed when an operation fails is up to the order
of its steps: every extension of a catalog is registered after all of the catalog was read.
-/

namespace EventSheet

/-- Changes a platform in place. What was changed before a failure stays changed. -/
abbrev Registration (α : Type) := ExceptT LoadError (StateM Platform) α

/-- Something that is done with a platform. -/
inductive Operation
  /-- Starts over without extensions. -/
  | clear
  /-- Starts over with the built-in extensions. -/
  | restore
  /-- Starts over with the extensions of a catalog text. -/
  | replace (text : String)
  /-- Loads a catalog file. What the file holds comes with it, or why it cannot be read. -/
  | load (path : String) (content : Except String String)
  /-- Registers an extension. -/
  | add (e : Extension)

namespace Operation

/-- Does an operation. -/
def perform : Operation → Registration Unit
  | clear => set Platform.empty
  | restore => set Platform.builtin
  | replace text => do set (← Platform.empty.load inlineOrigin text)
  | load path (.error reason) => throw (.unreadable path reason)
  | load path (.ok text) => do
    let es ← readCatalog path text
    es.forM fun e => modify (·.add e)
  | add e => modify (·.add e)

/-- Whether an operation on a platform succeeds, and the platform after it. -/
def outcome (p : Platform) (op : Operation) : Except LoadError Unit × Platform :=
  op.perform.run p

end Operation

/-- The platform after an operation, whether it succeeds or not. -/
def Platform.after (p : Platform) (op : Operation) : Platform := (op.outcome p).2

/-- The platform after some operations, which do not stop at one that fails. -/
def Platform.afterAll (p : Platform) (ops : List Operation) : Platform := ops.foldl after p

end EventSheet

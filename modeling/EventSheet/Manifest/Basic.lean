import EventSheet.Manifest.Declarations
import EventSheet.Path
import EventSheet.Toml.Parser

/-!
# Project manifests

The manifest of a project lists catalogs of functions and declares objects: those of the whole
project and those of the scene at hand. It is a TOML document in which everything may be left out.
Catalogs are named by paths relative to the directory of the manifest.
-/

namespace EventSheet

/-- What a manifest says. -/
structure Manifest where
  /-- The paths of catalogs, as they are written. -/
  catalogs : List String
  /-- Whether the built-in extensions are registered. -/
  builtins : Bool
  project : Declarations
  scene : Declarations

namespace Manifest

/-- Reads a manifest from the object that a document is. -/
def ofJson? (j : Json) : Option Manifest := do
  let fields ← j.record? .ignored ["metadata", "builtins", "global", "scene"]
  return ⟨← fields.optional "metadata" [] (Json.list? Json.text?),
    ← fields.optional "builtins" true Json.bool?,
    ← fields.optional "global" .empty (Declarations.ofJson? .ignored),
    ← fields.optional "scene" .empty (Declarations.ofJson? .ignored)⟩

/-- Reads a manifest. -/
def parse? (text : String) : Option Manifest := (Toml.parse? text).bind ofJson?

/-- The paths of the catalogs, for a manifest in the given directory. -/
def catalogPaths (m : Manifest) (directory : String) : List String :=
  m.catalogs.map (joinPath directory)

/-- The declared objects. -/
def scope (m : Manifest) : Scope := ⟨m.project, m.scene⟩

end Manifest

end EventSheet

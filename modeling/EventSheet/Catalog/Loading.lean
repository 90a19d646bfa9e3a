import EventSheet.Catalog.Json
import EventSheet.Catalog.Platform
import EventSheet.Json.Parser

/-!
# Loading catalogs

Reads the text of a catalog and registers its extensions. A text whose leading value is no catalog
is told apart from a text that is not JSON; what follows the value is looked at only when the value
is a catalog. Nothing is registered unless the whole text is right.
-/

namespace EventSheet

/-- Why a catalog cannot be loaded. Each cause names the place the catalog comes from. -/
inductive LoadError
  | unreadable (path reason : String)
  | notJson (origin : String)
  | misfit (origin : String)
  deriving DecidableEq

/-- How the failure to load a catalog is worded. -/
def LoadError.message : LoadError → String
  | unreadable path reason => s!"cannot read metadata catalog {path}: {reason}"
  | notJson origin => s!"invalid metadata catalog {origin}: not valid JSON"
  | misfit origin =>
    s!"invalid metadata catalog {origin}: data did not match any variant of untagged enum Catalog"

/-- Where a catalog comes from that is no file. -/
def inlineOrigin : String := "<inline>"

/-- The extensions of a catalog text. -/
def readCatalog (origin text : String) : Except LoadError (List Extension) :=
  match Json.leading? text with
  | none => .error (.notJson origin)
  | some (j, rest) =>
    match catalogOfJson? j with
    | none => .error (.misfit origin)
    | some es => if rest = [] then .ok es else .error (.notJson origin)

/-- Registers the extensions of a catalog text on top of those of a platform. -/
def Platform.load (p : Platform) (origin text : String) : Except LoadError Platform :=
  (readCatalog origin text).map p.addAll

end EventSheet

import EventSheet.Catalog.Loading
import EventSheet.CommandLine.Arguments
import EventSheet.CommandLine.FileTree
import EventSheet.Expr.Dump
import EventSheet.Manifest.Basic
import EventSheet.Report.Json

/-!
# Running a command

What the program writes and how it ends, for any way of reading files. A check first puts together
what it checks against: the built-in extensions, the catalogs of the manifest and those named on the
command line, later definitions winning, and the objects that the manifest declares. Nothing is
checked when any of these cannot be had; the first failure is all that is reported then.
-/

namespace EventSheet

/-- What a run of the program leaves behind: how it ends and what it writes. -/
structure Outcome where
  exitCode : Nat
  output : String
  errors : String
  deriving DecidableEq

/-- What keeps a check from starting. -/
inductive SetupError
  | unreadableManifest (path reason : String)
  | invalidManifest (path : String)
  | catalog (error : LoadError)
  deriving DecidableEq

/-- How the failure to start is worded. -/
def SetupError.message : SetupError → String
  | unreadableManifest path reason => s!"failed to read {path}: {reason}"
  | invalidManifest path => s!"failed to parse manifest {path}: not a valid manifest"
  | catalog error => error.message

/-- The failure to start as JSON. -/
def SetupError.toJson (e : SetupError) : Json :=
  .object [.mk "code" (.string "setup_error"), .mk "file" (.string ""), .mk "fix" .null,
    .mk "message" (.string e.message), .mk "severity" (.string Severity.error.name),
    .mk "spans" (.array [])]

/-- Lines of text, each one ended. -/
def endLines (ls : List String) : String := String.join (ls.map (· ++ "\n"))

/-- The name under which an expression of the command line is reported. -/
def expressionFile : String := "<expression>"

/-- The end of a run whose arguments cannot be understood. -/
def usageFailure : Outcome := ⟨2, "", "error: the arguments cannot be understood\n"⟩

section Setup

variable {m : Type → Type} [Monad m] (read : String → m (Except ReadError String))

/-- Reads the manifest, if there is one. -/
def loadManifest : Option String → m (Except SetupError (Option Manifest))
  | none => return .ok none
  | some path => do
    match ← read path with
    | .error e => return .error (.unreadableManifest path e.reason)
    | .ok text =>
      match Manifest.parse? text with
      | none => return .error (.invalidManifest path)
      | some manifest => return .ok (some manifest)

/-- Loads catalogs in order on top of a platform. -/
def loadCatalogs (p : Platform) : List String → m (Except SetupError Platform)
  | [] => return .ok p
  | path :: rest => do
    match ← read path with
    | .error e => return .error (.catalog (.unreadable path e.reason))
    | .ok text =>
      match p.load path text with
      | .error e => return .error (.catalog e)
      | .ok p => loadCatalogs p rest

/-- The catalogs of the manifest, resolved against its directory, and those of the options. -/
def catalogPaths (o : CheckOptions) (manifest : Option Manifest) : List String :=
  (match manifest, o.project with
    | some manifest, some path => manifest.catalogPaths (parentDirectory path)
    | _, _ => []) ++ o.catalogs

/-- The platform before any catalog is loaded. -/
def startPlatform (o : CheckOptions) (manifest : Option Manifest) : Platform :=
  if !o.noBuiltins && (manifest.map (·.builtins)).getD true then .builtin else .empty

/-- Puts together what expressions are checked against. -/
def loadContext (o : CheckOptions) : m (Except SetupError Context) := do
  match ← loadManifest read o.project with
  | .error e => return .error e
  | .ok manifest =>
    match ← loadCatalogs read (startPlatform o manifest) (catalogPaths o manifest) with
    | .error e => return .error e
    | .ok platform =>
      return .ok ⟨platform.provider, (manifest.map Manifest.scope).getD .empty⟩

end Setup

/-- The end of a check that could not start. -/
def setupFailure (json : Bool) (e : SetupError) : Outcome :=
  ⟨1, "", if json then endLines [e.toJson.compact] else endLines ["error: " ++ e.message]⟩

/-- The end of a check of an expression. -/
def checkOutcome (json : Bool) (ctx : Context) (expected : SemanticType) (expression : String) :
    Outcome :=
  let r := checkText ctx expected expression
  let exitCode := if r.hasErrors then 1 else 0
  if json then
    ⟨exitCode, endLines [r.summary.compact],
      endLines (jsonLines r.diagnostics expression expressionFile)⟩
  else ⟨exitCode, endLines ["type: " ++ r.type.name], endLines (r.diagnostics.map (·.display))⟩

/-- A token on one line. -/
def Token.display (t : Token) : String :=
  s!"{t.kind.label} {Text.quoted t.text} {t.span.start}..{t.span.stop}"

/-- The listing of the tokens of an expression. -/
def tokensOutcome (expression : String) : Outcome :=
  ⟨0, endLines ((Token.tokenize expression).map (·.display)), ""⟩

/-- The listing of the tree of an expression. -/
def treeOutcome (expression : String) : Outcome :=
  let p := parse expression
  ⟨if p.ok then 0 else 1, endLines p.root.dump, endLines (p.diagnostics.map (·.display))⟩

/-- Runs a command. -/
def Command.run {m : Type → Type} [Monad m] (read : String → m (Except ReadError String)) :
    Command → m Outcome
  | .tokens expression => return tokensOutcome expression
  | .tree expression => return treeOutcome expression
  | .check expression o => do
    match ← loadContext read o with
    | .error e => return setupFailure o.json e
    | .ok ctx => return checkOutcome o.json ctx o.expected expression

/-- Runs the program on its arguments. -/
def run {m : Type → Type} [Monad m] (read : String → m (Except ReadError String))
    (arguments : List String) : m Outcome :=
  match Request.ofArguments? arguments with
  | none => return usageFailure
  | some (.help topic) => return ⟨0, endLines topic.lines, ""⟩
  | some .version => return ⟨0, endLines [versionLine], ""⟩
  | some (.command command) => command.run read

end EventSheet

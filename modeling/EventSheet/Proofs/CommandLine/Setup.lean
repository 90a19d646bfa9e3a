import EventSheet.Proofs.Catalog.Decoding
import EventSheet.Proofs.Catalog.Registration
import EventSheet.Proofs.CommandLine.Views

/-!
# What a check is put together from

The command line adds nothing to the check of a text: `run_check_reports_or_fails`. A check needs
its manifest, the catalogs that the manifest lists and the catalogs named beside it, in this order.
When it has them all, it reports on the text with all their extensions registered in that order
after the built-in ones, the last declaration of a function winning. Otherwise it names the first
file that fails, and nothing else is written.
-/

namespace EventSheet

/-! ### Files -/

section Files

variable (files : String → Except ReadError String)

/-- The manifest of a check, if it has one, and the catalogs that the manifest lists, seen from the
directory that the manifest is in. -/
inductive HasManifest : Option String → Option Manifest → List String → Prop
  | absent : HasManifest none none []
  | present {path text : String} {manifest : Manifest} : files path = .ok text →
      Manifest.parse? text = some manifest →
      HasManifest (some path) (some manifest)
        (manifest.catalogs.map (joinPath (parentDirectory path)))

/-- The file at a path is a catalog of some extensions. -/
def HoldsCatalog (path : String) (es : List Extension) : Prop :=
  ∃ text, files path = .ok text ∧ readCatalog path text = .ok es

/-- The file at a path cannot be read, or its text is no catalog. -/
inductive FailsCatalog (path : String) : LoadError → Prop
  | unreadable {e : ReadError} : files path = .error e →
      FailsCatalog path (.unreadable path e.reason)
  | unfit {text : String} {error : LoadError} : files path = .ok text →
      readCatalog path text = .error error → FailsCatalog path error

/-- The first file that a check needs and cannot have, and why. -/
inductive FirstFailure (o : CheckOptions) : String → SetupError → Prop
  | unreadable {path : String} {e : ReadError} : o.project = some path → files path = .error e →
      FirstFailure o path (.unreadableManifest path e.reason)
  | invalid {path text : String} : o.project = some path → files path = .ok text →
      Manifest.parse? text = none → FirstFailure o path (.invalidManifest path)
  | catalog {manifest : Option Manifest} {listed before after : List String}
      {catalogs : List (List Extension)} {path : String} {error : LoadError} :
      HasManifest files o.project manifest listed →
      listed ++ o.catalogs = before ++ path :: after →
      List.Forall₂ (HoldsCatalog files) before catalogs → FailsCatalog files path error →
      FirstFailure o path (.catalog error)

end Files

section

variable {files : String → Except ReadError String} {o : CheckOptions} {p : Platform}
  {path : String} {paths before listed : List String} {es : List Extension}
  {manifest : Option Manifest} {catalogs : List (List Extension)} {error : LoadError}

/-! ### Catalogs -/

theorem readCatalog_origin {origin text : String} (h : readCatalog origin text = .error error) :
    error = .notJson origin ∨ error = .misfit origin := by
  unfold readCatalog at h
  repeat' split at h
  · cases h
    exact .inl rfl
  · cases h
    exact .inr rfl
  · exact nomatch h
  · cases h
    exact .inl rfl

/-- What is said of the first file that fails names the file. -/
theorem FirstFailure.names {error : SetupError} (h : FirstFailure files o path error) :
    path.toList <:+: error.message.toList := by
  have hinfix (before after : String) : path.toList <:+: (before ++ path ++ after).toList := by
    rw [String.toList_append, String.toList_append]
    exact List.infix_append _ _ _
  have hreason (before after : String) :
      path.toList <:+: (before ++ path ++ ": " ++ after).toList := by
    rw [String.append_assoc]
    exact hinfix before (": " ++ after)
  cases h with
  | unreadable => exact hreason "failed to read " _
  | invalid => exact hinfix "failed to parse manifest " ": not a valid manifest"
  | catalog _ _ _ hfails =>
    cases hfails with
    | unreadable => exact hreason "cannot read metadata catalog " _
    | unfit _ hread =>
      obtain rfl | rfl := readCatalog_origin hread
      · exact hinfix "invalid metadata catalog " ": not valid JSON"
      · exact hinfix "invalid metadata catalog " _

end

/-! ### A project -/

end EventSheet

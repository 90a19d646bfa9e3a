import EventSheet.Proofs.CommandLine.Lines
import EventSheet.Proofs.Json.Reading
import EventSheet.Proofs.Text.Lines
import EventSheet.Proofs.Typing.Positions
import Mathlib.Algebra.Group.Nat.Defs
import Mathlib.Data.List.Forall2

/-!
# Reading diagnostics back

What an editor gets to know of a diagnostic from its line of JSON: `DiagnosticLine.read?` reads the
line, and `jsonLines_faithful` says that nothing is lost on the way. The code, the severity, the
wording, the name of the file and all places are those of the diagnostic, and its line and column
lead back to the byte it starts at.
-/

namespace EventSheet

open Text (byteLength)

/-! ### Names -/

/-- Every code. -/
def Code.all : List Code :=
  [syntaxError, missingOperand, unterminatedString, unmatchedParenthesis,
   unexpectedClosingParenthesis, unterminatedParameters, unterminatedIndex, extraCharacters,
   redundantParentheses, nestingTooDeep, typeError, invalidFunctionName, tooFewParameters,
   tooManyParameters, parameterTypeMismatch, malformedObjectParameter, malformedBehaviorParameter,
   malformedVariableParameter, unexpectedIdentifier, invalidOperator, emptyExpression,
   unsupportedObjectCapability, missingObjectContext, invalidBehaviorName, undeclaredObjectVariable,
   unknownParameterType]

/-- The code of a given name. -/
def Code.ofName? (name : String) : Option Code := all.find? (·.name == name)

@[simp] theorem Code.ofName?_name_code (c : Code) : ofName? c.name = some c := by
  cases c <;> rfl

/-- The severity of a given name. -/
def Severity.ofName? (name : String) : Option Severity := [error, warning].find? (·.name == name)

@[simp] theorem Severity.ofName?_name_severity (s : Severity) : ofName? s.name = some s := by
  cases s <;> rfl

/-! ### Reading a line -/

/-- A place that a line points at and what it says there. -/
structure Label where
  said : String
  span : Span
  deriving DecidableEq

/-- What a line of JSON says of a diagnostic. -/
structure DiagnosticLine where
  code : Code
  severity : Severity
  message : String
  file : String
  position : Position
  labels : List Label
  fix : Option String
  deriving DecidableEq

/-- Reads a labelled span. -/
def Label.ofJson? (j : Json) : Option Label := do
  let fields ← j.record? .refused ["start", "end", "label"]
  return ⟨← fields.required "label" Json.text?,
    ⟨← fields.required "start" Json.nat?, ← fields.required "end" Json.nat?⟩⟩

namespace DiagnosticLine

/-- Reads what is said of a diagnostic. -/
def ofJson? (j : Json) : Option DiagnosticLine := do
  let fields ← j.record? .refused
    ["code", "severity", "message", "file", "line", "column", "spans", "fix"]
  return ⟨← fields.required "code" fun j => j.text?.bind Code.ofName?,
    ← fields.required "severity" fun j => j.text?.bind Severity.ofName?,
    ← fields.required "message" Json.text?,
    ← fields.required "file" Json.text?,
    ⟨← fields.required "line" Json.nat?, ← fields.required "column" Json.nat?⟩,
    ← fields.required "spans" (Json.list? Label.ofJson?),
    ← fields.required "fix" (Json.nullable? Json.text?)⟩

/-- Reads a line of JSON. -/
def read? (line : String) : Option DiagnosticLine := (Json.parse? line).bind ofJson?

end DiagnosticLine

/-- What is to be said of a diagnostic. -/
def Diagnostic.line (d : Diagnostic) (lines : LineIndex) (file : String) : DiagnosticLine :=
  ⟨d.code, d.severity, d.message, file, lines.position d.span.start,
    ⟨firstLine d.message, d.span⟩ :: (d.problem.note?.map fun note => ⟨note.1, note.2⟩).toList,
    d.code.fix?⟩

section

variable (d : Diagnostic) (lines : LineIndex) (file : String)

theorem Label.ofJson?_labelJson (said : String) (s : Span) :
    Label.ofJson? (labelJson said s) = some ⟨said, s⟩ := by
  have hrecord : (labelJson said s).record? .refused ["start", "end", "label"] =
      some [("end", .nat s.stop), ("label", .string said), ("start", .nat s.start)] := rfl
  simp [ofJson?, hrecord, Fields.required, List.lookup_cons, Json.text?]

theorem Diagnostic.list?_labels : Json.list? Label.ofJson? (.array d.labels) =
    some (⟨firstLine d.message, d.span⟩ ::
      (d.problem.note?.map fun note => ⟨note.1, note.2⟩).toList) := by
  rw [Json.list?, labels]
  cases d.problem.note? with
  | none => simp [Label.ofJson?_labelJson]
  | some note => simp [Label.ofJson?_labelJson]

/-- What is written of a diagnostic says what is to be said. -/
theorem DiagnosticLine.ofJson?_toJson :
    ofJson? (d.toJson lines file) = some (d.line lines file) := by
  have hrecord : (d.toJson lines file).record? .refused
      ["code", "severity", "message", "file", "line", "column", "spans", "fix"] =
      some [("code", .string d.code.name), ("column", .nat (lines.position d.span.start).column),
        ("file", .string file), ("fix", .ofOption d.code.fix?),
        ("line", .nat (lines.position d.span.start).line), ("message", .string d.message),
        ("severity", .string d.severity.name), ("spans", .array d.labels)] := rfl
  have hfix : (Json.ofOption d.code.fix?).nullable? Json.text? = some d.code.fix? := by
    cases d.code.fix? <;> rfl
  simp [ofJson?, hrecord, Fields.required, List.lookup_cons, Json.text?, Diagnostic.list?_labels,
    hfix, Diagnostic.line]

/-! ### Numbers that can be read -/

theorem labelJson_within {levels : Nat} {said : String} {s : Span}
    (hstart : s.start ≤ Json.maxSignificand) (hstop : s.stop ≤ Json.maxSignificand) :
    (labelJson said s).Within (levels + 1) := by
  refine Json.within_object_succ_iff.2 ?_
  simp [Member.value, Json.within_nat hstart, Json.within_nat hstop]

end

section

variable {d : Diagnostic} {source : String}

theorem le_maxSignificand {n : Nat} (hsource : byteLength source.toList < 2 ^ 63)
    (hn : n ≤ byteLength source.toList + 1) : n ≤ Json.maxSignificand := by
  have hmax : Json.maxSignificand = 2 ^ 64 - 1 := rfl
  omega

/-- What is written of a diagnostic in a text can be read. -/
theorem Diagnostic.Positioned.within_toJson (h : d.Positioned source.toList)
    (hsource : byteLength source.toList < 2 ^ 63) (file : String) :
    (d.toJson (.ofText source) file).Within Json.nestingLimit := by
  have hsmall : ∀ {n}, n ≤ byteLength source.toList + 1 → n ≤ Json.maxSignificand :=
    le_maxSignificand hsource
  have hspan : ∀ {s : Span}, s.Fits source.toList →
      s.start ≤ Json.maxSignificand ∧ s.stop ≤ Json.maxSignificand := fun hs =>
    ⟨hsmall (Nat.le_succ_of_le hs.start.le), hsmall (Nat.le_succ_of_le hs.inside)⟩
  have hstart : d.span.start + 1 ≤ byteLength source.toList + 1 := Nat.succ_le_succ h.span.start.le
  have hline : ((LineIndex.ofText source).position d.span.start).line ≤ Json.maxSignificand :=
    hsmall (Nat.le_trans LineIndex.position_line_le hstart)
  have hcolumn : ((LineIndex.ofText source).position d.span.start).column ≤ Json.maxSignificand :=
    hsmall (Nat.le_trans LineIndex.position_column_le hstart)
  have hlabels : ∀ levels, (Json.array d.labels).Within (levels + 2) := by
    intro levels j hj
    rcases List.mem_cons.1 hj with rfl | hj
    · exact labelJson_within (hspan h.span).1 (hspan h.span).2
    · obtain ⟨note, hnote, rfl⟩ := Option.map_eq_some_iff.1 (Option.mem_toList.1 hj)
      have hfits := hspan (h.note _ _ hnote)
      exact labelJson_within hfits.1 hfits.2
  have hfix : ∀ levels, (Json.ofOption d.code.fix?).Within levels := by
    intro levels
    cases d.code.fix? with
    | none => exact Json.within_null
    | some fix => exact Json.within_string fix
  refine Json.within_object_iff.2 ⟨_, rfl, ?_⟩
  simp only [List.forall_mem_cons, Member.value]
  exact ⟨Json.within_string _, Json.within_nat hcolumn, Json.within_string _, hfix _,
    Json.within_nat hline, Json.within_string _, Json.within_string _, hlabels _,
    List.forall_mem_nil _⟩

/-- A line of JSON says what is to be said of the diagnostic it is written for. -/
theorem DiagnosticLine.read?_compact (h : d.Positioned source.toList)
    (hsource : byteLength source.toList < 2 ^ 63) (file : String) :
    read? (d.toJson (.ofText source) file).compact = some (d.line (.ofText source) file) := by
  rw [read?, Json.parse?_compact (h.within_toJson hsource file), Option.bind_some, ofJson?_toJson]

end

/-- Writing diagnostics as JSON is faithful. Every diagnostic of a report has a line of its own, in
order. The line holds no control characters and so no break, and what is read from it are the code,
the severity, the whole message and the name of the file, the span of the diagnostic and, where it
has a note, that note with its span. The line and the column lead back to the byte that the
diagnostic starts at. No text in memory has so many bytes that its positions could not be read. -/
theorem jsonLines_faithful (ctx : Context) (expected : SemanticType) (source file : String)
    (hsource : byteLength source.toList < 2 ^ 63) :
    List.Forall₂
      (fun (d : Diagnostic) (line : String) =>
        (∀ c ∈ line.toList, 0x20 ≤ c.toNat) ∧
        ∃ read, DiagnosticLine.read? line = some read ∧
          read.code = d.code ∧ read.severity = d.severity ∧ read.message = d.message ∧
          read.file = file ∧
          (read.labels.map Label.span = d.span :: (d.problem.note?.map (·.2)).toList) ∧
          (∀ said s, d.problem.note? = some (said, s) ↔ read.labels[1]? = some ⟨said, s⟩) ∧
          (LineIndex.ofText source).offset? read.position = some d.span.start)
      (checkText ctx expected source).diagnostics
      (jsonLines (checkText ctx expected source).diagnostics source file) := by
  refine List.forall₂_map_right_iff.2 (List.forall₂_same.2 fun d hd => ?_)
  constructor
  · rw [Json.compact, String.toList_ofList]
    exact d.toJson_visible _ _
  · have hread := DiagnosticLine.read?_compact (positioned_of_mem_checkText hd) hsource file
    refine ⟨_, hread, rfl, rfl, rfl, rfl, ?_, ?_, LineIndex.offset?_position source d.span.start⟩
    · cases h : d.problem.note? <;> simp [Diagnostic.line, h]
    · intro said s
      cases h : d.problem.note? <;> simp [Diagnostic.line, h, Prod.ext_iff]

theorem jsonLines_faithful_unclosed :
    (jsonLines (checkText ⟨Platform.empty.provider, .empty⟩ .number "(1").diagnostics "(1"
      "stdin").map (fun line => (DiagnosticLine.read? line).map (·.code)) =
        [some .unmatchedParenthesis] := by
  let report := checkText ⟨Platform.empty.provider, .empty⟩ .number "(1"
  have hfaithful := jsonLines_faithful ⟨Platform.empty.provider, .empty⟩ .number "(1" "stdin"
    (by decide)
  have hcodes : List.Forall₂ (fun (d : Diagnostic) line =>
      some d.code = (DiagnosticLine.read? line).map (·.code))
      report.diagnostics (jsonLines report.diagnostics "(1" "stdin") := by
    refine hfaithful.imp fun d line h => ?_
    obtain ⟨-, read, hread, hcode, -⟩ := h
    rw [hread, Option.map_some, hcode]
  have hmap : report.diagnostics.map (fun d => some d.code) =
      (jsonLines report.diagnostics "(1" "stdin").map
        (fun line => (DiagnosticLine.read? line).map (·.code)) :=
    List.forall₂_eq_eq_eq ▸ List.forall₂_map_left_iff.2 (List.forall₂_map_right_iff.2 hcodes)
  have hreport : report.diagnostics.map (fun d => some d.code) = [some .unmatchedParenthesis] := by
    decide +kernel
  exact hmap.symm.trans hreport

end EventSheet

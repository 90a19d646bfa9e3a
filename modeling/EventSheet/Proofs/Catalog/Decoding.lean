import EventSheet.Catalog.Loading
import EventSheet.Proofs.Json.Reading
import EventSheet.Proofs.Json.Records

/-!
# Catalogs read back

What may be written for the records of a catalog, and that reading it gives the records back. Fields
that hold their default may be left out, and fields that a record does not know may be added; a list
of one extension may be written as that extension. So a written catalog gives the platform on which
its extensions are registered one after another: `Platform.load_written`.
-/

namespace EventSheet

open Json (Field RecordOf ListOf Within)

/-! ### What may be written -/

/-- The fields of a parameter. -/
def Parameter.fields (p : Parameter) : List Field :=
  [⟨"type", False, (· = .string p.kind)⟩,
    ⟨"optional", p.optional = false, (· = .bool p.optional)⟩,
    ⟨"codeOnly", p.codeOnly = false, (· = .bool p.codeOnly)⟩,
    ⟨"description", p.description = "", (· = .string p.description)⟩]

/-- The fields of a function. -/
def Signature.fields (s : Signature) : List Field :=
  [⟨"name", False, (· = .string s.name)⟩,
    ⟨"returnType", False, (· = .string s.returnKind)⟩,
    ⟨"parameters", s.parameters = [], ListOf (fun p => RecordOf p.fields) s.parameters⟩,
    ⟨"requiredBaseObjectCapability", s.requiredCapability = none,
      (· = .ofOption s.requiredCapability)⟩,
    ⟨"description", s.description = "", (· = .string s.description)⟩]

/-- The fields of an object type. -/
def ObjectType.fields (t : ObjectType) : List Field :=
  [⟨"type", False, (· = .string t.name)⟩,
    ⟨"expressions", t.functions = [], ListOf (fun s => RecordOf s.fields) t.functions⟩,
    ⟨"unsupportedBaseObjectCapabilities", t.unsupportedCapabilities = [],
      ListOf (fun s j => j = .string s) t.unsupportedCapabilities⟩]

/-- The fields of a behavior type. -/
def BehaviorType.fields (t : BehaviorType) : List Field :=
  [⟨"type", False, (· = .string t.name)⟩,
    ⟨"expressions", t.functions = [], ListOf (fun s => RecordOf s.fields) t.functions⟩]

/-- The fields of an extension. -/
def Extension.fields (e : Extension) : List Field :=
  [⟨"name", False, (· = .string e.name)⟩,
    ⟨"expressions", e.functions = [], ListOf (fun s => RecordOf s.fields) e.functions⟩,
    ⟨"objects", e.objects = [], ListOf (fun t => RecordOf t.fields) e.objects⟩,
    ⟨"behaviors", e.behaviors = [], ListOf (fun t => RecordOf t.fields) e.behaviors⟩]

/-- The one field of a list of extensions. -/
def catalogFields (es : List Extension) : List Field :=
  [⟨"extensions", False, ListOf (fun e => RecordOf e.fields) es⟩]

/-- A value is written for some extensions: a list of them, or a single one by itself. What is
written for a single one has no field `extensions`. -/
def CatalogOf (es : List Extension) (j : Json) : Prop :=
  RecordOf (catalogFields es) j ∨
    ∃ e members, es = [e] ∧ j = .object members ∧ RecordOf e.fields j ∧
      ∀ m ∈ members, m.key ≠ "extensions"

/-! ### Reading it -/

section Reading

variable {j : Json}

theorem text?_of_eq {s : String} (h : j = .string s) : j.text? = some s := by
  rw [h]
  rfl

theorem bool?_of_eq {b : Bool} (h : j = .bool b) : j.bool? = some b := by
  rw [h]
  rfl

theorem nullable?_text?_of_eq {s : Option String} (h : j = .ofOption s) :
    j.nullable? Json.text? = some s := by
  rw [h]
  cases s <;> rfl

theorem Parameter.ofJson?_of_record {p : Parameter} (h : RecordOf p.fields j) :
    Parameter.ofJson? j = some p := by
  obtain ⟨fs, hrecord, hfound⟩ : ∃ fs,
      j.record? .refused ["type", "optional", "codeOnly", "description"] = some fs ∧
        ∀ f ∈ p.fields, f.FoundIn fs := h.exists_fields .refused
  simp only [fields, List.forall_mem_cons] at hfound
  obtain ⟨htype, hoptional, hcodeOnly, hdescription, -⟩ := hfound
  have htype : fs.required "type" Json.text? = some p.kind := htype.required id text?_of_eq
  have hoptional : fs.optional "optional" false Json.bool? = some p.optional :=
    hoptional.optional id bool?_of_eq
  have hcodeOnly : fs.optional "codeOnly" false Json.bool? = some p.codeOnly :=
    hcodeOnly.optional id bool?_of_eq
  have hdescription : fs.optional "description" "" Json.text? = some p.description :=
    hdescription.optional id text?_of_eq
  simp [ofJson?, hrecord, htype, hoptional, hcodeOnly, hdescription]

theorem Signature.ofJson?_of_record {s : Signature} (h : RecordOf s.fields j) :
    Signature.ofJson? j = some s := by
  obtain ⟨fs, hrecord, hfound⟩ : ∃ fs,
      j.record? .refused
          ["name", "returnType", "parameters", "requiredBaseObjectCapability", "description"] =
        some fs ∧ ∀ f ∈ s.fields, f.FoundIn fs := h.exists_fields .refused
  simp only [fields, List.forall_mem_cons] at hfound
  obtain ⟨hname, hreturn, hparameters, hcapability, hdescription, -⟩ := hfound
  have hname : fs.required "name" Json.text? = some s.name := hname.required id text?_of_eq
  have hreturn : fs.required "returnType" Json.text? = some s.returnKind :=
    hreturn.required id text?_of_eq
  have hparameters : fs.optional "parameters" [] (Json.list? Parameter.ofJson?) =
      some s.parameters :=
    hparameters.optional id fun h => h.list? Parameter.ofJson?_of_record
  have hcapability : fs.optional "requiredBaseObjectCapability" none
      (Json.nullable? Json.text?) = some s.requiredCapability :=
    hcapability.optional id nullable?_text?_of_eq
  have hdescription : fs.optional "description" "" Json.text? = some s.description :=
    hdescription.optional id text?_of_eq
  simp [ofJson?, hrecord, hname, hreturn, hparameters, hcapability, hdescription]

theorem ObjectType.ofJson?_of_record {t : ObjectType} (h : RecordOf t.fields j) :
    ObjectType.ofJson? j = some t := by
  obtain ⟨fs, hrecord, hfound⟩ : ∃ fs,
      j.record? .refused ["type", "expressions", "unsupportedBaseObjectCapabilities"] = some fs ∧
        ∀ f ∈ t.fields, f.FoundIn fs := h.exists_fields .refused
  simp only [fields, List.forall_mem_cons] at hfound
  obtain ⟨htype, hfunctions, hcapabilities, -⟩ := hfound
  have htype : fs.required "type" Json.text? = some t.name := htype.required id text?_of_eq
  have hfunctions : fs.optional "expressions" [] (Json.list? Signature.ofJson?) =
      some t.functions :=
    hfunctions.optional id fun h => h.list? Signature.ofJson?_of_record
  have hcapabilities : fs.optional "unsupportedBaseObjectCapabilities" []
      (Json.list? Json.text?) = some t.unsupportedCapabilities :=
    hcapabilities.optional id fun h => h.list? text?_of_eq
  simp [ofJson?, hrecord, htype, hfunctions, hcapabilities]

theorem BehaviorType.ofJson?_of_record {t : BehaviorType} (h : RecordOf t.fields j) :
    BehaviorType.ofJson? j = some t := by
  obtain ⟨fs, hrecord, hfound⟩ : ∃ fs,
      j.record? .refused ["type", "expressions"] = some fs ∧ ∀ f ∈ t.fields, f.FoundIn fs :=
    h.exists_fields .refused
  simp only [fields, List.forall_mem_cons] at hfound
  obtain ⟨htype, hfunctions, -⟩ := hfound
  have htype : fs.required "type" Json.text? = some t.name := htype.required id text?_of_eq
  have hfunctions : fs.optional "expressions" [] (Json.list? Signature.ofJson?) =
      some t.functions :=
    hfunctions.optional id fun h => h.list? Signature.ofJson?_of_record
  simp [ofJson?, hrecord, htype, hfunctions]

theorem Extension.ofJson?_of_record {e : Extension} (h : RecordOf e.fields j) :
    Extension.ofJson? j = some e := by
  obtain ⟨fs, hrecord, hfound⟩ : ∃ fs,
      j.record? .refused ["name", "expressions", "objects", "behaviors"] = some fs ∧
        ∀ f ∈ e.fields, f.FoundIn fs := h.exists_fields .refused
  simp only [fields, List.forall_mem_cons] at hfound
  obtain ⟨hname, hfunctions, hobjects, hbehaviors, -⟩ := hfound
  have hname : fs.required "name" Json.text? = some e.name := hname.required id text?_of_eq
  have hfunctions : fs.optional "expressions" [] (Json.list? Signature.ofJson?) =
      some e.functions :=
    hfunctions.optional id fun h => h.list? Signature.ofJson?_of_record
  have hobjects : fs.optional "objects" [] (Json.list? ObjectType.ofJson?) = some e.objects :=
    hobjects.optional id fun h => h.list? ObjectType.ofJson?_of_record
  have hbehaviors : fs.optional "behaviors" [] (Json.list? BehaviorType.ofJson?) =
      some e.behaviors :=
    hbehaviors.optional id fun h => h.list? BehaviorType.ofJson?_of_record
  simp [ofJson?, hrecord, hname, hfunctions, hobjects, hbehaviors]

/-- A list of extensions is read from what is written for it. -/
theorem extensionsOfJson?_of_record {es : List Extension} (h : RecordOf (catalogFields es) j) :
    extensionsOfJson? j = some es := by
  cases j with
  | object members =>
    obtain ⟨fs, hrecord, hfound⟩ : ∃ fs,
        (Json.object members).record? .refused ["extensions"] = some fs ∧
          ∀ f ∈ catalogFields es, f.FoundIn fs := h.exists_fields .refused
    have hextensions : fs.required "extensions" (Json.list? Extension.ofJson?) = some es :=
      (hfound _ (.head _)).required id fun h => h.list? Extension.ofJson?_of_record
    simp [extensionsOfJson?, hrecord, hextensions]
  | _ => exact absurd h id

/-- An object without the key `extensions` is no list of extensions. -/
theorem extensionsOfJson?_eq_none {members : List Member}
    (h : ∀ m ∈ members, m.key ≠ "extensions") :
    extensionsOfJson? (.object members) = none := by
  have hmissing : RecordOf [⟨"extensions", True, fun _ => False⟩] (.object members) := by
    intro f hf
    rw [List.mem_singleton.1 hf]
    exact .inr ⟨trivial, List.filter_eq_nil_iff.2 (by simpa using h)⟩
  obtain ⟨fs, hrecord, hfound⟩ : ∃ fs,
      (Json.object members).record? .refused ["extensions"] = some fs ∧ _ :=
    hmissing.exists_fields .refused
  rcases hfound _ (.head _) with ⟨v, hfalse, -⟩ | ⟨-, hnone⟩
  · exact hfalse.elim
  · have hnone : fs.lookup "extensions" = none := hnone
    simp [extensionsOfJson?, hrecord, Fields.required, hnone]

/-- A catalog is read from what is written for it. -/
theorem catalogOfJson?_of_catalogOf {es : List Extension} (h : CatalogOf es j) :
    catalogOfJson? j = some es := by
  rcases h with h | ⟨e, members, rfl, rfl, h, hkeys⟩
  · simp [catalogOfJson?, extensionsOfJson?_of_record h]
  · simp [catalogOfJson?, extensionsOfJson?_eq_none hkeys, Extension.ofJson?_of_record h]

end Reading

/-! ### The written form -/

theorem Parameter.recordOf_toJson (p : Parameter) : RecordOf p.fields p.toJson := by
  simp only [RecordOf, toJson, fields, List.forall_mem_cons]
  exact ⟨.inl ⟨_, rfl, rfl⟩, .inl ⟨_, rfl, rfl⟩, .inl ⟨_, rfl, rfl⟩, .inl ⟨_, rfl, rfl⟩, nofun⟩

theorem Signature.recordOf_toJson (s : Signature) : RecordOf s.fields s.toJson := by
  have hparameters := ListOf.map fun p (_ : p ∈ s.parameters) => p.recordOf_toJson
  obtain ⟨name, returnKind, parameters, capability, description⟩ := s
  simp only [RecordOf, toJson, fields, List.forall_mem_cons]
  cases capability with
  | none =>
    exact ⟨.inl ⟨_, rfl, rfl⟩, .inl ⟨_, rfl, rfl⟩, .inl ⟨_, hparameters, rfl⟩, .inr ⟨rfl, rfl⟩,
      .inl ⟨_, rfl, rfl⟩, nofun⟩
  | some c =>
    exact ⟨.inl ⟨_, rfl, rfl⟩, .inl ⟨_, rfl, rfl⟩, .inl ⟨_, hparameters, rfl⟩,
      .inl ⟨_, rfl, rfl⟩, .inl ⟨_, rfl, rfl⟩, nofun⟩

theorem ObjectType.recordOf_toJson (t : ObjectType) : RecordOf t.fields t.toJson := by
  have hfunctions := ListOf.map fun s (_ : s ∈ t.functions) => s.recordOf_toJson
  have hcapabilities : ListOf (fun s j => j = .string s) t.unsupportedCapabilities
      (.texts t.unsupportedCapabilities) := ListOf.map fun _ _ => rfl
  simp only [RecordOf, toJson, fields, List.forall_mem_cons]
  exact ⟨.inl ⟨_, rfl, rfl⟩, .inl ⟨_, hfunctions, rfl⟩, .inl ⟨_, hcapabilities, rfl⟩, nofun⟩

theorem BehaviorType.recordOf_toJson (t : BehaviorType) : RecordOf t.fields t.toJson := by
  have hfunctions := ListOf.map fun s (_ : s ∈ t.functions) => s.recordOf_toJson
  simp only [RecordOf, toJson, fields, List.forall_mem_cons]
  exact ⟨.inl ⟨_, rfl, rfl⟩, .inl ⟨_, hfunctions, rfl⟩, nofun⟩

theorem Extension.recordOf_toJson (e : Extension) : RecordOf e.fields e.toJson := by
  have hfunctions := ListOf.map fun s (_ : s ∈ e.functions) => s.recordOf_toJson
  have hobjects := ListOf.map fun t (_ : t ∈ e.objects) => t.recordOf_toJson
  have hbehaviors := ListOf.map fun t (_ : t ∈ e.behaviors) => t.recordOf_toJson
  simp only [RecordOf, toJson, fields, List.forall_mem_cons]
  exact ⟨.inl ⟨_, rfl, rfl⟩, .inl ⟨_, hfunctions, rfl⟩, .inl ⟨_, hobjects, rfl⟩,
    .inl ⟨_, hbehaviors, rfl⟩, nofun⟩

theorem catalogOf_catalogJson (es : List Extension) : CatalogOf es (catalogJson es) := by
  have hextensions := ListOf.map fun e (_ : e ∈ es) => e.recordOf_toJson
  refine .inl ?_
  simp only [RecordOf, catalogJson, catalogFields, List.forall_mem_cons]
  exact ⟨.inl ⟨_, hextensions, rfl⟩, nofun⟩

theorem catalogOf_toJson (e : Extension) : CatalogOf [e] e.toJson := by
  refine .inr ⟨e, _, rfl, rfl, e.recordOf_toJson, ?_⟩
  simp [Member.key]

/-! ### Levels of the written form -/

section Levels

variable {n : Nat}

theorem Parameter.within_toJson (p : Parameter) : Within (n + 1) p.toJson :=
  Json.within_object_succ_iff.2 (by simp [Member.value])

theorem Signature.within_toJson (s : Signature) : Within (n + 3) s.toJson := by
  have hparameters : Within (n + 2) (.array (s.parameters.map Parameter.toJson)) :=
    Json.within_map _ Parameter.within_toJson
  refine Json.within_object_succ_iff.2 ?_
  cases s.requiredCapability <;> simp [Member.value, hparameters]

theorem ObjectType.within_toJson (t : ObjectType) : Within (n + 5) t.toJson := by
  have hfunctions : Within (n + 4) (.array (t.functions.map Signature.toJson)) :=
    Json.within_map _ Signature.within_toJson
  have hcapabilities : Within (n + 4) (.texts t.unsupportedCapabilities) :=
    Json.within_map _ Json.within_string
  exact Json.within_object_succ_iff.2 (by simp [Member.value, hfunctions, hcapabilities])

theorem BehaviorType.within_toJson (t : BehaviorType) : Within (n + 5) t.toJson := by
  have hfunctions : Within (n + 4) (.array (t.functions.map Signature.toJson)) :=
    Json.within_map _ Signature.within_toJson
  exact Json.within_object_succ_iff.2 (by simp [Member.value, hfunctions])

theorem Extension.within_toJson (e : Extension) : Within (n + 7) e.toJson := by
  have hfunctions : Within (n + 6) (.array (e.functions.map Signature.toJson)) :=
    Json.within_map _ Signature.within_toJson
  have hobjects : Within (n + 6) (.array (e.objects.map ObjectType.toJson)) :=
    Json.within_map _ ObjectType.within_toJson
  have hbehaviors : Within (n + 6) (.array (e.behaviors.map BehaviorType.toJson)) :=
    Json.within_map _ BehaviorType.within_toJson
  exact Json.within_object_succ_iff.2 (by simp [Member.value, hfunctions, hobjects, hbehaviors])

theorem within_catalogJson (es : List Extension) : Within (n + 9) (catalogJson es) := by
  have hextensions : Within (n + 8) (.array (es.map Extension.toJson)) :=
    Json.within_map _ Extension.within_toJson
  exact Json.within_object_succ_iff.2 (by simp [Member.value, hextensions])

end Levels

/-! ### Whole catalogs -/

/-- Extensions are read from every text of what is written for them. -/
theorem readCatalog_of_catalogOf {es : List Extension} {j : Json} (h : CatalogOf es j)
    {text : String} (htext : Json.parse? text = some j) (origin : String) :
    readCatalog origin text = .ok es := by
  simp only [readCatalog, Json.leading?_of_parse? htext, catalogOfJson?_of_catalogOf h, if_true]

namespace Platform

/-- Extensions that are loaded from a text of what is written for them are registered one after
another. -/
theorem load_of_catalogOf (p : Platform) {es : List Extension} {j : Json} (h : CatalogOf es j)
    {text : String} (htext : Json.parse? text = some j) (origin : String) :
    p.load origin text = .ok (es.foldl add p) := by
  rw [load, readCatalog_of_catalogOf h htext]
  rfl

/-- A catalog is loaded as it was written. What is written for some extensions, or for a single one
by itself, gives the platform on which they are registered one after another. So does what is
written without fields that hold their default and with fields that no record knows, as long as it
opens no more levels than are read and its numbers are within range; and so does any other text of
it. -/
theorem load_written (es : List Extension) :
    empty.load inlineOrigin (catalogJson es).compact = .ok (es.foldl add empty) ∧
    (∀ e, es = [e] → empty.load inlineOrigin e.toJson.compact = .ok (es.foldl add empty)) ∧
    ∀ j, CatalogOf es j →
      (Within Json.nestingLimit j →
        empty.load inlineOrigin j.compact = .ok (es.foldl add empty)) ∧
      ∀ text, Json.parse? text = some j →
        empty.load inlineOrigin text = .ok (es.foldl add empty) := by
  have hload : ∀ j, CatalogOf es j → Within Json.nestingLimit j →
      empty.load inlineOrigin j.compact = .ok (es.foldl add empty) :=
    fun j h hj => load_of_catalogOf empty h (Json.parse?_compact hj) _
  refine ⟨hload _ (catalogOf_catalogJson es) (within_catalogJson es), ?_, ?_⟩
  · rintro e rfl
    exact hload _ (catalogOf_toJson e) e.within_toJson
  · intro j h
    exact ⟨hload j h, fun text htext => load_of_catalogOf empty h htext _⟩

/-- An extension by itself, with fields left out, added and in another order. -/
theorem load_written_sparse :
    let e : Extension := ⟨"Extra", [.simple "Twice" "number" []], [], []⟩
    let j : Json := .object [.mk "note" (.array [.null]),
      .mk "expressions" (.array
        [.object [.mk "returnType" (.string "number"), .mk "name" (.string "Twice")]]),
      .mk "name" (.string "Extra")]
    empty.load inlineOrigin e.toJson.compact = .ok (empty.add e) ∧
      CatalogOf [e] j ∧ Within Json.nestingLimit j ∧ Json.parse? j.compact = some j ∧
      empty.load inlineOrigin j.compact = .ok (empty.add e) := by
  intro e j
  have hfunction : RecordOf (Signature.simple "Twice" "number" []).fields
      (.object [.mk "returnType" (.string "number"), .mk "name" (.string "Twice")]) := by
    simp only [RecordOf, Signature.fields, List.forall_mem_cons]
    exact ⟨.inl ⟨_, rfl, rfl⟩, .inl ⟨_, rfl, rfl⟩, .inr ⟨rfl, rfl⟩, .inr ⟨rfl, rfl⟩,
      .inr ⟨rfl, rfl⟩, nofun⟩
  have hfunctions : ListOf (fun s => RecordOf s.fields) e.functions (.array
      [.object [.mk "returnType" (.string "number"), .mk "name" (.string "Twice")]]) :=
    List.Forall₂.cons hfunction .nil
  have hextension : RecordOf e.fields j := by
    simp only [RecordOf, j, Extension.fields, List.forall_mem_cons]
    exact ⟨.inl ⟨_, rfl, rfl⟩, .inl ⟨_, hfunctions, rfl⟩, .inr ⟨rfl, rfl⟩, .inr ⟨rfl, rfl⟩,
      nofun⟩
  have hcatalog : CatalogOf [e] j :=
    .inr ⟨e, _, rfl, rfl, hextension, by simp [Member.key]⟩
  have hwithin : Within Json.nestingLimit j := by
    simp [j, Within, Json.nestingLimit, Member.value]
  exact ⟨(load_written [e]).2.1 e rfl, hcatalog, hwithin, Json.parse?_compact hwithin,
    ((load_written [e]).2.2 j hcatalog).1 hwithin⟩

/-! ### What cannot be read -/

/-- A text that holds no value is refused, whatever it was meant to be. -/
theorem load_of_unreadable (p : Platform) {text : String} (h : Json.leading? text = none)
    (origin : String) : p.load origin text = .error (.notJson origin) := by
  simp only [load, readCatalog, h]
  rfl

end Platform

/-- Arrays inside each other, as many levels of them as given. -/
def Json.nested : Nat → Json
  | 0 => .null
  | n + 1 => .array [nested n]

theorem Json.within_nested_iff {levels n : Nat} : Within levels (nested n) ↔ n ≤ levels := by
  induction n generalizing levels with
  | zero => simp [nested]
  | succ n ih =>
    rw [nested, within_array_iff]
    constructor
    · rintro ⟨levels, rfl, h⟩
      exact Nat.succ_le_succ (ih.1 (h _ (.head _)))
    · intro h
      obtain ⟨levels, rfl⟩ := Nat.exists_eq_add_of_le' (Nat.le_trans (Nat.le_add_left 1 n) h)
      refine ⟨levels, rfl, fun j hj => ?_⟩
      rw [List.mem_singleton.1 hj]
      exact ih.2 (Nat.le_of_succ_le_succ h)

/-- A catalog without extensions to which a field is added. -/
def annotatedCatalog (note : Json) : Json :=
  .object [.mk "extensions" (.array []), .mk "note" note]

theorem catalogOf_annotatedCatalog (note : Json) : CatalogOf [] (annotatedCatalog note) := by
  refine .inl ?_
  simp only [RecordOf, annotatedCatalog, catalogFields, List.forall_mem_cons]
  exact ⟨.inl ⟨.array [], List.Forall₂.nil, rfl⟩, nofun⟩

theorem within_annotatedCatalog_iff {levels : Nat} {note : Json} :
    Within (levels + 2) (annotatedCatalog note) ↔ Within (levels + 1) note := by
  simp [annotatedCatalog, Json.within_object_succ_iff, Member.value, Within]

theorem leading?_annotatedCatalog_nested :
    Json.leading? (annotatedCatalog (.nested 127)).compact = none := by
  have hmost : Within 128 (annotatedCatalog (.nested 127)) :=
    within_annotatedCatalog_iff.2 (Json.within_nested_iff.2 (by decide))
  have hdeep : ¬ Within 127 (annotatedCatalog (.nested 127)) := fun h =>
    absurd (Json.within_nested_iff.1 (within_annotatedCatalog_iff.1 h)) (by decide)
  exact Json.leading?_compact_eq_none hmost hdeep

theorem leading?_annotatedCatalog_number :
    Json.leading? (annotatedCatalog (.number "1e309")).compact = none := by
  decide +kernel

/-- A field that no record knows matters when its value cannot be read: when it nests too deeply or
is a number out of range. -/
theorem Platform.load_annotatedCatalog :
    CatalogOf [] (annotatedCatalog (.nested 127)) ∧
      empty.load inlineOrigin (annotatedCatalog (.nested 127)).compact =
        .error (.notJson inlineOrigin) ∧
    CatalogOf [] (annotatedCatalog (.number "1e309")) ∧
      empty.load inlineOrigin (annotatedCatalog (.number "1e309")).compact =
        .error (.notJson inlineOrigin) :=
  ⟨catalogOf_annotatedCatalog _, load_of_unreadable _ leading?_annotatedCatalog_nested _,
    catalogOf_annotatedCatalog _, load_of_unreadable _ leading?_annotatedCatalog_number _⟩

end EventSheet

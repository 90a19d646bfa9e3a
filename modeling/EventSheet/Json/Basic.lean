/-!
# JSON values

A JSON value as it is written: numbers keep their literal and objects keep their members in order,
repetitions included, so that a reader can tell a key given twice from one given once.

Records are read by name or by place. `Json.record?` takes an object with the fields of a record,
where unknown keys do not matter and a known one may stand once, or an array with the fields in
order, where the last ones may be missing.
-/

namespace EventSheet

mutual

/-- A JSON value. -/
inductive Json
  | null
  | bool (value : Bool)
  /-- A number as it is written. -/
  | number (literal : String)
  | string (value : String)
  | array (items : List Json)
  | object (members : List Member)

/-- A key of an object and its value. -/
inductive Member
  | mk (key : String) (value : Json)

end

instance : Inhabited Json := ⟨.null⟩

/-- The key of a member. -/
def Member.key : Member → String
  | mk k _ => k

/-- The value of a member. -/
def Member.value : Member → Json
  | mk _ v => v

/-- The fields of a record that were given, with their names. -/
abbrev Fields := List (String × Json)

namespace Json

/-- A natural number. -/
def nat (n : Nat) : Json := number (toString n)

/-- A text, or null for none. -/
def ofOption : Option String → Json
  | some s => string s
  | none => null

/-- An array of texts. -/
def texts (ss : List String) : Json := array (ss.map string)

/-- The text, when the value is one. -/
def text? : Json → Option String
  | string s => some s
  | _ => none

/-- The truth value, when the value is one. -/
def bool? : Json → Option Bool
  | bool b => some b
  | _ => none

/-- The items of an array, each read by `read`. -/
def list? {α : Type} (read : Json → Option α) : Json → Option (List α)
  | array items => items.mapM read
  | _ => none

/-- The value that `read` gives, or none for null. -/
def nullable? {α : Type} (read : Json → Option α) : Json → Option (Option α)
  | null => some none
  | j => (read j).map some

/-- The members of an object with their values read by `read`. -/
def entries? {α : Type} (read : Json → Option α) : Json → Option (List (String × α))
  | object members => members.mapM fun m => (read m.value).map (m.key, ·)
  | _ => none

/-- Whether a record written in order may have more items than fields. -/
inductive Surplus
  | ignored
  | refused
  deriving DecidableEq

/-- The given fields of a record with the given field names. -/
def record? (surplus : Surplus) (names : List String) : Json → Option Fields
  | object members =>
    let known := (members.filter fun m => names.contains m.key).map fun m => (m.key, m.value)
    if (known.map (·.1)).Nodup then some known else none
  | array items =>
    if surplus = .refused ∧ names.length < items.length then none else some (names.zip items)
  | _ => none

end Json

namespace Fields

/-- A field that must be given. -/
def required {α : Type} (fs : Fields) (name : String) (read : Json → Option α) : Option α :=
  (fs.lookup name).bind read

/-- A field that may be left out and has a default then. -/
def optional {α : Type} (fs : Fields) (name : String) (default : α) (read : Json → Option α) :
    Option α :=
  match fs.lookup name with
  | some j => read j
  | none => some default

end Fields

end EventSheet

import EventSheet.Json.Basic
import Mathlib.Data.List.Forall2
import Mathlib.Data.List.Nodup

/-!
# Written records

What may be written for a record: an object in which every field stands once or, where it has the
value that is taken for a missing one, is left out. Members with other keys do not matter, and
neither does the order of the members. Reading such an object finds the fields as they were written:
`Json.RecordOf.exists_fields`.
-/

namespace EventSheet.Json

/-- How a field of a record may be written. -/
structure Field where
  name : String
  /-- The field may be left out. -/
  Omittable : Prop
  /-- A value may be written for the field. -/
  Writes : Json → Prop

namespace Field

/-- The field is written once among the members of an object, or is left out rightly. -/
def GivenIn (f : Field) (members : List Member) : Prop :=
  (∃ v, f.Writes v ∧ members.filter (fun m => m.key = f.name) = [.mk f.name v]) ∨
    f.Omittable ∧ members.filter (fun m => m.key = f.name) = []

/-- The field is among the fields that were given, or is left out rightly. -/
def FoundIn (f : Field) (fs : Fields) : Prop :=
  (∃ v, f.Writes v ∧ fs.lookup f.name = some v) ∨ f.Omittable ∧ fs.lookup f.name = none

end Field

/-- A value is written for a record with the given fields. -/
def RecordOf (fields : List Field) : Json → Prop
  | object members => ∀ f ∈ fields, f.GivenIn members
  | _ => False

/-- A value is written for a list whose members may be written in some way each. -/
def ListOf {α : Type} (writes : α → Json → Prop) (xs : List α) : Json → Prop
  | array items => List.Forall₂ writes xs items
  | _ => False

/-- Members that are written each in its way are written as a list. -/
theorem ListOf.map {α : Type} {writes : α → Json → Prop} {write : α → Json} {xs : List α}
    (h : ∀ x ∈ xs, writes x (write x)) : ListOf writes xs (.array (xs.map write)) :=
  List.forall₂_map_right_iff.2 (List.forall₂_same.2 h)

/-! ### Finding fields -/

/-- The members of an object whose keys are names of fields. -/
def known (names : List String) (members : List Member) : Fields :=
  (members.filter fun m => names.contains m.key).map fun m => (m.key, m.value)

section Known

variable {names : List String} {members : List Member} {name : String}

theorem lookup_members (members : List Member) (name : String) :
    (members.map fun m => (m.key, m.value)).lookup name =
      (members.filter fun m => m.key = name).head?.map Member.value := by
  induction members with
  | nil => rfl
  | cons m members ih =>
    rw [List.map_cons, List.lookup_cons, ih]
    by_cases h : m.key = name
    · simp [h]
    · have hname : (name == m.key) = false := beq_eq_false_iff_ne.2 (Ne.symm h)
      simp [h, hname]

theorem lookup_known (h : name ∈ names) :
    (known names members).lookup name =
      (members.filter fun m => m.key = name).head?.map Member.value := by
  rw [known, lookup_members, List.filter_filter]
  congr 3
  funext m
  by_cases hm : m.key = name
  · simp [hm, h]
  · simp [hm]

/-- No field is given twice when no name of a field is the key of two members. -/
theorem nodup_known (h : ∀ name ∈ names, (members.filter fun m => m.key = name).length ≤ 1) :
    ((known names members).map (·.1)).Nodup := by
  rw [List.nodup_iff_count_le_one]
  intro name
  rw [known, List.map_map, List.count_eq_countP, List.countP_map, List.countP_filter]
  by_cases hname : name ∈ names
  · have hone := h name hname
    rw [← List.countP_eq_length_filter] at hone
    refine Nat.le_trans (List.countP_mono_left ?_) hone
    intro m _ hm
    simp only [Function.comp_apply, Bool.and_eq_true, beq_iff_eq] at hm
    exact decide_eq_true hm.1
  · refine Nat.le_trans (Nat.le_of_eq (List.countP_eq_zero.2 ?_)) (Nat.zero_le 1)
    intro m _ hm
    simp only [Function.comp_apply, Bool.and_eq_true, beq_iff_eq, List.contains_iff_mem] at hm
    exact hname (hm.1 ▸ hm.2)

end Known

theorem Field.GivenIn.length_le {f : Field} {members : List Member} (h : f.GivenIn members) :
    (members.filter fun m => m.key = f.name).length ≤ 1 := by
  rcases h with ⟨v, -, hv⟩ | ⟨-, hnone⟩
  · rw [hv]
    exact Nat.le_refl 1
  · rw [hnone]
    exact Nat.zero_le 1

theorem Field.GivenIn.foundIn {f : Field} {members : List Member} (h : f.GivenIn members)
    {names : List String} (hf : f.name ∈ names) : f.FoundIn (known names members) := by
  unfold FoundIn
  rw [lookup_known hf]
  rcases h with ⟨v, hwrites, hv⟩ | ⟨homittable, hnone⟩
  · exact .inl ⟨v, hwrites, by rw [hv]; rfl⟩
  · exact .inr ⟨homittable, by rw [hnone]; rfl⟩

/-- Reading what is written for a record finds its fields. -/
theorem RecordOf.exists_fields {fields : List Field} {j : Json} (h : RecordOf fields j)
    (surplus : Surplus) :
    ∃ fs, j.record? surplus (fields.map (·.name)) = some fs ∧ ∀ f ∈ fields, f.FoundIn fs := by
  cases j with
  | object members =>
    have honce : ((known (fields.map (·.name)) members).map (·.1)).Nodup := by
      apply nodup_known
      intro name hname
      obtain ⟨f, hf, rfl⟩ := List.mem_map.1 hname
      exact (h f hf).length_le
    have hrecord : (object members).record? surplus (fields.map (·.name)) =
        some (known (fields.map (·.name)) members) := if_pos honce
    exact ⟨_, hrecord, fun f hf => (h f hf).foundIn (List.mem_map_of_mem hf)⟩
  | _ => exact absurd h id

section Reading

variable {α : Type} {f : Field} {fs : Fields} {read : Json → Option α} {x : α}

/-- A field that is never left out is read from what is written for it. -/
theorem Field.FoundIn.required (h : f.FoundIn fs) (hmust : ¬ f.Omittable)
    (hread : ∀ {v}, f.Writes v → read v = some x) : fs.required f.name read = some x := by
  rcases h with ⟨v, hv, hfound⟩ | ⟨homittable, -⟩
  · rw [Fields.required, hfound, Option.bind_some, hread hv]
  · exact absurd homittable hmust

/-- A field that is left out only when it has the default is read from what is written for it or is
the default. -/
theorem Field.FoundIn.optional (h : f.FoundIn fs) {default : α}
    (hdefault : f.Omittable → x = default) (hread : ∀ {v}, f.Writes v → read v = some x) :
    fs.optional f.name default read = some x := by
  rcases h with ⟨v, hv, hfound⟩ | ⟨homittable, hnone⟩
  · rw [Fields.optional, hfound]
    exact hread hv
  · rw [Fields.optional, hnone, hdefault homittable]

/-- A list is read from what is written for it when each of its members is. -/
theorem ListOf.list? {writes : α → Json → Prop} {xs : List α} {j : Json} (h : ListOf writes xs j)
    (hread : ∀ {x j}, writes x j → read j = some x) : j.list? read = some xs := by
  cases j with
  | array items =>
    have hitems : items.mapM read = some xs := by
      induction h with
      | nil => rfl
      | cons hitem _ ih => simp [List.mapM_cons, hread hitem, ih]
    exact hitems
  | _ => exact absurd h id

end Reading

end EventSheet.Json

/-!
# Indexes by name

An `Index` maps names to values. Giving a name a value replaces the one it had and keeps its place;
a new name goes to the end. `find?_insert` says what an insertion changes, `find?_update` the same
for a value made from the one before, and `nodup_insert` that no name is ever held twice, so that
the size of an index is the number of its names.
-/

namespace EventSheet

/-- Values by name. -/
structure Index (α : Type) where
  entries : List (String × α)

namespace Index

variable {α : Type}

/-- The index without names. -/
def empty : Index α := ⟨[]⟩

/-- The value of a name among some entries. -/
def findIn (key : String) : List (String × α) → Option α
  | [] => none
  | (k, v) :: rest => if k = key then some v else findIn key rest

/-- Gives a name a value among some entries. -/
def insertIn (key : String) (value : α) : List (String × α) → List (String × α)
  | [] => [(key, value)]
  | (k, v) :: rest => if k = key then (k, value) :: rest else (k, v) :: insertIn key value rest

/-- The value of a name. -/
def find? (index : Index α) (key : String) : Option α := findIn key index.entries

/-- Gives a name a value. -/
def insert (index : Index α) (key : String) (value : α) : Index α :=
  ⟨insertIn key value index.entries⟩

/-- Gives a name a value made from the one it has. -/
def update (index : Index α) (key : String) (f : Option α → α) : Index α :=
  index.insert key (f (index.find? key))

/-- The index of a list of entries, the last of each name counting. -/
def ofList (entries : List (String × α)) : Index α :=
  entries.foldl (fun index e => index.insert e.1 e.2) empty

/-- The names, each one once. -/
def keys (index : Index α) : List String := index.entries.map (·.1)

/-- The values, in the order of their names. -/
def values (index : Index α) : List α := index.entries.map (·.2)

/-- The number of names. -/
def size (index : Index α) : Nat := index.entries.length

@[simp] theorem find?_empty (key : String) : (empty : Index α).find? key = none := rfl

theorem find?_insert (index : Index α) (key k : String) (value : α) :
    (index.insert key value).find? k = if key = k then some value else index.find? k := by
  obtain ⟨entries⟩ := index
  simp only [find?, insert]
  induction entries with
  | nil => simp [insertIn, findIn]
  | cons e rest ih =>
    obtain ⟨k', v⟩ := e
    simp only [insertIn]
    split
    next h =>
      subst h
      simp only [findIn]
      split <;> rfl
    next h =>
      simp only [findIn, ih]
      split
      next h' =>
        subst h'
        rw [if_neg (Ne.symm h)]
      next => rfl

theorem find?_update (index : Index α) (key k : String) (f : Option α → α) :
    (index.update key f).find? k =
      if key = k then some (f (index.find? k)) else index.find? k := by
  unfold update
  rw [find?_insert]
  split
  next h => rw [h]
  next => rfl

theorem mem_keys_insert_iff (index : Index α) {key k : String} {value : α} :
    k ∈ (index.insert key value).keys ↔ k = key ∨ k ∈ index.keys := by
  obtain ⟨entries⟩ := index
  simp only [keys, insert]
  induction entries with
  | nil => simp [insertIn]
  | cons e rest ih =>
    obtain ⟨k', v⟩ := e
    simp only [insertIn]
    split
    next h =>
      subst h
      simp
    next =>
      simp only [List.map_cons, List.mem_cons, ih]
      grind

theorem nodup_insert {index : Index α} (h : index.keys.Nodup) (key : String) (value : α) :
    (index.insert key value).keys.Nodup := by
  obtain ⟨entries⟩ := index
  induction entries with
  | nil => simp [keys, insert, insertIn]
  | cons e rest ih =>
    obtain ⟨k', v⟩ := e
    have h' : k' ∉ rest.map (·.1) ∧ (rest.map (·.1)).Nodup := by simpa [keys] using h
    simp only [keys, insert, insertIn]
    split
    next => simpa using h'
    next hne =>
      have hrest := ih h'.2
      have hmem : k' ∉ (insertIn key value rest).map (·.1) := by
        intro hk
        rcases (mem_keys_insert_iff ⟨rest⟩).1 hk with hk | hk
        · exact hne hk
        · exact h'.1 hk
      simpa using ⟨by simpa using hmem, hrest⟩

end Index

end EventSheet

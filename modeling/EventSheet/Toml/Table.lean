import EventSheet.Json.Basic

/-!
# Tables of TOML

The tables of a TOML document while it is read. A table may come into being before it is defined:
as a step on the way to another one, by a header or by a dotted key. Whoever defines it afterwards
has to do so in the same manner, and nothing is defined twice. `Table.define?` gives a key of a
dotted path a value, `Table.openTable?` and `Table.openElement?` start the table of a header, and
`Table.toJson` is the object that a finished table is.
-/

namespace EventSheet.Toml

mutual

/-- What a key of a table holds. -/
inductive Item
  | value (value : Json)
  | table (table : Table)
  /-- The tables of an array, each written under a header of its own. -/
  | elements (tables : List Table)

/-- A table: whether it is only a step on the way to another one so far, whether dotted keys made
it, and its entries. -/
inductive Table
  | mk (implicit dotted : Bool) (entries : List Entry)

/-- A key of a table and what it holds. -/
inductive Entry
  | mk (key : String) (item : Item)

end

/-- The item of a key among some entries. -/
def findItem (key : String) : List Entry → Option Item
  | [] => none
  | .mk k item :: rest => if k = key then some item else findItem key rest

/-- Gives a key an item among some entries. -/
def setItem (key : String) (item : Item) : List Entry → List Entry
  | [] => [.mk key item]
  | .mk k old :: rest =>
    if k = key then .mk k item :: rest else .mk k old :: setItem key item rest

namespace Table

/-- A table that nothing has been written into. -/
def new (implicit dotted : Bool) : Table := mk implicit dotted []

/-- Whether a table is only a step on the way to another one. -/
def isImplicit : Table → Bool
  | mk implicit _ _ => implicit

/-- Whether dotted keys made a table. -/
def isDotted : Table → Bool
  | mk _ dotted _ => dotted

/-- The entries of a table. -/
def entries : Table → List Entry
  | mk _ _ es => es

/-- What a key holds. -/
def find? (t : Table) (key : String) : Option Item := findItem key t.entries

/-- Gives a key an item. -/
def set (t : Table) (key : String) (item : Item) : Table :=
  mk t.isImplicit t.isDotted (setItem key item t.entries)

/-- Gives a new key a value. -/
def put? (t : Table) (key : String) (value : Json) : Option Table :=
  match t.find? key with
  | some _ => none
  | none => some (t.set key (.value value))

/-- Changes the last of some tables. -/
def modifyLast (f : Table → Option Table) : List Table → Option (List Table)
  | [] => none
  | [t] => (f t).map ([·])
  | t :: rest => (modifyLast f rest).map (t :: ·)

/-- Gives the key at the end of a dotted path a value. The tables on the way are made by dotted keys
or are steps to others, and the one that gets the key is made by dotted keys. -/
def define? (value : Json) : List String → String → Table → Option Table
  | [], key, t => t.put? key value
  | step :: path, key, t => do
    let inner : Table → Option Table := fun child =>
      if path.isEmpty && !child.isDotted then none else define? value path key child
    match t.find? step with
    | none => return t.set step (.table (← inner (new true true)))
    | some (.table child) =>
      if child.isImplicit then return t.set step (.table (← inner child)) else none
    | some (.elements children) => return t.set step (.elements (← modifyLast inner children))
    | some (.value _) => none

/-- Changes the table that a path of headers leads to. Tables that are missing are steps on the way;
an array of tables is followed into its last one. -/
def modify? (f : Table → Option Table) : List String → Table → Option Table
  | [], t => f t
  | step :: path, t => do
    match t.find? step with
    | none => return t.set step (.table (← modify? f path (new true false)))
    | some (.table child) => return t.set step (.table (← modify? f path child))
    | some (.elements children) =>
      return t.set step (.elements (← modifyLast (fun child => modify? f path child) children))
    | some (.value _) => none

/-- Starts the table of a key. It may have been a step to other tables, but not one of a dotted
key. -/
def openTable? (key : String) (t : Table) : Option Table :=
  match t.find? key with
  | none => some (t.set key (.table (new false false)))
  | some (.table child) =>
    if child.isImplicit && !child.isDotted then
      some (t.set key (.table (mk false false child.entries)))
    else none
  | some _ => none

/-- Starts one more table in the array of a key. -/
def openElement? (key : String) (t : Table) : Option Table :=
  match t.find? key with
  | none => some (t.set key (.elements [new false false]))
  | some (.elements children) => some (t.set key (.elements (children ++ [new false false])))
  | some _ => none

end Table

mutual

/-- The value that an item is. -/
def Item.toJson : Item → Json
  | .value v => v
  | .table t => t.toJson
  | .elements ts => .array (tablesToJson ts)

/-- The object that a table is. -/
def Table.toJson : Table → Json
  | .mk _ _ es => .object (entriesToJson es)

/-- The objects that the tables of an array are. -/
def tablesToJson : List Table → List Json
  | [] => []
  | t :: rest => t.toJson :: tablesToJson rest

/-- The members that the entries of a table are. -/
def entriesToJson : List Entry → List Member
  | [] => []
  | .mk key item :: rest => .mk key item.toJson :: entriesToJson rest

end

end EventSheet.Toml

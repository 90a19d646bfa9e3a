import EventSheet.Toml.Scalar
import EventSheet.Toml.Table

/-!
# Reading TOML

A document is a list of statements: keys with values, headers of tables and headers of elements of
arrays of tables. `statements` reads them and `build?` puts the tables together. Arrays and inline
tables may be nested up to `nestingLimit` levels, and recursion runs on the levels that are left; a
key may have as many parts.
-/

namespace EventSheet.Toml

/-- The most levels of arrays and inline tables, and the most parts of a key. -/
def nestingLimit : Nat := 79

/-- The characters of a key without quotes. -/
def isBareKeyChar (c : Char) : Bool := c.isAlphanum || c == '-' || c == '_'

/-- One part of a key. -/
def simpleKey (cs : List Char) : Option (String × List Char) :=
  if cs.head? = some '"' || cs.head? = some '\'' then
    (lineText cs).map fun p => (String.ofList p.1, p.2)
  else
    let name := cs.takeWhile isBareKeyChar
    if name.isEmpty then none else some (String.ofList name, cs.dropWhile isBareKeyChar)

/-- The parts of a key between dots, at most `n` of them, with blanks around each. -/
def keyPath : Nat → Reads (List String)
  | 0, _ => none
  | n + 1, cs =>
    match simpleKey (skipSpaces cs) with
    | none => none
    | some (key, rest) =>
      match skipSpaces rest with
      | '.' :: rest => (keyPath n rest).map fun p => (key :: p.1, p.2)
      | rest => some ([key], rest)

/-- A key, the value after it and the characters left. -/
def keyValue (inner : Reads Json) : Reads (List String × Json) := fun cs => do
  match ← keyPath nestingLimit cs with
  | (path, '=' :: rest) =>
    let (value, rest) ← inner (skipSpaces rest)
    return ((path, value), rest)
  | _ => none

/-- Gives the key of a path a value. -/
def assign? (path : List String) (value : Json) (t : Table) : Option Table :=
  match path.getLast? with
  | some key => Table.define? value path.dropLast key t
  | none => none

/-- The items of an array up to the closing bracket, at most `n` of them. A comma may follow the
last one. -/
def arrayItems (inner : Reads Json) : Nat → Reads (List Json)
  | 0, _ => none
  | n + 1, cs =>
    match skipLines false cs with
    | ']' :: rest => some ([], rest)
    | cs =>
      match inner cs with
      | none => none
      | some (item, rest) =>
        match skipLines false rest with
        | ',' :: rest => (arrayItems inner n rest).map fun p => (item :: p.1, p.2)
        | ']' :: rest => some ([item], rest)
        | _ => none

/-- The entries of an inline table up to the closing brace, at most `n` of them, added to those
before them. -/
def inlineEntries (inner : Reads Json) : Nat → Table → Reads Table
  | 0, _, _ => none
  | n + 1, t, cs =>
    match keyValue inner cs with
    | none => none
    | some ((path, value), rest) =>
      match assign? path value t with
      | none => none
      | some t =>
        match skipSpaces rest with
        | ',' :: rest => inlineEntries inner n t rest
        | '\x7d' :: rest => some (t, rest)
        | _ => none

/-- What follows the opening brace of an inline table. -/
def inlineTable (inner : Reads Json) : Reads Json := fun cs =>
  match skipSpaces cs with
  | '\x7d' :: rest => some (.object [], rest)
  | cs => (inlineEntries inner cs.length (.new false false) cs).map fun p => (p.1.toJson, p.2)

/-- A value that opens at most the given levels of arrays and inline tables. -/
def value : Nat → Reads Json
  | levels + 1, '[' :: cs =>
    (arrayItems (fun cs => value levels cs) (cs.length + 1) cs).map fun p => (.array p.1, p.2)
  | levels + 1, '\x7b' :: cs => inlineTable (fun cs => value levels cs) cs
  | _, cs => scalar cs

/-! ### Statements -/

/-- A line of a document. -/
inductive Statement
  | entry (path : List String) (value : Json)
  | tableHeader (path : List String)
  | elementHeader (path : List String)

/-- What follows a comment: all up to the end of the line. -/
def skipComment : List Char → List Char
  | '#' :: cs => cs.dropWhile isTextChar
  | cs => cs

/-- What follows the rest of a line that holds nothing but blanks and a comment. -/
def endLine? (cs : List Char) : Option (List Char) :=
  match skipComment (skipSpaces cs) with
  | [] => some []
  | cs => newline? cs

/-- The header of a table or of an element. -/
def header : Reads Statement
  | '[' :: '[' :: cs =>
    match keyPath nestingLimit cs with
    | some (path, ']' :: ']' :: rest) => some (.elementHeader path, rest)
    | _ => none
  | '[' :: cs =>
    match keyPath nestingLimit cs with
    | some (path, ']' :: rest) => some (.tableHeader path, rest)
    | _ => none
  | _ => none

/-- A statement without the rest of its line. -/
def statement (cs : List Char) : Option (Statement × List Char) :=
  if cs.head? = some '[' then header cs
  else (keyValue (value nestingLimit) cs).map fun p => (.entry p.1.1 p.1.2, p.2)

/-- The statements of a document of at most `n` lines. -/
def statements : Nat → List Char → Option (List Statement)
  | 0, _ => none
  | n + 1, cs =>
    match skipSpaces cs with
    | [] => some []
    | c :: cs =>
      if c = '#' || c = '\n' || c = '\r' then (endLine? (c :: cs)).bind (statements n)
      else do
        let (first, rest) ← statement (c :: cs)
        return first :: (← statements n (← endLine? rest))

/-! ### Documents -/

/-- Adds the tables and entries of statements to the root table; `here` is the path of the header
that was read last. -/
def build? : List String → List Statement → Table → Option Table
  | _, [], root => some root
  | here, .entry path value :: rest, root => do
    build? here rest (← Table.modify? (assign? path value) here root)
  | _, .tableHeader path :: rest, root => do
    let key ← path.getLast?
    build? path rest (← Table.modify? (Table.openTable? key) path.dropLast root)
  | _, .elementHeader path :: rest, root => do
    let key ← path.getLast?
    build? path rest (← Table.modify? (Table.openElement? key) path.dropLast root)

/-- Drops the byte order mark that a text may begin with. -/
def dropMark : List Char → List Char
  | '\ufeff' :: cs => cs
  | cs => cs

/-- The object that a document is. -/
def parse? (text : String) : Option Json := do
  let cs := dropMark text.toList
  let root ← build? [] (← statements (cs.length + 1) cs) (.new false false)
  return root.toJson

end EventSheet.Toml

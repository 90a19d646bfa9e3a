/-!
# Paths

Paths as texts, with slashes between their parts. `joinPath` puts a path below a directory and
`parentDirectory` finds the directory a file is in; neither looks at any file, and neither
simplifies what it is given.
-/

namespace EventSheet

/-- The parts of a path between slashes; a text without slashes is one part. -/
def splitPath : List Char → List (List Char)
  | [] => [[]]
  | c :: cs =>
    if c = '/' then [] :: splitPath cs
    else
      match splitPath cs with
      | part :: rest => (c :: part) :: rest
      | [] => [[c]]

/-- Parts with slashes between them. -/
def joinParts (parts : List (List Char)) : List Char := ['/'].intercalate parts

/-- Whether a part of a path leads nowhere. -/
def isIdlePart (part : List Char) : Bool := part == [] || part == ['.']

/-- A path below a directory. An absolute path leaves the directory behind; otherwise a slash stands
between the two, unless the directory is empty or ends with one. -/
def joinPath (directory path : String) : String :=
  if path.toList.head? = some '/' then path
  else if directory.isEmpty || directory.toList.getLast? = some '/' then directory ++ path
  else directory ++ "/" ++ path

/-- The start of a path that is no part to be dropped: the root, or the dot of the current
directory. -/
def pathRoot : List Char → List Char × List Char
  | '/' :: cs => (['/'], cs)
  | '.' :: '/' :: cs => (['.'], '/' :: cs)
  | cs => ([], cs)

/-- The directory of a file: its path without the last part and without idle parts before that. -/
def parentDirectory (path : String) : String :=
  let (root, body) := pathRoot path.toList
  let parents := (splitPath body).dropLast.reverse.dropWhile isIdlePart
  String.ofList (root ++ joinParts parents.reverse)

end EventSheet

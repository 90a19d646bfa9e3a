import EventSheet.Path

/-!
# File trees

Files held as texts by path, and what reading one of them answers. A path is followed part by part
from the directory that holds the tree, and the first part that cannot be followed decides why the
file cannot be read. What lies outside the tree is not known: directories above it can be reached
but nothing else in them.
-/

namespace EventSheet

/-- Why a file cannot be read. -/
inductive ReadError
  | notFound
  | notDirectory
  | isDirectory
  | nameTooLong
  | zeroInName
  | notText
  /-- Any other failure, as the system words it. -/
  | system (reason : String)
  deriving DecidableEq

/-- How the reason is worded. -/
def ReadError.reason : ReadError → String
  | notFound => "No such file or directory (os error 2)"
  | notDirectory => "Not a directory (os error 20)"
  | isDirectory => "Is a directory (os error 21)"
  | nameTooLong => "File name too long (os error 36)"
  | zeroInName => "file name contained an unexpected NUL byte"
  | notText => "stream did not contain valid UTF-8"
  | system reason => reason

/-- Files by their paths. -/
abbrev FileTree := List (String × String)

/-- A place that a path leads to. -/
inductive Place
  /-- A directory of the tree. -/
  | inside (path : List (List Char))
  /-- A directory above the tree. -/
  | above
  | file (content : String)

/-- The most bytes of one part of a path. -/
def maxPartLength : Nat := 255

/-- Whether a part of a path has too many bytes to be a name. -/
def isTooLong (part : List Char) : Bool :=
  decide (maxPartLength < (String.ofList part).utf8ByteSize)

/-- The most bytes of a path. -/
def maxPathLength : Nat := 4095

namespace FileTree

/-- The parts of the path of a file. -/
def partsOf (path : String) : List (List Char) :=
  (splitPath path.toList).filter (!isIdlePart ·)

/-- The file or directory at some parts. -/
def at? (tree : FileTree) (path : List (List Char)) : Option Place :=
  match tree.find? fun f => partsOf f.1 == path with
  | some f => some (.file f.2)
  | none =>
    if tree.any fun f => path.isPrefixOf (partsOf f.1) then some (.inside path) else none

/-- Where one more part leads from a place. -/
def step (tree : FileTree) (place : Place) (part : List Char) : Except ReadError Place :=
  match place with
  | .file _ => .error .notDirectory
  | .above =>
    if isIdlePart part || part == ['.', '.'] then .ok .above
    else if isTooLong part then .error .nameTooLong
    else .error .notFound
  | .inside path =>
    if isIdlePart part then .ok (.inside path)
    else if part == ['.', '.'] then
      if path.isEmpty then .ok .above else .ok (.inside path.dropLast)
    else if isTooLong part then .error .nameTooLong
    else
      match tree.at? (path ++ [part]) with
      | some place => .ok place
      | none => .error .notFound

/-- Reads a file. -/
def read (tree : FileTree) (path : String) : Except ReadError String := do
  if path.toList.contains '\x00' then throw .zeroInName
  if path.isEmpty then throw .notFound
  if maxPathLength < path.utf8ByteSize then throw .nameTooLong
  let start := if path.toList.head? = some '/' then Place.above else .inside []
  match ← (splitPath path.toList).foldlM tree.step start with
  | .file content => return content
  | _ => throw .isDirectory

end FileTree

end EventSheet

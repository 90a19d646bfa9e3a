import EventSheet.Expr.Basic
import EventSheet.Text.Quoted

/-!
# Listing a tree

The tree of an expression as lines of text: one line for each node and each accessor, parents first,
each level indented by two blanks. A line gives the kind of its node, its span and what the node
says beyond its children. Texts are quoted, so that every node stays on one line.
-/

namespace EventSheet

/-- The head of a line: indentation, kind and span. -/
def dumpHead (depth : Nat) (kind : String) (s : Span) : String :=
  String.ofList (List.replicate (2 * depth) ' ') ++ s!"{kind}@{s.start}..{s.stop}"

mutual

/-- The lines of a tree whose root stands `depth` levels deep. -/
def Expr.dumpAt (depth : Nat) : Expr → List String
  | .number text s => [dumpHead depth "NUMBER" s ++ " " ++ text]
  | .string value s => [dumpHead depth "STRING" s ++ " " ++ Text.quoted value]
  | .identifier name s => [dumpHead depth "IDENTIFIER" s ++ " " ++ name]
  | .access name accessors s =>
    (dumpHead depth "VARIABLE" s ++ " " ++ name.text) :: dumpAccessors depth accessors
  | .unary sign operand s =>
    (dumpHead depth "UNARY" s ++ " " ++ sign.symbol) :: operand.dumpAt (depth + 1)
  | .binary operator left right s =>
    (dumpHead depth "BINARY" s ++ " " ++ operator.symbol) ::
      (left.dumpAt (depth + 1) ++ right.dumpAt (depth + 1))
  | .call callee arguments s =>
    (dumpHead depth "CALL" s ++ " " ++ callee.path) :: dumpArguments depth arguments
  | .empty s => [dumpHead depth "EMPTY" s]
  | .error _ text s => [dumpHead depth "ERROR" s ++ " " ++ Text.quoted text]

/-- The lines of the arguments of a call that stands `depth` levels deep. -/
def dumpArguments (depth : Nat) : List Expr → List String
  | [] => []
  | argument :: rest => argument.dumpAt (depth + 1) ++ dumpArguments depth rest

/-- The lines of the accessors of a variable that stands `depth` levels deep. -/
def dumpAccessors (depth : Nat) : List Accessor → List String
  | [] => []
  | .child name s :: rest =>
    (dumpHead (depth + 1) "CHILD" s ++ " " ++ name) :: dumpAccessors depth rest
  | .index index s :: rest =>
    dumpHead (depth + 1) "INDEX" s :: (index.dumpAt (depth + 2) ++ dumpAccessors depth rest)

end

/-- The lines of a whole tree. -/
def Expr.dump (e : Expr) : List String := e.dumpAt 0

end EventSheet

import EventSheet.Expr.Parser

/-!
# The grammar of expressions

Which sequences of tokens are expressions, told by the kinds of the tokens alone. The grammar is
flat: it says nothing about how strongly an operator binds and it knows no limit on nesting. A text
without tokens is grammatical as well, it is the empty expression.
-/

namespace EventSheet

/-- The phrases of the grammar. The phrases in the plural stand for any number of their singular;
`moreArguments` are arguments that each follow a comma. -/
inductive Phrase
  | expression
  | operations
  | operand
  | primary
  | accessor
  | accessors
  | arguments
  | moreArguments

/-- The sequences of kinds that a phrase derives. -/
inductive Derives : Phrase → List TokenKind → Prop
  | expression {ks ls : List TokenKind} :
      Derives .operand ks → Derives .operations ls → Derives .expression (ks ++ ls)
  | noOperation : Derives .operations []
  | operation {k : TokenKind} {ks ls : List TokenKind} : k.isOperator = true →
      Derives .operand ks → Derives .operations ls → Derives .operations (k :: (ks ++ ls))
  | signed {k : TokenKind} {ks : List TokenKind} : k = .plus ∨ k = .minus →
      Derives .operand ks → Derives .operand (k :: ks)
  | unsigned {ks : List TokenKind} : Derives .primary ks → Derives .operand ks
  | number : Derives .primary [.number]
  | string : Derives .primary [.string]
  | group {ks : List TokenKind} :
      Derives .expression ks → Derives .primary (.openParen :: (ks ++ [.closeParen]))
  | name : Derives .primary [.ident]
  | freeCall {ks : List TokenKind} : Derives .arguments ks →
      Derives .primary (.ident :: .openParen :: (ks ++ [.closeParen]))
  | objectCall {ks : List TokenKind} : Derives .arguments ks →
      Derives .primary (.ident :: .dot :: .ident :: .openParen :: (ks ++ [.closeParen]))
  | behaviorCall {ks : List TokenKind} : Derives .arguments ks →
      Derives .primary (.ident :: .dot :: .ident :: .colonColon :: .ident :: .openParen ::
        (ks ++ [.closeParen]))
  | access {ks ls : List TokenKind} :
      Derives .accessor ks → Derives .accessors ls → Derives .primary (.ident :: (ks ++ ls))
  | child : Derives .accessor [.dot, .ident]
  | index {ks : List TokenKind} :
      Derives .expression ks → Derives .accessor (.openBracket :: (ks ++ [.closeBracket]))
  | noAccessor : Derives .accessors []
  | accessor {ks ls : List TokenKind} :
      Derives .accessor ks → Derives .accessors ls → Derives .accessors (ks ++ ls)
  | noArgument : Derives .arguments []
  | arguments {ks ls : List TokenKind} :
      Derives .expression ks → Derives .moreArguments ls → Derives .arguments (ks ++ ls)
  | lastArgument : Derives .moreArguments []
  | nextArgument {ks ls : List TokenKind} : Derives .expression ks → Derives .moreArguments ls →
      Derives .moreArguments (.comma :: (ks ++ ls))

/-- Whether the kinds of the tokens of a text make an expression, or there are none. -/
def Grammatical (ks : List TokenKind) : Prop := ks = [] ∨ Derives .expression ks

end EventSheet

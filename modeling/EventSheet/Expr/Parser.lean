import EventSheet.Expr.Reader
import EventSheet.Text.Literal

/-!
# From tokens to trees

The grammar of expressions, read by binding strength. An operator takes the operand on its left when
it binds at least as strongly as its surroundings ask for, and asks for its own right strength on
the other side: sums and products nest to the left, powers to the right, and a sign binds more
strongly than a product and less strongly than a power.

Reading never fails. What does not fit is reported and stood for by an error node, and reading goes
on at the next token that can end an operand. Recursion runs on the levels of nesting that are left:
`expression 0` reads nothing and skips to the end of the level, so that no text can nest deeper than
`nestingLimit` allows. The readers of the parts of an operand take the reader for one level further
down as an argument.
-/

namespace EventSheet

/-- How an operator binds: how strongly it takes what stands on its left, and how strongly the
operators on its right have to bind to belong to its right operand. -/
structure Binding where
  operator : Operator
  left : Nat
  right : Nat

/-- The operators, from the weakest to the strongest. -/
def TokenKind.binding? : TokenKind → Option Binding
  | .plus => some ⟨.add, 1, 2⟩
  | .minus => some ⟨.sub, 1, 2⟩
  | .star => some ⟨.mul, 3, 4⟩
  | .slash => some ⟨.div, 3, 4⟩
  | .caret => some ⟨.pow, 7, 6⟩
  | _ => none

/-- How strongly the operators in the operand of a sign have to bind. -/
def signStrength : Nat := 5

/-- The signs that may stand before an operand. -/
def TokenKind.sign? : TokenKind → Option Sign
  | .plus => some .plus
  | .minus => some .minus
  | _ => none

/-- The tokens that end an operand; recovery never takes them. -/
def TokenKind.isBoundary : TokenKind → Bool
  | .eof | .closeParen | .closeBracket | .comma => true
  | _ => false

/-- Reads an expression in which operators bind at least as strongly as the given strength. -/
abbrev ExprReader := Nat → Reader → Expr × Reader

/-! ### Skipping -/

/-- The tokens up to the one that ends the current level: the first closing bracket or comma that no
bracket opened on the way encloses. Every closing bracket closes the last open one, whatever its
form. -/
def levelRun (opened : Nat) : List Token → List Token
  | [] => []
  | t :: ts =>
    match t.kind with
    | .eof => []
    | .openParen | .openBracket => t :: levelRun (opened + 1) ts
    | .closeParen | .closeBracket => if opened = 0 then [] else t :: levelRun (opened - 1) ts
    | .comma => if opened = 0 then [] else t :: levelRun opened ts
    | _ => t :: levelRun opened ts

/-- The tokens up to the next boundary or operator. -/
def operandRun (ts : List Token) : List Token :=
  ts.takeWhile fun t => !t.kind.isBoundary && !t.kind.isOperator

/-- Stands for all that is left of the current level, where nesting has reached its limit. -/
def tooDeep (r : Reader) : Expr × Reader :=
  let here := Span.point r.span.start
  let r := r.skip (levelRun 0 r.tokens).length
  r.fail .nestingTooDeep "nesting too deep" (r.spanFrom here)

/-- Stands for a token that cannot begin a value and for all up to the next boundary or
operator. -/
def unexpected (r : Reader) : Expr × Reader :=
  let first := r.token
  let r := r.advance
  let r := r.skip (operandRun r.tokens).length
  r.fail (.unexpectedToken first.kind) "unexpected token" (r.spanFrom first.span)

/-- Stands for a value that is missing before the token at the reader, which stays. -/
def missing (problem : Problem) (r : Reader) : Expr × Reader :=
  r.fail problem "missing operand" (Span.point r.span.start)

/-! ### Groups, calls and variables -/

/-- The inside of a parenthesised group and its closing parenthesis, with the reader at the opening
one. A closed group is what it holds, widened to the parentheses; it is redundant when the group
closed last is all that it holds. -/
def group (inner : ExprReader) (r : Reader) : Expr × Reader :=
  let opening := r.span
  let (content, r) := inner 0 r.advance
  if r.kind = .closeParen then
    let span := opening.merge r.span
    let r := r.advance
    let r :=
      if !content.isError && r.lastGroup == some content.span then
        r.report .redundantParentheses span
      else r
    (content.withSpan span, r.closeGroup span)
  else
    r.fail (.unmatchedParenthesis opening) "unmatched parenthesis" (r.spanFrom opening)

/-- Expressions between commas, at most `n` of them. -/
def arguments (inner : ExprReader) : Nat → Reader → List Expr × Reader
  | 0, r => ([], r)
  | n + 1, r =>
    let (argument, r) := inner 0 r
    if r.kind = .comma then
      let (rest, r) := arguments inner n r.advance
      (argument :: rest, r)
    else ([argument], r)

/-- The arguments of a call, with the reader at the opening parenthesis. Every argument but the last
takes a comma, so there are at most as many as there are tokens. -/
def call (inner : ExprReader) (callee : Callee) (r : Reader) : Expr × Reader :=
  let opening := r.span
  let r := r.advance
  let (args, r) :=
    if r.kind = .closeParen then ([], r) else arguments inner (r.tokens.length + 1) r
  let r :=
    if r.kind = .closeParen then r.advance
    else r.report (.unterminatedParameters opening) (r.spanFrom opening)
  (.call callee args ⟨callee.start, r.lastEnd⟩, r)

/-- A call of a behavior function, with the reader at the dot after the object. -/
def behaviorCall (inner : ExprReader) (object : Name) (r : Reader) : Expr × Reader :=
  let r := r.advance
  let behavior := Name.ofToken r.token
  let r := r.advance.advance
  if r.kind = .ident then
    let function := Name.ofToken r.token
    let r := r.advance
    let callee := Callee.onBehavior object behavior function
    if r.kind = .openParen then call inner callee r
    else
      (.call callee [] (object.span.merge function.span), r.report .callParenthesisExpected r.span)
  else
    let r := r.report .behaviorFunctionExpected r.span
    (r.errorNode "missing behavior function" ⟨object.span.start, r.lastEnd⟩, r)

/-- The accessors after a variable, at most `n` of them. The chain ends with the first one that is
not closed. -/
def accessors (inner : ExprReader) : Nat → Reader → List Accessor × Reader
  | 0, r => ([], r)
  | n + 1, r =>
    match r.kind with
    | .dot =>
      let dot := r.span
      let r := r.advance
      if r.kind = .ident then
        let child := r.token
        let (rest, r) := accessors inner n r.advance
        (.child child.text (dot.merge child.span) :: rest, r)
      else ([], r.report .childNameExpected r.span)
    | .openBracket =>
      let opening := r.span
      let (index, r) := inner 0 r.advance
      if r.kind = .closeBracket then
        let span := opening.merge r.span
        let (rest, r) := accessors inner n r.advance
        (.index index span :: rest, r)
      else
        let span := r.spanFrom opening
        ([.index index span], r.report (.unterminatedIndex opening) span)
    | _ => ([], r)

/-- A variable with its accessors, with the reader at the first one. Every accessor takes a token,
so there are at most as many as there are tokens. -/
def access (inner : ExprReader) (name : Name) (r : Reader) : Expr × Reader :=
  let (steps, r) := accessors inner (r.tokens.length + 1) r
  (.access name steps (r.spanFrom name.span), r)

/-- What begins with a name, as the tokens after it decide: a call of one of three shapes, a
variable with accessors or a bare name. -/
def named (inner : ExprReader) (r : Reader) : Expr × Reader :=
  let first := Name.ofToken r.token
  let r := r.advance
  match r.kindAt 0, r.kindAt 1, r.kindAt 2 with
  | .openParen, _, _ => call inner (.free first) r
  | .dot, .ident, .openParen =>
    let r := r.advance
    call inner (.onObject first (Name.ofToken r.token)) r.advance
  | .dot, .ident, .colonColon => behaviorCall inner first r
  | .dot, _, _ => access inner first r
  | .openBracket, _, _ => access inner first r
  | _, _, _ => (.identifier first.text first.span, r)

/-! ### Operands and operators -/

/-- An operand without a sign before it. -/
def primary (inner : ExprReader) (r : Reader) : Expr × Reader :=
  let t := r.token
  match r.kind with
  | .number => (.number t.text t.span, r.advance)
  | .string => (.string (decodeText t.text) t.span, r.advance)
  | .unterminatedString => r.advance.fail .unterminatedString "unterminated string" t.span
  | .openParen => group inner r
  | .ident => named inner r
  | .eof => missing .incomplete r
  | .closeParen => missing .valueBeforeClosing r
  | .comma => missing (.valueExpected .comma) r
  | .closeBracket => missing (.valueExpected .closeBracket) r
  | _ => unexpected r

/-- An operand: signs first, then a value. -/
def operand (inner : ExprReader) (r : Reader) : Expr × Reader :=
  match r.kind.sign? with
  | some sign =>
    let s := r.span
    let (value, r) := inner signStrength r.advance
    (.unary sign value (s.merge value.span), r)
  | none => primary inner r

mutual

/-- An expression with at most the given levels of nesting, whose operators bind at least as
strongly as `strength`. -/
def expression : Nat → Nat → Reader → Expr × Reader
  | 0, _, r => tooDeep r
  | levels + 1, strength, r =>
    let (left, r) := operand (fun strength r => expression levels strength r) r
    operations levels strength left r

/-- The operators after a left operand, with their right operands. An operator stands above all that
is on its left, so each one leaves a level less to what comes after it. -/
def operations : Nat → Nat → Expr → Reader → Expr × Reader
  | 0, strength, left, r =>
    match r.kind.binding? with
    | none => (left, r)
    | some b =>
      if b.left < strength then (left, r)
      else
        let (right, r) := tooDeep r.advance
        (.binary b.operator left right (left.span.merge right.span), r)
  | levels + 1, strength, left, r =>
    match r.kind.binding? with
    | none => (left, r)
    | some b =>
      if b.left < strength then (left, r)
      else
        let (right, r) := expression levels b.right r.advance
        operations levels strength
          (.binary b.operator left right (left.span.merge right.span)) r

end

/-! ### Whole texts -/

/-- The tree of a text and what was found while reading it. -/
structure Parse where
  root : Expr
  diagnostics : List Diagnostic

/-- Whether nothing blocks the text; warnings do not count. -/
def Parse.ok (p : Parse) : Bool := p.diagnostics.all (!·.isError)

/-- Takes the tokens after an expression and reports them once. -/
def closeText (r : Reader) : Reader :=
  if r.kind = .eof then r
  else
    let here := Span.point r.span.start
    let problem : Problem :=
      if r.kind = .closeParen then .unexpectedClosingParenthesis else .extraCharacters
    let r := r.skip r.tokens.length
    r.report problem (r.spanFrom here)

/-- Reads a whole text. A text without tokens is an empty expression. -/
def parse (source : String) : Parse :=
  let r := Reader.start source
  if r.kind = .eof then ⟨.empty r.span, []⟩
  else
    let (root, r) := expression nestingLimit 0 r
    ⟨root, (closeText r).diagnostics.toList⟩

end EventSheet

import EventSheet.Diagnostic.Basic
import EventSheet.Token.Lexer

/-!
# Reading tokens

A `Reader` is a place in the tokens of an expression together with what was found on the way: the
tokens still to come, where the last one taken ended, which parenthesised group was closed last and
the diagnostics so far. Past the last token it stands at the end of the text, where nothing can be
taken any more.
-/

namespace EventSheet

/-- A place in the tokens of an expression and what was found before it. -/
structure Reader where
  /-- The whole text, for the nodes that stand for a piece of it. -/
  source : List Char
  /-- The tokens not taken yet. -/
  tokens : List Token
  /-- Where the last token taken ended; zero before the first one. -/
  lastEnd : Nat
  /-- The span of the parenthesised group closed last. -/
  lastGroup : Option Span
  /-- What was reported so far, in order. -/
  diagnostics : Array Diagnostic

/-- The name that a token spells. -/
def Name.ofToken (t : Token) : Name := ⟨t.text, t.span⟩

namespace Reader

/-- The reader before the first token of a text. -/
def start (source : String) : Reader :=
  ⟨source.toList, Token.lex source, 0, none, #[]⟩

/-- The token at the reader. -/
def token (r : Reader) : Token :=
  r.tokens.headD (Token.atEnd (Text.byteLength r.source))

/-- The kind of the token `n` places ahead. -/
def kindAt (r : Reader) (n : Nat) : TokenKind :=
  match r.tokens[n]? with
  | some t => t.kind
  | none => .eof

/-- The kind of the token at the reader. -/
def kind (r : Reader) : TokenKind := r.kindAt 0

/-- The span of the token at the reader. -/
def span (r : Reader) : Span := r.token.span

/-- Takes a token. At the end of the text nothing moves. -/
def advance (r : Reader) : Reader :=
  match r.tokens with
  | [] => r
  | t :: ts => { r with tokens := ts, lastEnd := t.span.stop }

/-- Takes `n` tokens. -/
def skip : Nat → Reader → Reader
  | 0, r => r
  | n + 1, r => skip n r.advance

/-- Adds a diagnostic. -/
def report (r : Reader) (problem : Problem) (s : Span) : Reader :=
  { r with diagnostics := r.diagnostics.push ⟨problem, s⟩ }

/-- Remembers the span of a group that was just closed. -/
def closeGroup (r : Reader) (s : Span) : Reader := { r with lastGroup := some s }

/-- The span from `s` to the last token taken, or `s` itself when nothing was taken after it. -/
def spanFrom (r : Reader) (s : Span) : Span := ⟨s.start, max r.lastEnd s.stop⟩

/-- The node that stands for the text of a span. -/
def errorNode (r : Reader) (reason : String) (s : Span) : Expr :=
  .error reason (String.ofList ((s.cut? r.source).getD [])) s

/-- Reports a problem and stands for its text with a node. -/
def fail (r : Reader) (problem : Problem) (reason : String) (s : Span) : Expr × Reader :=
  let r := r.report problem s
  (r.errorNode reason s, r)

@[simp] theorem advance_source (r : Reader) : r.advance.source = r.source := by
  unfold advance
  split <;> rfl

@[simp] theorem report_source (r : Reader) (p : Problem) (s : Span) :
    (r.report p s).source = r.source := rfl

@[simp] theorem report_tokens (r : Reader) (p : Problem) (s : Span) :
    (r.report p s).tokens = r.tokens := rfl

theorem skip_tokens (n : Nat) (r : Reader) : (skip n r).tokens = r.tokens.drop n := by
  induction n generalizing r with
  | zero => simp [skip]
  | succ n ih =>
    rw [skip, ih]
    unfold advance
    split <;> simp_all

end Reader

end EventSheet

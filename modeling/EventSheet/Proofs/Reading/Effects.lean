import EventSheet.Proofs.Reading.Course

/-!
# Reading operands with effects

The readers of the parts of an operand, where the reader for one level further down has effects of
its own: it may keep a count, or fail. On the way they make a visit at the head of every iteration
of a loop, for a monad that watches the reading. Otherwise they do nothing but read, so that what
every reading further down yields is what an operand yields too (`Yields.operand`); a counter that
is left as it was further down is left as it was by an operand: `Effectful.operand_gives`.
-/

namespace EventSheet

/-- A place that reading passes: where an expression is entered, and the heads of the iterations of
all loops. -/
inductive Waypoint
  | entry
  | operators
  | arguments
  | accessors
  /-- The skip to the end of a level. -/
  | level
  /-- The skip to the end of an operand. -/
  | operand
  /-- The skip to the end of the text. -/
  | text
  /-- A loop ends because the bound on its iterations is reached. -/
  | cutoff
  deriving DecidableEq

/-- A monad that watches a reading. -/
class Watch (m : Type → Type) where
  /-- Reading passes a place. -/
  visit : Waypoint → Reader → m Unit

namespace Effectful

/-! ### The parts of an operand -/

section

variable {m : Type → Type} [Monad m] [Watch m]

/-- Reads an expression in which operators bind at least as strongly as the given strength, with
the effects of a monad. -/
abbrev ExprReader (m : Type → Type) := Nat → Reader → m (Expr × Reader)

/-- Takes a number of tokens in a loop. -/
def skipping (place : Waypoint) : Nat → Reader → m Reader
  | 0, r => do
    Watch.visit place r
    return r
  | n + 1, r => do
    Watch.visit place r
    skipping place n r.advance

/-- Stands for all that is left of the current level. -/
def tooDeep (r : Reader) : m (Expr × Reader) := do
  let here := Span.point r.span.start
  let r ← skipping .level (levelRun 0 r.tokens).length r
  return r.fail .nestingTooDeep "nesting too deep" (r.spanFrom here)

/-- Stands for a token that cannot begin a value and for all up to the next boundary or
operator. -/
def unexpected (r : Reader) : m (Expr × Reader) := do
  let first := r.token
  let r := r.advance
  let r ← skipping .operand (operandRun r.tokens).length r
  return r.fail (.unexpectedToken first.kind) "unexpected token" (r.spanFrom first.span)

/-- The inside of a parenthesised group and its closing parenthesis. -/
def group (inner : ExprReader m) (r : Reader) : m (Expr × Reader) := do
  let opening := r.span
  let (content, r) ← inner 0 r.advance
  return if r.kind = .closeParen then
      let span := opening.merge r.span
      (content.withSpan span, afterGroup content span r.advance)
    else r.fail (.unmatchedParenthesis opening) "unmatched parenthesis" (r.spanFrom opening)

/-- Expressions between commas, at most `n` of them. -/
def arguments (inner : ExprReader m) : Nat → Reader → m (List Expr × Reader)
  | 0, r => do
    Watch.visit .cutoff r
    return ([], r)
  | n + 1, r => do
    Watch.visit .arguments r
    let (argument, r) ← inner 0 r
    if r.kind = .comma then
      let (rest, r) ← arguments inner n r.advance
      return (argument :: rest, r)
    else return ([argument], r)

/-- What stands between the parentheses of a call. -/
def callInside (inner : ExprReader m) (r : Reader) : m (List Expr × Reader) :=
  if r.kind = .closeParen then return ([], r) else arguments inner (r.tokens.length + 1) r

/-- The arguments of a call, with the reader at the opening parenthesis. -/
def call (inner : ExprReader m) (callee : Callee) (r : Reader) : m (Expr × Reader) := do
  let opening := r.span
  let (args, r) ← callInside inner r.advance
  let r := afterInside opening r
  return (.call callee args ⟨callee.start, r.lastEnd⟩, r)

/-- A call of a behavior function, with the reader at the dot after the object. -/
def behaviorCall (inner : ExprReader m) (object : Name) (r : Reader) : m (Expr × Reader) :=
  let r := r.advance
  let behavior := Name.ofToken r.token
  let r := r.advance.advance
  if r.kind = .ident then
    let function := Name.ofToken r.token
    let r := r.advance
    let callee := Callee.onBehavior object behavior function
    if r.kind = .openParen then call inner callee r
    else
      return (.call callee [] (object.span.merge function.span),
        r.report .callParenthesisExpected r.span)
  else
    let r := r.report .behaviorFunctionExpected r.span
    return (r.errorNode "missing behavior function" ⟨object.span.start, r.lastEnd⟩, r)

/-- The accessors after a variable, at most `n` of them. -/
def accessors (inner : ExprReader m) : Nat → Reader → m (List Accessor × Reader)
  | 0, r => do
    Watch.visit .cutoff r
    return ([], r)
  | n + 1, r => do
    Watch.visit .accessors r
    match r.kind with
    | .dot =>
      let dot := r.span
      let r := r.advance
      if r.kind = .ident then
        let child := r.token
        let (rest, r) ← accessors inner n r.advance
        return (.child child.text (dot.merge child.span) :: rest, r)
      else return ([], r.report .childNameExpected r.span)
    | .openBracket =>
      let opening := r.span
      let (index, r) ← inner 0 r.advance
      if r.kind = .closeBracket then
        let span := opening.merge r.span
        let (rest, r) ← accessors inner n r.advance
        return (.index index span :: rest, r)
      else
        let span := r.spanFrom opening
        return ([.index index span], r.report (.unterminatedIndex opening) span)
    | _ => return ([], r)

/-- A variable with its accessors, with the reader at the first one. -/
def access (inner : ExprReader m) (name : Name) (r : Reader) : m (Expr × Reader) := do
  let (steps, r) ← accessors inner (r.tokens.length + 1) r
  return (.access name steps (r.spanFrom name.span), r)

/-- What begins with a name. -/
def named (inner : ExprReader m) (r : Reader) : m (Expr × Reader) :=
  let first := Name.ofToken r.token
  let r := r.advance
  match r.kindAt 0, r.kindAt 1, r.kindAt 2 with
  | .openParen, _, _ => call inner (.free first) r
  | .dot, .ident, .openParen =>
    let r := r.advance
    call inner (.onObject first (Name.ofToken r.token)) r.advance
  | .dot, .ident, .colonColon => behaviorCall inner first r
  | .dot, _, _ => access inner first r
  | .openBracket, _, _ => access inner first r
  | _, _, _ => return (.identifier first.text first.span, r)

/-- An operand without a sign before it. -/
def primary (inner : ExprReader m) (r : Reader) : m (Expr × Reader) :=
  let t := r.token
  match r.kind with
  | .number => return (.number t.text t.span, r.advance)
  | .string => return (.string (decodeText t.text) t.span, r.advance)
  | .unterminatedString => return r.advance.fail .unterminatedString "unterminated string" t.span
  | .openParen => group inner r
  | .ident => named inner r
  | .eof => return missing .incomplete r
  | .closeParen => return missing .valueBeforeClosing r
  | .comma => return missing (.valueExpected .comma) r
  | .closeBracket => return missing (.valueExpected .closeBracket) r
  | _ => unexpected r

/-- An operand: signs first, then a value. -/
def operand (inner : ExprReader m) (r : Reader) : m (Expr × Reader) :=
  match r.kind.sign? with
  | some sign => do
    let s := r.span
    let (value, r) ← inner signStrength r.advance
    return (.unary sign value (s.merge value.span), r)
  | none => primary inner r

end

/-! ### What is yielded -/

/-- A relation between computations and their results that goes along with composition. -/
structure Yields (m : Type → Type) [Monad m] [Watch m] where
  Yield : {α : Type} → m α → α → Prop
  pure : ∀ {α : Type} (a : α), Yield (Pure.pure a) a
  bind : ∀ {α β : Type} {x : m α} {f : α → m β} {a : α} {b : β}, Yield x a → Yield (f a) b →
    Yield (x >>= f) b
  visit : ∀ (place : Waypoint) (r : Reader), Yield (Watch.visit place r) ()

namespace Yields

section

variable {m : Type → Type} [Monad m] [Watch m] (y : Yields m)

theorem skipping (place : Waypoint) (n : Nat) (r : Reader) :
    y.Yield (Effectful.skipping place n r) (r.skip n) := by
  induction n generalizing r with
  | zero => exact y.bind (y.visit place r) (y.pure r)
  | succ n ih => exact y.bind (y.visit place r) (ih r.advance)

theorem tooDeep (r : Reader) : y.Yield (Effectful.tooDeep r) (EventSheet.tooDeep r) :=
  y.bind (y.skipping _ _ r) (y.pure _)

theorem unexpected (r : Reader) : y.Yield (Effectful.unexpected r) (EventSheet.unexpected r) :=
  y.bind (y.skipping _ _ r.advance) (y.pure _)

variable {inner : ExprReader m} {plain : EventSheet.ExprReader}
  (hi : ∀ strength r, y.Yield (inner strength r) (plain strength r))

include hi

theorem group (r : Reader) : y.Yield (Effectful.group inner r) (EventSheet.group plain r) :=
  y.bind (hi 0 r.advance) (y.pure _)

theorem arguments (k : Nat) (r : Reader) :
    y.Yield (Effectful.arguments inner k r) (EventSheet.arguments plain k r) := by
  induction k generalizing r with
  | zero => exact y.bind (y.visit .cutoff r) (y.pure _)
  | succ k ih =>
    rw [arguments_succ]
    refine y.bind (y.visit .arguments r) (y.bind (hi 0 r) ?_)
    dsimp only
    split
    · exact y.bind (ih _) (y.pure _)
    · exact y.pure _

theorem callInside (r : Reader) :
    y.Yield (Effectful.callInside inner r) (EventSheet.callInside plain r) := by
  unfold Effectful.callInside EventSheet.callInside
  split
  · exact y.pure _
  · exact y.arguments hi _ r

theorem call (callee : Callee) (r : Reader) :
    y.Yield (Effectful.call inner callee r) (EventSheet.call plain callee r) :=
  y.bind (y.callInside hi r.advance) (y.pure _)

theorem behaviorCall (object : Name) (r : Reader) :
    y.Yield (Effectful.behaviorCall inner object r) (EventSheet.behaviorCall plain object r) := by
  unfold Effectful.behaviorCall EventSheet.behaviorCall
  dsimp only
  split
  · split
    · exact y.call hi _ _
    · exact y.pure _
  · exact y.pure _

theorem accessors (k : Nat) (r : Reader) :
    y.Yield (Effectful.accessors inner k r) (EventSheet.accessors plain k r) := by
  induction k generalizing r with
  | zero => exact y.bind (y.visit .cutoff r) (y.pure _)
  | succ k ih =>
    unfold Effectful.accessors EventSheet.accessors
    refine y.bind (y.visit .accessors r) ?_
    cases r.kind with
    | dot =>
      dsimp only
      split
      · exact y.bind (ih _) (y.pure _)
      · exact y.pure _
    | openBracket =>
      refine y.bind (hi 0 r.advance) ?_
      dsimp only
      split
      · exact y.bind (ih _) (y.pure _)
      · exact y.pure _
    | _ => exact y.pure _

theorem access (name : Name) (r : Reader) :
    y.Yield (Effectful.access inner name r) (EventSheet.access plain name r) :=
  y.bind (y.accessors hi _ r) (y.pure _)

theorem named (r : Reader) : y.Yield (Effectful.named inner r) (EventSheet.named plain r) := by
  unfold Effectful.named EventSheet.named
  dsimp only
  cases r.advance.kindAt 0 with
  | openParen => exact y.call hi _ _
  | openBracket => exact y.access hi _ _
  | dot =>
    cases r.advance.kindAt 1 with
    | ident =>
      cases r.advance.kindAt 2 with
      | openParen => exact y.call hi _ _
      | colonColon => exact y.behaviorCall hi _ _
      | _ => exact y.access hi _ _
    | _ => exact y.access hi _ _
  | _ => exact y.pure _

theorem primary (r : Reader) :
    y.Yield (Effectful.primary inner r) (EventSheet.primary plain r) := by
  unfold Effectful.primary EventSheet.primary
  dsimp only
  cases r.kind with
  | openParen => exact y.group hi r
  | ident => exact y.named hi r
  | plus | minus | star | slash | caret | dot | colonColon | openBracket | unknown =>
    exact y.unexpected r
  | _ => exact y.pure _

/-- What is yielded further down is yielded by an operand. -/
theorem operand (r : Reader) :
    y.Yield (Effectful.operand inner r) (EventSheet.operand plain r) := by
  unfold Effectful.operand EventSheet.operand
  cases r.kind.sign? with
  | some sign => exact y.bind (hi signStrength r.advance) (y.pure _)
  | none => exact y.primary hi r

end

end Yields

/-! ### Counting -/

/-- What keeps a count and may fail to come to an end. -/
abbrev Counting := StateT Nat Option

/-- A count is all that is kept of a reading. -/
instance : Watch Counting where
  visit _ _ := Pure.pure ()

section

variable {α β : Type} {x : Counting α} {f : α → Counting β} {a : α} {b : β} {n n' n'' : Nat}

/-- From one count it comes to a result and to another count. -/
def Gives (x : Counting α) (n : Nat) (a : α) (n' : Nat) : Prop := x.run n = some (a, n')

theorem Gives.pure (a : α) (n : Nat) : Gives (pure a) n a n := rfl

theorem Gives.bind (hx : Gives x n a n') (hf : Gives (f a) n' b n'') : Gives (x >>= f) n b n'' := by
  rw [Gives, StateT.run_bind, hx]
  exact hf

theorem Gives.get (n : Nat) : Gives get n n n := rfl

theorem Gives.set (n n' : Nat) : Gives (set n') n () n' := rfl

end

/-- What is yielded where the count is left as it was. -/
def Gives.yields (n : Nat) : Yields Counting where
  Yield x a := Gives x n a n
  pure a := .pure a n
  bind hx hf := hx.bind hf
  visit _ _ := .pure () n

/-- Whether the reader gives what another one does and leaves the count as it was. -/
def ExprReader.Keeps (inner : ExprReader Counting) (n : Nat) (plain : EventSheet.ExprReader) :
    Prop :=
  ∀ (strength : Nat) (r : Reader), Gives (inner strength r) n (plain strength r) n

/-- What keeps the count further down keeps it in an operand. -/
theorem operand_gives {inner : ExprReader Counting} {plain : EventSheet.ExprReader} {n : Nat}
    (hi : inner.Keeps n plain) (r : Reader) :
    Gives (operand inner r) n (EventSheet.operand plain r) n :=
  (Gives.yields n).operand hi r

end Effectful

end EventSheet

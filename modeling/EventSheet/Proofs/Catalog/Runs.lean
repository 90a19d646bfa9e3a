import EventSheet.Catalog.Operation
import EventSheet.Proofs.Catalog.Registration

/-!
# Runs of operations on a platform

However a platform came about, it is what registering some extensions in order on the empty platform
gives: those that were registered since it was last started over. So its look-ups answer with the
last declaration among them, and an operation that fails changes nothing:
`Platform.afterAll_last_wins`.
-/

namespace EventSheet

/-! ### Single operations -/

namespace Operation

theorem run_forM_add (p : Platform) (es : List Extension) :
    (es.forM fun e => (modify (·.add e) : Registration Unit)).run p = (.ok (), p.addAll es) := by
  induction es generalizing p with
  | nil => rfl
  | cons e es ih => exact ih (p.add e)

section

variable {p : Platform} {path text : String} {es : List Extension} {error : LoadError}

/-- A catalog text that can be read takes the place of the platform. -/
theorem outcome_replace_ok (h : readCatalog inlineOrigin text = .ok es) :
    outcome p (.replace text) = (.ok (), Platform.empty.addAll es) := by
  simp only [outcome, perform, Platform.load, h]
  rfl

theorem outcome_replace_error (h : readCatalog inlineOrigin text = .error error) :
    outcome p (.replace text) = (.error error, p) := by
  simp only [outcome, perform, Platform.load, h]
  rfl

/-- A catalog file that can be read adds its extensions to the platform. -/
theorem outcome_load_ok (h : readCatalog path text = .ok es) :
    outcome p (.load path (.ok text)) = (.ok (), p.addAll es) := by
  simp only [outcome, perform, h]
  exact run_forM_add p es

theorem outcome_load_error (h : readCatalog path text = .error error) :
    outcome p (.load path (.ok text)) = (.error error, p) := by
  simp only [outcome, perform, h]
  rfl

end

/-- Loading a file in place gives the platform that loading its text gives. -/
theorem outcome_load_eq (p : Platform) (path text : String) :
    outcome p (.load path (.ok text)) =
      match p.load path text with
      | .ok q => (.ok (), q)
      | .error e => (.error e, p) := by
  cases h : readCatalog path text with
  | ok es => simp only [outcome_load_ok h, Platform.load, h, Except.map]
  | error e => simp only [outcome_load_error h, Platform.load, h, Except.map]

/-- The registered extensions after an operation, from those before it. -/
def record (log : List Extension) : Operation → List Extension
  | clear => []
  | restore => builtinExtensions
  | replace text =>
    match readCatalog inlineOrigin text with
    | .ok es => es
    | .error _ => log
  | load _ (.error _) => log
  | load path (.ok text) =>
    match readCatalog path text with
    | .ok es => log ++ es
    | .error _ => log
  | add e => log ++ [e]

/-- What an operation does to a platform and to the registered extensions. -/
inductive Does (p : Platform) (log : List Extension) (op : Operation) : Prop
  /-- It starts over with some extensions. -/
  | starts (es : List Extension) (done : op.outcome p = (.ok (), Platform.empty.addAll es))
      (recorded : op.record log = es)
  /-- It registers some more extensions. -/
  | goesOn (es : List Extension) (done : op.outcome p = (.ok (), p.addAll es))
      (recorded : op.record log = log ++ es)
  /-- It fails and leaves everything as it was. -/
  | fails (error : LoadError) (done : op.outcome p = (.error error, p))
      (recorded : op.record log = log)

theorem does (p : Platform) (log : List Extension) (op : Operation) : op.Does p log := by
  cases op with
  | clear => exact .starts [] rfl rfl
  | restore => exact .starts builtinExtensions rfl rfl
  | replace text =>
    cases h : readCatalog inlineOrigin text with
    | ok es => exact .starts es (outcome_replace_ok h) (by simp only [record, h])
    | error e => exact .fails e (outcome_replace_error h) (by simp only [record, h])
  | load path content =>
    cases content with
    | error reason => exact .fails _ rfl rfl
    | ok text =>
      cases h : readCatalog path text with
      | ok es => exact .goesOn es (outcome_load_ok h) (by simp only [record, h])
      | error e => exact .fails e (outcome_load_error h) (by simp only [record, h])
  | add e => exact .goesOn [e] rfl rfl

/-- An operation that fails leaves the platform as it was. -/
theorem after_eq_of_error {p : Platform} {op : Operation} {error : LoadError}
    (h : (op.outcome p).1 = .error error) : p.after op = p := by
  cases op.does p [] with
  | starts es done => exact nomatch (congrArg Prod.fst done).symm.trans h
  | goesOn es done => exact nomatch (congrArg Prod.fst done).symm.trans h
  | fails e done => exact congrArg Prod.snd done

end Operation

/-! ### Runs -/

/-- The extensions that some operations leave registered on a platform that had none: all that were
registered since the platform was last started over. -/
def registered (ops : List Operation) : List Extension := ops.foldl Operation.record []

namespace Platform

/-- After an operation the platform holds what is registered then. -/
theorem after_addAll (log : List Extension) (op : Operation) :
    (empty.addAll log).after op = empty.addAll (op.record log) := by
  rw [after]
  cases op.does (empty.addAll log) log with
  | starts es done recorded => rw [done, recorded]
  | goesOn es done recorded =>
    rw [done, recorded]
    exact (List.foldl_append ..).symm
  | fails e done recorded => rw [done, recorded]

theorem afterAll_addAll (log : List Extension) (ops : List Operation) :
    (empty.addAll log).afterAll ops = empty.addAll (ops.foldl Operation.record log) := by
  induction ops generalizing log with
  | nil => rfl
  | cons op ops ih =>
    have hstep : (empty.addAll log).afterAll (op :: ops) =
        ((empty.addAll log).after op).afterAll ops := rfl
    rw [hstep, after_addAll, ih, List.foldl_cons]

theorem afterAll_eq (ops : List Operation) : empty.afterAll ops = empty.addAll (registered ops) :=
  afterAll_addAll [] ops

/-- After any run of operations the last declaration wins. An operation that fails then changes
nothing, every look-up answers with the last declaration among the extensions registered since the
platform was last started over, and functions are counted by the ways in which they can be
called. -/
theorem afterAll_last_wins (ops : List Operation) :
    (∀ op error, (Operation.outcome (empty.afterAll ops) op).1 = .error error →
      (empty.afterAll ops).after op = empty.afterAll ops) ∧
    (∀ name, (empty.afterAll ops).freeFunction name =
      lastNamed name ((registered ops).flatMap (·.functions))) ∧
    (∀ type name, (empty.afterAll ops).objectFunction type name =
      (lastNamed name (objectFunctions (registered ops) type)).or
        (lastNamed name (objectFunctions (registered ops) baseObjectType))) ∧
    (∀ type name, (empty.afterAll ops).behaviorFunction type name =
      lastNamed name (behaviorFunctions (registered ops) type)) ∧
    (∀ type, (empty.afterAll ops).objectType type =
      (lastRecord type ((registered ops).flatMap (·.objects))).map ObjectType.withoutFunctions) ∧
    (empty.afterAll ops).extensions = (registered ops).map (·.name) ∧
    (empty.afterAll ops).functionCount =
      ((registered ops).flatMap callKeys).toFinset.card := by
  refine ⟨fun op error h => Operation.after_eq_of_error h, ?_⟩
  rw [afterAll_eq]
  have hfree : ∀ name, empty.freeFunction name = none := fun _ => rfl
  have hobjects : ∀ type name, owned empty.objects type name = none := fun _ _ => rfl
  have hbehaviors : ∀ type name, empty.behaviorFunction type name = none := fun _ _ => rfl
  have htypes : ∀ type, empty.objectType type = none := fun _ => rfl
  refine ⟨?_, ?_, ?_, ?_, ?_, functionCount_addAll _⟩
  · intro name
    rw [freeFunction_addAll, hfree, Option.or_none]
  · intro type name
    rw [objectFunction, Option.orElse_eq_orElse, Option.orElse_eq_or, owned_objects_addAll,
      owned_objects_addAll, hobjects, hobjects, Option.or_none, Option.or_none]
  · intro type name
    rw [behaviorFunction_addAll, hbehaviors, Option.or_none]
  · intro type
    rw [objectType_addAll, htypes, Option.or_none]
  · rw [addAll_eq]
    exact List.nil_append _

/-- After a function was declared twice a file that cannot be read changes nothing, and the second
declaration answers. -/
theorem afterAll_last_wins_redeclared :
    let ops : List Operation :=
      [.restore, .clear, .add ⟨"First", [.simple "Twice" "number" []], [], []⟩,
        .add ⟨"Second", [.simple "Twice" "string" []], [], []⟩]
    (Operation.outcome (empty.afterAll ops) (.load "lost.json" (.error "not found"))).1 =
        .error (.unreadable "lost.json" "not found") ∧
      (empty.afterAll ops).after (.load "lost.json" (.error "not found")) = empty.afterAll ops ∧
      (empty.afterAll ops).freeFunction "Twice" = some (.simple "Twice" "string" []) :=
  ⟨rfl, (afterAll_last_wins _).1 _ _ rfl, ((afterAll_last_wins _).2.1 "Twice").trans (by decide)⟩

end Platform

end EventSheet

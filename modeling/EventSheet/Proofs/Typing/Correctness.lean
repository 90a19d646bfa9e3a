import EventSheet.Proofs.Typing.Acceptance
import EventSheet.Proofs.Typing.Agreement

/-!
# What is accepted is typed

Checking is sound and complete for the typing judgement, for trees and for whole texts: a text is
accepted where a number or a text is required exactly when it can be read and its tree has the type.
-/

namespace EventSheet

/-- A text that can be read has nothing unread in its tree. -/
theorem legible_of_ok {source : String} (hok : (parse source).ok = true) :
    (parse source).root.Legible := by
  intro n hn
  rcases parse_root_cases hok with ⟨-, s, hroot⟩ | ⟨-, c, hroot⟩
  · have hmem : n ∈ [Expr.empty s] := by rwa [hroot] at hn
    rw [List.mem_singleton.1 hmem]
    rfl
  · rw [hroot] at hn
    have hwritten := c.isWritten_of_mem_nodes hn
    cases n with
    | error => exact nomatch hwritten
    | _ => rfl

theorem hasErrors_eq_false_iff {ctx : Context} {expected : SemanticType} {source : String} :
    (checkText ctx expected source).hasErrors = false ↔
      (parse source).ok = true ∧
        Faultless ((parse source).root.check ctx expected).diagnostics := by
  refine ⟨faultless_of_hasErrors, fun ⟨hok, hf⟩ => ?_⟩
  exact any_isError_eq_false_iff.2 (faultless_append.2 ⟨all_not_isError_iff.1 hok, hf⟩)

/-- Checking is sound and complete for the judgement. On a tree without unread text it finds no
error exactly where the judgement gives the required type, or some type where a number or a text may
stand; and a text is accepted exactly when it can be read and the same holds of its tree. -/
theorem check_iff_hasType (ctx : Context) :
    (∀ e : Expr, e.Legible → Agrees ctx e) ∧
      ∀ source : String,
        ((checkText ctx .number source).hasErrors = false ↔
          (parse source).ok = true ∧
            HasType ctx (.ofScope ctx.scope) (parse source).root .number) ∧
        ((checkText ctx .string source).hasErrors = false ↔
          (parse source).ok = true ∧
            HasType ctx (.ofScope ctx.scope) (parse source).root .string) ∧
        ∀ t, (checkText ctx .numberOrString source).hasErrors = false ∧
            (checkText ctx .numberOrString source).type = t ↔
          (parse source).ok = true ∧ HasType ctx (.ofScope ctx.scope) (parse source).root t := by
  refine ⟨fun e he => e.agrees ctx he, fun source => ⟨?_, ?_, fun t => ?_⟩⟩
  · rw [hasErrors_eq_false_iff]
    exact and_congr_right fun hok => (Expr.agrees ctx _ (legible_of_ok hok)).number
  · rw [hasErrors_eq_false_iff]
    exact and_congr_right fun hok => (Expr.agrees ctx _ (legible_of_ok hok)).string
  · rw [hasErrors_eq_false_iff, and_assoc]
    exact and_congr_right fun hok => (Expr.agrees ctx _ (legible_of_ok hok)).either t

theorem check_iff_hasType_sum :
    Agrees .bare (.binary .add (.number "1" ⟨0, 1⟩) (.number "2" ⟨4, 5⟩) ⟨0, 5⟩) :=
  (check_iff_hasType .bare).1 _
    (by simp [Expr.Legible, Expr.nodes, Expr.descendants, Expr.isError])

/-- Names for which only their form counts, with no rule for behaviors. -/
def Naming.byForm : Naming := ⟨fun _ _ => True, fun _ _ => False⟩

/-- A function of a variable and a function of a behavior, with an object that has the behavior. -/
def Context.sample : Context where
  provider :=
    { freeFunction := fun name =>
        if name = "Count" then some ⟨"Count", "number", [.required "objectvar"], none, ""⟩
        else if name = "Pick" then
          some ⟨"Pick", "number", [.required "object", .required "behavior"], none, ""⟩
        else none
      objectFunction := fun _ _ => none
      behaviorFunction := fun _ _ => none
      objectType := fun _ => none }
  scope :=
    ⟨.empty, ⟨.ofList [("Player", ⟨"Sprite", .ofList [("Jump", "Platformer")], none⟩)], .empty⟩⟩

/-- Judged by the form of names alone, checking and typing disagree both ways: a variable of an
object is refused without an object before it, and a behavior of an object is accepted. -/
theorem form_of_names_not_enough :
    (HasType .sample .byForm (parse "Count(v)").root .number ∧
        (checkText .sample .number "Count(v)").hasErrors = true) ∧
      ¬ HasType .sample .byForm (parse "Pick(Player, Jump)").root .number ∧
        (checkText .sample .number "Pick(Player, Jump)").hasErrors = false := by
  have hcount : (parse "Count(v)").root =
      .call (.free ⟨"Count", ⟨0, 5⟩⟩) [.identifier "v" ⟨6, 7⟩] ⟨0, 8⟩ := by
    with_unfolding_all rfl
  have hpick : (parse "Pick(Player, Jump)").root =
      .call (.free ⟨"Pick", ⟨0, 4⟩⟩) [.identifier "Player" ⟨5, 11⟩, .identifier "Jump" ⟨13, 17⟩]
        ⟨0, 18⟩ := by
    with_unfolding_all rfl
  refine ⟨⟨?_, by decide +kernel⟩, ?_, by decide +kernel⟩
  · rw [hcount, hasType_call_iff]
    have hfound : (Context.sample.lookup (.free ⟨"Count", ⟨0, 5⟩⟩)).signature =
        some ⟨"Count", "number", [.required "objectvar"], none, ""⟩ := by decide +kernel
    refine ⟨_, ⟨hfound, by simp [Callee.object?], by decide +kernel, by decide +kernel⟩, rfl,
      by decide +kernel, ?_⟩
    exact .cons (.var (by decide +kernel) trivial) .done
  · rw [hpick, hasType_call_iff]
    rintro ⟨f, hf, -, -, hargs⟩
    obtain rfl := Option.some.inj hf.found
    cases hargs with
    | cons _ hrest =>
      cases hrest with
      | cons hfit _ =>
        obtain ⟨name, -, hno⟩ := (fits_behavior_iff (by decide +kernel)).1 hfit
        exact hno

end EventSheet

import HookRules.Proofs.Fact.Answers
import HookRules.Proofs.Run.Derivation

/-!
A document as a flat plan. Where every question has one answer throughout, filters, scopes and
tokens can be worked out in advance, and what is left of a document is a list of things to do, each
with the tokens that hold there. Evaluating the document is going through the list until something
stops it.
-/

set_option autoImplicit false

namespace HookRules

/-- One thing to do. -/
inductive PlanStep (World : Type)
  | action (action : Action) (scope : Tokens)
  | custom (perform : Setting World → Tokens → Act World (Outcome × Tokens)) (scope : Tokens)
  /-- A rule that can not be built, or a filter that can not select. -/
  | failure (failure : Failure)

/-- What a condition selects with the answers at hand. -/
def Condition.selected (condition : Condition) (answers : Answers) (event : Event)
    (scope : Tokens) : Except Failure (List Bindings) :=
  ((condition.select (Setting.onPaper answers event) scope).run ⟨(), []⟩).1

section Plan

variable {World : Type} (answers : Answers) (event : Event) (registry : Registry World)

mutual

/-- What is to be done for an element, and the tokens that hold after it. -/
def planOf (build : Builder World) : Element → Tokens → List (PlanStep World) × Tokens
  | element@⟨_, _, _, children, _⟩, scope =>
    match build element with
    | .error error => ([.failure (.rule error)], scope)
    | .ok (.action (.setToken name value)) => ([], scope.set name value)
    | .ok (.action action) => ([.action action scope], scope)
    | .ok (.custom perform) => ([.custom perform scope], scope)
    | .ok (.filter filter) =>
      match filter.condition.selected answers event scope with
      | .error failure => ([.failure failure], scope)
      | .ok items =>
        ((filter.chosen items).flatMap fun bindings =>
          (planAll filter.consumed children (scope.setAll bindings)).1, scope)

/-- What is to be done for children in order. Those that are no rules contribute nothing. -/
def planAll (consumed : List String) : List Element → Tokens → List (PlanStep World) × Tokens
  | [], scope => ([], scope)
  | child :: rest, scope =>
    if consumed.contains child.name then planAll consumed rest scope
    else match registry.lookup? child.name with
      | none => planAll consumed rest scope
      | some build =>
        let (steps, after) := planOf build child scope
        let (more, final) := planAll consumed rest after
        (steps ++ more, final)

end

variable {answers event registry} {build : Builder World} {element : Element} {scope : Tokens}

theorem planOf_unbuilt {error : RuleError} (unbuilt : build element = .error error) :
    planOf answers event registry build element scope = ([.failure (.rule error)], scope) := by
  obtain ⟨name, attributes, text, children, span⟩ := element
  rw [planOf, unbuilt]

theorem planOf_setToken {name value : String}
    (built : build element = .ok (.action (.setToken name value))) :
    planOf answers event registry build element scope = ([], scope.set name value) := by
  obtain ⟨_, attributes, text, children, span⟩ := element
  rw [planOf, built]

theorem planOf_action {action : Action} (built : build element = .ok (.action action))
    (other : ∀ name value, action ≠ .setToken name value) :
    planOf answers event registry build element scope = ([.action action scope], scope) := by
  obtain ⟨name, attributes, text, children, span⟩ := element
  rw [planOf, built]
  cases action with
  | setToken name value => exact absurd rfl (other name value)
  | _ => rfl

theorem planOf_custom {perform : Setting World → Tokens → Act World (Outcome × Tokens)}
    (built : build element = .ok (.custom perform)) :
    planOf answers event registry build element scope = ([.custom perform scope], scope) := by
  obtain ⟨name, attributes, text, children, span⟩ := element
  rw [planOf, built]

theorem planOf_unselected {filter : Filter} {failure : Failure}
    (built : build element = .ok (.filter filter))
    (selected : filter.condition.selected answers event scope = .error failure) :
    planOf answers event registry build element scope = ([.failure failure], scope) := by
  obtain ⟨name, attributes, text, children, span⟩ := element
  rw [planOf, built]
  dsimp only
  rw [selected]

theorem planOf_selected {filter : Filter} {items : List Bindings}
    (built : build element = .ok (.filter filter))
    (selected : filter.condition.selected answers event scope = .ok items) :
    planOf answers event registry build element scope =
      ((filter.chosen items).flatMap fun bindings =>
        (planAll answers event registry filter.consumed element.children
          (scope.setAll bindings)).1, scope) := by
  obtain ⟨name, attributes, text, children, span⟩ := element
  rw [planOf, built]
  dsimp only
  rw [selected]

variable {consumed : List String} {child : Element} (rest : List Element)

theorem planAll_consumed (taken : consumed.contains child.name = true) :
    planAll answers event registry consumed (child :: rest) scope =
      planAll answers event registry consumed rest scope := by
  rw [planAll, if_pos taken]

theorem planAll_unknown (kept : consumed.contains child.name = false)
    (unknown : registry.lookup? child.name = none) :
    planAll answers event registry consumed (child :: rest) scope =
      planAll answers event registry consumed rest scope := by
  rw [planAll, if_neg (Bool.eq_false_iff.mp kept), unknown]

theorem planAll_known (kept : consumed.contains child.name = false)
    (known : registry.lookup? child.name = some build) :
    planAll answers event registry consumed (child :: rest) scope =
      let first := planOf answers event registry build child scope
      let later := planAll answers event registry consumed rest first.2
      (first.1 ++ later.1, later.2) := by
  rw [planAll, if_neg (Bool.eq_false_iff.mp kept), known]

variable (answers event registry)

/-- What is to be done for a root, which has to be a rule. -/
def planRoot (root : Element) (scope : Tokens) : List (PlanStep World) × Tokens :=
  match registry.lookup? root.name with
  | some build => planOf answers event registry build root scope
  | none => ([.failure (.rule (.unknownRule root.name root.span))], scope)

def Task.plan (scope : Tokens) : Task World → List (PlanStep World) × Tokens
  | .element build target => planOf answers event registry build target scope
  | .children consumed targets => planAll answers event registry consumed targets scope
  | .items consumed targets selected =>
    (selected.flatMap fun bindings =>
      (planAll answers event registry consumed targets (scope.setAll bindings)).1, scope)

end Plan

theorem Outcome.done_of_passes {outcome : Outcome} (passes : outcome.stops = false) :
    outcome = .done := by
  cases outcome with
  | code value => simpa [Outcome.stops, Outcome.done] using passes
  | internal failure => cases passes

namespace PlanStep

variable {World : Type}

def act (setting : Setting World) : PlanStep World → Act World (Outcome × Tokens)
  | .action deed scope => deed.perform setting scope
  | .custom deed scope => deed setting scope
  | .failure reason => Act.fail reason

def perform (setting : Setting World) (step : PlanStep World) : Step World Outcome := do
  return Act.outcome (← (step.act setting).run)

/-- Does one thing after another until one stops. -/
def performAll (setting : Setting World) : List (PlanStep World) → Step World Outcome
  | [] => pure .done
  | step :: rest => do
    let outcome ← step.perform setting
    if outcome.stops then return outcome else performAll setting rest

variable {setting : Setting World}

private theorem performAll_cons (step : PlanStep World) (rest : List (PlanStep World))
    (run : Run World) :
    performAll setting (step :: rest) run =
      if (step.perform setting run).1.stops then step.perform setting run
      else performAll setting rest (step.perform setting run).2 := by
  rw [performAll, Step.run_bind]
  split <;> rfl

theorem performAll_single (step : PlanStep World) (run : Run World) :
    performAll setting [step] run = step.perform setting run := by
  rw [performAll_cons]
  cases stops : (step.perform setting run).1.stops with
  | true => rfl
  | false =>
      have passed := Outcome.done_of_passes stops
      exact Prod.ext passed.symm rfl

theorem performAll_append (first second : List (PlanStep World)) (run : Run World) :
    performAll setting (first ++ second) run =
      if (performAll setting first run).1.stops then performAll setting first run
      else performAll setting second (performAll setting first run).2 := by
  induction first generalizing run with
  | nil => rfl
  | cons step rest ih =>
      rw [List.cons_append, performAll_cons, performAll_cons]
      cases stops : (step.perform setting run).1.stops with
      | true => simp [stops]
      | false => simpa [stops] using ih (step.perform setting run).2

end PlanStep

end HookRules

import HookRules.Proofs.Run.Act
import HookRules.Run.Evaluation

/-!
Derivations of evaluations. One relation covers an element, the children of an element and the
items of a filter, and names what each part of an evaluation does; the evaluator follows it. A
derivation also lists the elements that are evaluated, which the journal does not show in full.
-/

set_option autoImplicit false

namespace HookRules

/-- An element that is evaluated, and the tokens that hold when it is. -/
structure Visit where
  element : Element
  scope : Tokens

/-- A part of an evaluation. -/
inductive Task (World : Type)
  /-- An element, whose rule is built by `build`. -/
  | element (build : Builder World) (element : Element)
  /-- Children in order, without those that are consumed. -/
  | children (consumed : List String) (children : List Element)
  /-- The same children once for each item. -/
  | items (consumed : List String) (children : List Element) (items : List Bindings)

namespace Task

variable {World : Type}

/-- The elements of the trees that the task may evaluate. -/
def nodes : Task World → List Element
  | .element _ target => target.nodes
  | .children _ targets => Element.nodesOf targets
  | .items _ targets _ => Element.nodesOf targets

/-- An element is built as the registry says. -/
def Registered (registry : Registry World) : Task World → Prop
  | .element build target => registry.lookup? target.name = some build
  | .children _ _ => True
  | .items _ _ _ => True

end Task

namespace Rule

variable {World : Type}

/-- What is performed where the rule is no filter. -/
def act? [Scribe World] (setting : Setting World) (tokens : Tokens) :
    Rule World → Option (Act World (Outcome × Tokens))
  | .filter _ => none
  | .action deed => some (deed.perform setting tokens)
  | .custom perform => some (perform setting tokens)

end Rule

namespace Element

variable {World : Type} [Scribe World]

theorem nodes_eq (element : Element) :
    element.nodes = element :: Element.nodesOf element.children := by
  obtain ⟨name, attributes, text, children, span⟩ := element
  rw [Element.nodes]

theorem mem_nodes (element : Element) : element ∈ element.nodes := by
  rw [nodes_eq]
  exact List.mem_cons_self

def enter (element : Element) (run : Run World) : Run World :=
  run.note (.evaluating element.name element.span.line)

def blame (element : Element) (failure : Failure) (run : Run World) : Run World :=
  run.note (.failed failure element.name element.span.line element.span.column)

end Element

variable {World : Type} [Scribe World] (setting : Setting World) (registry : Registry World)

/-- A task that begins with some tokens and a run visits some elements, comes to an outcome, and
leaves tokens and a run. -/
inductive Evaluates :
    Task World → Tokens → Run World → List Visit → Outcome → Tokens → Run World → Prop
  | unbuilt {build element error tokens run} :
      build element = .error error →
      Evaluates (.element build element) tokens run [⟨element, tokens⟩] (.internal (.rule error))
        tokens (element.blame (.rule error) (element.enter run))
  | performed {build element rule act tokens run outcome final after} :
      build element = .ok rule → rule.act? setting tokens = some act →
      act.run (element.enter run) = (.ok (outcome, final), after) →
      Evaluates (.element build element) tokens run [⟨element, tokens⟩] outcome final after
  | unperformed {build element rule act tokens run failure after} :
      build element = .ok rule → rule.act? setting tokens = some act →
      act.run (element.enter run) = (.error failure, after) →
      Evaluates (.element build element) tokens run [⟨element, tokens⟩] (.internal failure) tokens
        (element.blame failure after)
  | unselected {build element filter tokens run failure after} :
      build element = .ok (.filter filter) →
      (filter.condition.select setting tokens).run (element.enter run) = (.error failure, after) →
      Evaluates (.element build element) tokens run [⟨element, tokens⟩] (.internal failure) tokens
        (element.blame failure after)
  | unmatched {build element filter tokens run after} :
      build element = .ok (.filter filter) →
      (filter.condition.select setting tokens).run (element.enter run) = (.ok [], after) →
      Evaluates (.element build element) tokens run [⟨element, tokens⟩] .done tokens
        (after.note (.unmatched element.name))
  | matched {build element filter items tokens run middle visits outcome final after} :
      build element = .ok (.filter filter) → items ≠ [] →
      (filter.condition.select setting tokens).run (element.enter run) = (.ok items, middle) →
      Evaluates (.items filter.consumed element.children (filter.chosen items)) tokens middle
        visits outcome final after →
      Evaluates (.element build element) tokens run (⟨element, tokens⟩ :: visits) outcome tokens
        after
  | noChildren {consumed tokens run} :
      Evaluates (.children consumed []) tokens run [] .done tokens run
  | consumed {consumed child rest tokens run visits outcome final after} :
      consumed.contains child.name = true →
      Evaluates (.children consumed rest) tokens run visits outcome final after →
      Evaluates (.children consumed (child :: rest)) tokens run visits outcome final after
  | skipped {consumed child rest tokens run visits outcome final after} :
      consumed.contains child.name = false → registry.lookup? child.name = none →
      Evaluates (.children consumed rest) tokens (run.note (.skipped child.name)) visits outcome
        final after →
      Evaluates (.children consumed (child :: rest)) tokens run visits outcome final after
  | childStops {consumed child rest build tokens run visits outcome final after} :
      consumed.contains child.name = false → registry.lookup? child.name = some build →
      Evaluates (.element build child) tokens run visits outcome final after →
      outcome.stops = true →
      Evaluates (.children consumed (child :: rest)) tokens run visits outcome final after
  | childPasses {consumed child rest build tokens run visits passed scope middle more outcome final
        after} :
      consumed.contains child.name = false → registry.lookup? child.name = some build →
      Evaluates (.element build child) tokens run visits passed scope middle →
      passed.stops = false →
      Evaluates (.children consumed rest) scope middle more outcome final after →
      Evaluates (.children consumed (child :: rest)) tokens run (visits ++ more) outcome final after
  | noItems {consumed children tokens run} :
      Evaluates (.items consumed children []) tokens run [] .done tokens run
  | itemStops {consumed children bindings rest tokens run visits outcome final after} :
      Evaluates (.children consumed children) (tokens.setAll bindings) run visits outcome final
        after →
      outcome.stops = true →
      Evaluates (.items consumed children (bindings :: rest)) tokens run visits outcome tokens after
  | itemPasses {consumed children bindings rest tokens run visits passed scope middle more outcome
        final after} :
      Evaluates (.children consumed children) (tokens.setAll bindings) run visits passed scope
        middle →
      passed.stops = false →
      Evaluates (.items consumed children rest) tokens middle more outcome final after →
      Evaluates (.items consumed children (bindings :: rest)) tokens run (visits ++ more) outcome
        tokens after

variable {setting registry}

theorem Evaluates.visits_in_nodes {task : Task World} {tokens final : Tokens}
    {run after : Run World} {visits : List Visit} {outcome : Outcome}
    (evaluation : Evaluates setting registry task tokens run visits outcome final after) :
    ∀ visit ∈ visits, visit.element ∈ task.nodes := by
  have own (element : Element) (tokens : Tokens) :
      ∀ visit ∈ [(⟨element, tokens⟩ : Visit)], visit.element ∈ element.nodes := by
    intro visit member
    rw [List.mem_singleton.mp member, element.nodes_eq]
    exact List.mem_cons_self
  induction evaluation with
  | unbuilt => exact own _ _
  | performed => exact own _ _
  | unperformed => exact own _ _
  | unselected => exact own _ _
  | unmatched => exact own _ _
  | @matched _ element _ _ tokens _ _ visits _ _ _ _ _ _ _ ih =>
      intro visit member
      rcases List.mem_cons.mp member with rfl | inner
      · exact own element tokens _ List.mem_cons_self
      · rw [Task.nodes, element.nodes_eq]
        exact List.mem_cons_of_mem _ (ih visit inner)
  | noChildren => exact fun _ member => by cases member
  | consumed _ _ ih => exact fun visit member => List.mem_append_right _ (ih visit member)
  | skipped _ _ _ ih => exact fun visit member => List.mem_append_right _ (ih visit member)
  | childStops _ _ _ _ ih => exact fun visit member => List.mem_append_left _ (ih visit member)
  | childPasses _ _ _ _ _ firstIH restIH =>
      intro visit member
      rcases List.mem_append.mp member with first | later
      · exact List.mem_append_left _ (firstIH visit first)
      · exact List.mem_append_right _ (restIH visit later)
  | noItems => exact fun _ member => by cases member
  | itemStops _ _ ih => exact ih
  | itemPasses _ _ _ firstIH restIH =>
      intro visit member
      rcases List.mem_append.mp member with first | later
      · exact firstIH visit first
      · exact restIH visit later

theorem Evaluates.begins {build : Builder World} {element : Element} {tokens final : Tokens}
    {run after : Run World} {visits : List Visit} {outcome : Outcome}
    (evaluation : Evaluates setting registry (.element build element) tokens run visits outcome final
      after) : ∃ rest, visits = ⟨element, tokens⟩ :: rest := by
  cases evaluation with
  | matched => exact ⟨_, rfl⟩
  | _ => exact ⟨[], rfl⟩

/-- Whatever is done in an evaluation, the run before it and the run after it are related. -/
structure Setting.Relates (setting : Setting World) (registry : Registry World)
    (related : Run World → Run World → Prop) : Prop where
  same : ∀ run, related run run
  joined : ∀ {first second third}, related first second → related second third →
    related first third
  noted : ∀ run notice, related run (run.note notice)
  acted : ∀ {element build rule tokens act}, registry.lookup? element.name = some build →
    build element = .ok rule → rule.act? setting tokens = some act →
    ∀ run, related run (act.run run).2
  selected : ∀ (condition : Condition) tokens run,
    related run ((condition.select setting tokens).run run).2

theorem Evaluates.related {related : Run World → Run World → Prop} {task : Task World}
    {tokens final : Tokens} {run after : Run World} {visits : List Visit} {outcome : Outcome}
    (evaluation : Evaluates setting registry task tokens run visits outcome final after)
    (relates : setting.Relates registry related) (registered : task.Registered registry) :
    related run after := by
  have acted {element : Element} {build : Builder World} {rule : Rule World} {tokens : Tokens}
      {act : Act World (Outcome × Tokens)} {run after : Run World}
      {result : Except Failure (Outcome × Tokens)}
      (known : registry.lookup? element.name = some build) (built : build element = .ok rule)
      (acts : rule.act? setting tokens = some act)
      (performed : act.run (element.enter run) = (result, after)) : related run after := by
    have stepped := relates.acted known built acts (element.enter run)
    rw [performed] at stepped
    exact relates.joined (relates.noted _ _) stepped
  have selected {element : Element} {filter : Filter} {tokens : Tokens} {run after : Run World}
      {result : Except Failure (List Bindings)}
      (chosen : (filter.condition.select setting tokens).run (element.enter run) =
        (result, after)) : related run after := by
    have stepped := relates.selected filter.condition tokens (element.enter run)
    rw [chosen] at stepped
    exact relates.joined (relates.noted _ _) stepped
  induction evaluation with
  | unbuilt => exact relates.joined (relates.noted _ _) (relates.noted _ _)
  | performed built acts performed => exact acted registered built acts performed
  | unperformed built acts performed =>
      exact relates.joined (acted registered built acts performed) (relates.noted _ _)
  | unselected _ chosen => exact relates.joined (selected chosen) (relates.noted _ _)
  | unmatched _ chosen => exact relates.joined (selected chosen) (relates.noted _ _)
  | matched _ _ chosen _ ih => exact relates.joined (selected chosen) (ih trivial)
  | noChildren => exact relates.same _
  | consumed _ _ ih => exact ih trivial
  | skipped _ _ _ ih => exact relates.joined (relates.noted _ _) (ih trivial)
  | childStops _ known _ _ ih => exact ih known
  | childPasses _ known _ _ _ firstIH restIH =>
      exact relates.joined (firstIH known) (restIH trivial)
  | noItems => exact relates.same _
  | itemStops _ _ ih => exact ih trivial
  | itemPasses _ _ _ firstIH restIH => exact relates.joined (firstIH trivial) (restIH trivial)

namespace Evaluation

variable {build : Builder World} {element : Element} {tokens : Tokens}

theorem evaluate_unbuilt {error : RuleError} (unbuilt : build element = .error error)
    (run : Run World) :
    evaluate setting registry build element tokens run =
      ((.internal (.rule error), tokens), element.blame (.rule error) (element.enter run)) := by
  obtain ⟨name, attributes, text, children, span⟩ := element
  rw [evaluate.eq_1, unbuilt]
  rfl

theorem evaluate_act {rule : Rule World} {act : Act World (Outcome × Tokens)}
    (built : build element = .ok rule) (acts : rule.act? setting tokens = some act)
    (run : Run World) :
    evaluate setting registry build element tokens run =
      match act.run (element.enter run) with
      | (.ok result, after) => (result, after)
      | (.error failure, after) => ((.internal failure, tokens), element.blame failure after) := by
  have performed : evaluate setting registry build element tokens run =
      performAt element.name element.span tokens act (element.enter run) := by
    obtain ⟨name, attributes, text, children, span⟩ := element
    rw [evaluate.eq_1, built]
    cases rule with
    | filter filter => cases acts
    | action action => cases acts; rfl
    | custom perform => cases acts; rfl
  rw [performed, performAt, Step.run_bind]
  rcases act.run (element.enter run) with ⟨_ | _, after⟩ <;> rfl

theorem evaluate_filter {filter : Filter} (built : build element = .ok (.filter filter))
    (run : Run World) :
    evaluate setting registry build element tokens run =
      match (filter.condition.select setting tokens).run (element.enter run) with
      | (.error failure, after) => ((.internal failure, tokens), element.blame failure after)
      | (.ok [], after) => ((.done, tokens), after.note (.unmatched element.name))
      | (.ok items, after) =>
        let ended := inTurn (fun bindings => do
          return (← evaluateAll setting registry filter.consumed element.children
            (tokens.setAll bindings)).1) (filter.chosen items) after
        ((ended.1, tokens), ended.2) := by
  obtain ⟨name, attributes, text, children, span⟩ := element
  rw [evaluate.eq_1, built]
  dsimp only
  generalize filter.condition.select setting tokens = choice
  have entered : (Step.note (.evaluating name span.line) run).2 =
      Element.enter ⟨name, attributes, text, children, span⟩ run := rfl
  rw [Step.run_bind, Step.run_bind, entered]
  rcases choice.run (Element.enter ⟨name, attributes, text, children, span⟩ run) with
    ⟨_ | _ | ⟨_, _⟩, after⟩ <;> rfl

theorem evaluateAll_unknown {consumed : List String} {child : Element} {rest : List Element}
    (kept : consumed.contains child.name = false) (unknown : registry.lookup? child.name = none)
    (run : Run World) :
    evaluateAll setting registry consumed (child :: rest) tokens run =
      evaluateAll setting registry consumed rest tokens (run.note (.skipped child.name)) := by
  rw [evaluateAll.eq_2, kept, unknown]
  rfl

theorem evaluateAll_known {consumed : List String} {child : Element} {rest : List Element}
    (kept : consumed.contains child.name = false)
    (known : registry.lookup? child.name = some build) (run : Run World) :
    evaluateAll setting registry consumed (child :: rest) tokens run =
      let first := evaluate setting registry build child tokens run
      if first.1.1.stops then first
      else evaluateAll setting registry consumed rest first.1.2 first.2 := by
  rw [evaluateAll.eq_2, kept, known]
  simp only [Bool.false_eq_true, ↓reduceIte]
  rw [Step.run_bind]
  rcases evaluate setting registry build child tokens run with ⟨⟨outcome, scope⟩, middle⟩
  dsimp only
  split <;> rfl

omit [Scribe World] in
theorem inTurn_cons (each : Bindings → Step World Outcome) (bindings : Bindings)
    (rest : List Bindings) (run : Run World) :
    inTurn each (bindings :: rest) run =
      let first := each bindings run
      if first.1.stops then first else inTurn each rest first.2 := by
  rw [inTurn, Step.run_bind]
  dsimp only
  split <;> rfl

variable (setting registry)

private theorem inTurn_derived {consumed : List String} {children : List Element}
    (derived : ∀ bindings run, ∃ visits, Evaluates setting registry (.children consumed children)
      (tokens.setAll bindings) run visits
      (evaluateAll setting registry consumed children (tokens.setAll bindings) run).1.1
      (evaluateAll setting registry consumed children (tokens.setAll bindings) run).1.2
      (evaluateAll setting registry consumed children (tokens.setAll bindings) run).2)
    (items : List Bindings) (run : Run World) :
    ∃ visits, Evaluates setting registry (.items consumed children items) tokens run visits
      (inTurn (fun bindings => do
        return (← evaluateAll setting registry consumed children (tokens.setAll bindings)).1)
        items run).1 tokens
      (inTurn (fun bindings => do
        return (← evaluateAll setting registry consumed children (tokens.setAll bindings)).1)
        items run).2 := by
  induction items generalizing run with
  | nil => exact ⟨[], .noItems⟩
  | cons bindings rest ih =>
      obtain ⟨visits, first⟩ := derived bindings run
      rw [inTurn_cons, Step.run_bind]
      rcases ended : evaluateAll setting registry consumed children (tokens.setAll bindings) run with
        ⟨⟨outcome, scope⟩, middle⟩
      rw [ended] at first
      cases stops : outcome.stops with
      | true => exact ⟨visits, by simpa [stops] using Evaluates.itemStops first stops⟩
      | false =>
          obtain ⟨more, later⟩ := ih middle
          exact ⟨visits ++ more, by simpa [stops] using Evaluates.itemPasses first stops later⟩

theorem derived :
    (∀ (build : Builder World) (element : Element) (tokens : Tokens) (run : Run World),
      ∃ visits, Evaluates setting registry (.element build element) tokens run visits
        (evaluate setting registry build element tokens run).1.1
        (evaluate setting registry build element tokens run).1.2
        (evaluate setting registry build element tokens run).2) ∧
    (∀ (consumed : List String) (children : List Element) (tokens : Tokens) (run : Run World),
      ∃ visits, Evaluates setting registry (.children consumed children) tokens run visits
        (evaluateAll setting registry consumed children tokens run).1.1
        (evaluateAll setting registry consumed children tokens run).1.2
        (evaluateAll setting registry consumed children tokens run).2) := by
  apply evaluate.mutual_induct registry
  · intro build name attributes text children span tokens childrenDerived run
    cases built : build ⟨name, attributes, text, children, span⟩ with
    | error error =>
        rw [evaluate_unbuilt built]
        exact ⟨_, .unbuilt built⟩
    | ok rule =>
        cases acts : rule.act? setting tokens with
        | some act =>
            rw [evaluate_act built acts]
            rcases performed : act.run (Element.enter ⟨name, attributes, text, children, span⟩ run)
              with ⟨failure | ⟨outcome, final⟩, after⟩
            · exact ⟨_, .unperformed built acts performed⟩
            · exact ⟨_, .performed built acts performed⟩
        | none =>
            cases rule with
            | action action => cases acts
            | custom perform => cases acts
            | filter filter =>
                rw [evaluate_filter built]
                rcases selected : (filter.condition.select setting tokens).run
                    (Element.enter ⟨name, attributes, text, children, span⟩ run) with
                  ⟨failure | _ | ⟨bindings, rest⟩, after⟩
                · exact ⟨_, .unselected built selected⟩
                · exact ⟨_, .unmatched built selected⟩
                · obtain ⟨visits, items⟩ := inTurn_derived setting registry
                    (childrenDerived filter) (filter.chosen (bindings :: rest)) after
                  exact ⟨_, .matched built (List.cons_ne_nil _ _) selected items⟩
  · intro consumed tokens run
    exact ⟨[], .noChildren⟩
  · intro consumed child rest tokens taken restDerived run
    obtain ⟨visits, later⟩ := restDerived run
    rw [evaluateAll.eq_2, if_pos taken]
    exact ⟨visits, .consumed taken later⟩
  · intro consumed child rest tokens kept unknown restDerived run
    obtain ⟨visits, later⟩ := restDerived (run.note (.skipped child.name))
    have remains : consumed.contains child.name = false := by simpa using kept
    rw [evaluateAll_unknown remains unknown]
    exact ⟨visits, .skipped remains unknown later⟩
  · intro consumed child rest tokens kept build known childDerived restDerived run
    obtain ⟨visits, first⟩ := childDerived run
    have remains : consumed.contains child.name = false := by simpa using kept
    rw [evaluateAll_known remains known]
    rcases ended : evaluate setting registry build child tokens run with ⟨⟨outcome, scope⟩, middle⟩
    rw [ended] at first
    cases stops : outcome.stops with
    | true => exact ⟨visits, by simpa [stops] using Evaluates.childStops remains known first stops⟩
    | false =>
        obtain ⟨more, later⟩ := restDerived scope middle
        exact ⟨visits ++ more, by
          simpa [stops] using Evaluates.childPasses remains known first stops later⟩

/-- The elements that are visited where a root is evaluated. A root that is no rule is not. -/
def Visits (root : Element) (tokens : Tokens) (run : Run World) (visits : List Visit) : Prop :=
  match registry.lookup? root.name with
  | none => visits = []
  | some build =>
    let executed := execute setting registry root tokens run
    Evaluates setting registry (.element build root) tokens run visits executed.1.1 executed.1.2
      executed.2

variable {setting registry}

theorem execute_known {root : Element} (known : registry.lookup? root.name = some build)
    (run : Run World) :
    execute setting registry root tokens run =
      evaluate setting registry build root tokens run := by
  rw [execute, known]

theorem execute_unknown {root : Element} (unknown : registry.lookup? root.name = none)
    (run : Run World) :
    execute setting registry root tokens run =
      ((.internal (.rule (.unknownRule root.name root.span)), tokens),
        root.blame (.rule (.unknownRule root.name root.span)) run) := by
  rw [execute, unknown]
  rfl

theorem run_result (root : Element) (run : Run World) :
    (Evaluation.run setting registry root tokens run).1 =
      (execute setting registry root tokens run).1 := by
  rw [Evaluation.run, Step.run_bind]
  rcases execute setting registry root tokens run with ⟨⟨outcome, final⟩, after⟩
  cases outcome <;> rfl

theorem Visits.in_nodes {root : Element} {run : Run World} {visits : List Visit}
    (visited : Visits setting registry root tokens run visits) :
    ∀ visit ∈ visits, visit.element ∈ root.nodes := by
  unfold Visits at visited
  split at visited
  · rw [visited]
    exact fun _ member => by cases member
  · exact visited.visits_in_nodes

variable (setting registry) in
theorem visits_exist (root : Element) (tokens : Tokens) (run : Run World) :
    ∃ visits, Visits setting registry root tokens run visits := by
  unfold Visits
  cases known : registry.lookup? root.name with
  | none => exact ⟨[], rfl⟩
  | some build =>
      dsimp only
      rw [execute_known known]
      exact (derived setting registry).1 build root tokens run

end Evaluation

end HookRules

import HookRules.Proofs.Fact.Answers
import HookRules.Proofs.Rule.Action
import HookRules.Proofs.Rule.Check
import HookRules.Proofs.Rule.Filter
import HookRules.Proofs.Rule.Registry
import HookRules.Proofs.Run.Derivation

/-!
Checking a document and evaluating it agree. Where an evaluation ends because a rule could not be
built, the check has found that rule; where the check finds nothing, no evaluation ends so.
-/

set_option autoImplicit false

namespace HookRules

variable {World : Type}

namespace Registry

/-- What extensions perform never ends because a rule could not be built. -/
def Careful (registry : Registry World) : Prop :=
  ∀ name build element perform, registry.lookup? name = some build →
    build element = .ok (.custom perform) → ∀ setting tokens, (perform setting tokens).Careful

theorem standard_careful : (standard : Registry World).Careful := by
  intro name build element perform known built
  obtain ⟨filter, same⟩ | ⟨action, same, _⟩ := standard_built known built <;> cases same

theorem Careful.extend {registry : Registry World} (careful : registry.Careful) (added : String)
    {make : Builder World} (makes : ∀ element perform, make element = .ok (.custom perform) →
      ∀ setting tokens, (perform setting tokens).Careful) :
    (registry.extend added make).Careful := by
  intro name build element perform known built
  rw [lookup?, Registry.extend] at known
  cases builtIn : (builtIn? name : Option (Builder World)) with
  | some standard =>
      have former : registry.lookup? name = some build := by
        simpa [lookup?, builtIn] using known
      exact careful name build element perform former built
  | none =>
      simp only [builtIn, Option.orElse_eq_orElse, Option.orElse_eq_or, Option.none_or,
        List.lookup_cons] at known
      split at known
      · cases known
        exact makes element perform built
      · have former : registry.lookup? name = some build := by
          simpa [lookup?, builtIn] using known
        exact careful name build element perform former built

end Registry

section Evaluation

variable {setting : Setting World} {registry : Registry World}

private theorem Rule.act?_careful (careful : registry.Careful) {element : Element}
    {build : Builder World} {rule : Rule World} {tokens : Tokens}
    {act : Act World (Outcome × Tokens)} (known : registry.lookup? element.name = some build)
    (built : build element = .ok rule)
    (acts : rule.act? setting tokens = some act) : act.Careful := by
  cases rule with
  | filter filter => cases acts
  | action action =>
      cases acts
      exact Action.perform_careful setting tokens action
  | custom perform =>
      cases acts
      exact careful _ _ _ _ known built setting tokens

theorem Evaluates.refused {task : Task World} {tokens final : Tokens} {run after : Run World}
    {visits : List Visit} {outcome : Outcome} {error : RuleError} (careful : registry.Careful)
    (evaluation : Evaluates setting registry task tokens run visits outcome final after)
    (registered : task.Registered registry) (ended : outcome = .internal (.rule error)) :
    ∃ visit, visits.getLast? = some visit ∧ registry.Refuses visit.element error := by
  induction evaluation with
  | unbuilt unbuilt =>
      cases ended
      exact ⟨_, rfl, _, registered, unbuilt⟩
  | @performed _ element _ _ _ run _ _ _ built acts performed =>
      have unrelated := Rule.act?_careful careful registered built acts (element.enter run) error
      rw [performed] at unrelated
      exact absurd ended unrelated
  | @unperformed _ element _ _ _ run _ _ built acts performed =>
      have unrelated := Rule.act?_careful careful registered built acts (element.enter run) error
      rw [performed] at unrelated
      exact absurd ended unrelated
  | @unselected _ element filter tokens run _ _ built selected =>
      have confined : (filter.condition.select setting tokens).Confined fun _ => True :=
        Condition.select_confined (fun _ => trivial) setting tokens filter.condition
      obtain ⟨_, _, _, unrelated⟩ := confined (element.enter run)
      rw [selected] at unrelated
      cases ended
      exact absurd rfl (unrelated error)
  | unmatched => cases ended
  | matched _ _ _ _ ih =>
      obtain ⟨visit, last, refuses⟩ := ih trivial ended
      exact ⟨visit, by rw [List.getLast?_cons, last]; rfl, refuses⟩
  | noChildren => cases ended
  | consumed _ _ ih => exact ih trivial ended
  | skipped _ _ _ ih => exact ih trivial ended
  | childStops _ known _ _ ih => exact ih known ended
  | childPasses _ _ _ _ _ _ restIH =>
      obtain ⟨visit, last, refuses⟩ := restIH trivial ended
      exact ⟨visit, by rw [List.getLast?_append, last]; rfl, refuses⟩
  | noItems => cases ended
  | itemStops _ _ ih => exact ih trivial ended
  | itemPasses _ _ _ _ restIH =>
      obtain ⟨visit, last, refuses⟩ := restIH trivial ended
      exact ⟨visit, by rw [List.getLast?_append, last]; rfl, refuses⟩

/-- A run ends at an element because of an error: at the root that is no rule, or at the last
element that was visited, which is refused. -/
inductive BreaksAt (setting : Setting World) (registry : Registry World) (root : Element)
    (tokens : Tokens) (run : Run World) : Element → RuleError → Prop
  | unknown :
      registry.lookup? root.name = none →
      BreaksAt setting registry root tokens run root (.unknownRule root.name root.span)
  | refused {visits visit error} :
      Evaluation.Visits setting registry root tokens run visits → visits.getLast? = some visit →
      registry.Refuses visit.element error →
      BreaksAt setting registry root tokens run visit.element error

theorem run_breaks (careful : registry.Careful) {root : Element} {tokens : Tokens} {run : Run World}
    {error : RuleError}
    (ended : (Evaluation.run setting registry root tokens run).1.1 = .internal (.rule error)) :
    ∃ element ∈ root.nodes, BreaksAt setting registry root tokens run element error ∧
      .ofError element error ∈ registry.check root := by
  rw [Evaluation.run_result] at ended
  obtain ⟨visits, visited⟩ := Evaluation.visits_exist setting registry root tokens run
  have inside := visited.in_nodes
  cases known : registry.lookup? root.name with
  | none =>
      rw [Evaluation.execute_unknown known] at ended
      cases ended
      refine ⟨root, ?_, .unknown known, Registry.mem_check_of_unknown known⟩
      rw [root.nodes_eq]
      exact List.mem_cons_self
  | some build =>
      have evaluation := visited
      simp only [Evaluation.Visits, known] at evaluation
      obtain ⟨visit, last, refuses⟩ := evaluation.refused careful known ended
      have member := inside visit (List.mem_of_getLast? last)
      exact ⟨visit.element, member, .refused visited last refuses,
        Registry.mem_check_of_refused member refuses⟩

/-- Checking a document agrees with every run of it: the check lists the unknown root and then every
refused element in document order, every run that ends because of one of them is foreseen, and
where nothing is listed no run ends so. -/
structure CheckAgrees (registry : Registry World) (root : Element) : Prop where
  listed : ∃ paths problems, registry.Lists root paths problems ∧
    registry.check root = (match registry.lookup? root.name with
      | none => [⟨root.span, root.name, .unknownRule root.name root.span⟩]
      | some _ => []) ++ problems
  foreseen : ∀ setting tokens run error,
    (Evaluation.run setting registry root tokens run).1.1 = .internal (.rule error) →
      ∃ element ∈ root.nodes, BreaksAt setting registry root tokens run element error ∧
        ∃ problem ∈ registry.check root, problem.element = element.name ∧
          problem.message = error.message ∧ problem.span = error.span?.getD element.span
  clear : registry.check root = [] → ∀ setting tokens run error,
    (Evaluation.run setting registry root tokens run).1.1 ≠ .internal (.rule error)

theorem check_agrees_with_run (registry : Registry World) (careful : registry.Careful)
    (root : Element) : CheckAgrees registry root where
  listed := registry.check_lists root
  foreseen := by
    intro setting tokens run error ended
    obtain ⟨element, member, breaks, found⟩ := run_breaks careful ended
    exact ⟨element, member, breaks, _, found, rfl, rfl, rfl⟩
  clear := by
    intro clean setting tokens run error ended
    obtain ⟨element, _, _, found⟩ := run_breaks careful ended
    rw [clean] at found
    cases found

/-- A text that an extension does not take is foreseen where no evaluation ever comes, like a
message that is missing. -/
theorem nested_refusals_foreseen :
    let pause : Builder Unit := fun element => match element.text with
      | none => .ok (.custom fun _ tokens => pure (.done, tokens))
      | some text => .error (.refused text)
    let registry := Registry.standard.extend "Pause" pause
    let root : Element := ⟨"FilterStealLock", [], none,
      [⟨"Remark", [], none, [⟨"Pause", [], some "no text", [], .point 3 5⟩], .point 2 3⟩,
        ⟨"SendError", [], none, [], .point 4 3⟩], .point 1 1⟩
    registry.Careful ∧
      registry.check root = [⟨.point 3 5, "Pause", .refused "no text"⟩,
        ⟨.point 4 3, "SendError", .missingText "SendError" (.point 4 3)⟩] ∧
      CheckAgrees registry root := by
  intro pause registry root
  have careful : registry.Careful := by
    refine Registry.standard_careful.extend "Pause" fun element perform made setting tokens => ?_
    dsimp only [pause] at made
    split at made
    · cases made
      exact Act.careful_pass 0 tokens
    · cases made
  exact ⟨careful, by decide +kernel, check_agrees_with_run registry careful root⟩

end Evaluation

end HookRules

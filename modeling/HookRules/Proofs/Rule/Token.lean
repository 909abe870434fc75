import HookRules.Proofs.Rule.Action
import HookRules.Proofs.Rule.Registry
import HookRules.Proofs.Token.Store

/-!
Which tokens rules read and which they give. A filter decides on a few named tokens only, and fails
where one of them is not set. Tokens are given by the items that a filter selects, under names that
depend on the kind of filter alone, and by the elements that set one.
-/

set_option autoImplicit false

namespace HookRules

variable {World : Type}

/-- Where the act has an answer, the answer is as stated. -/
def Act.Yields {Answer : Type} (act : Act World Answer) (stated : Answer → Prop) : Prop :=
  ∀ run answer after, act.run run = (.ok answer, after) → stated answer

namespace Act

variable {Answer Next : Type} {stated : Answer → Prop}

private theorem yields_pure {answer : Answer} (holds : stated answer) :
    (pure answer : Act World Answer).Yields stated := by
  intro run found after answered
  cases answered
  exact holds

private theorem yields_fail (failure : Failure) :
    (fail failure : Act World Answer).Yields stated := by
  intro run answer after answered
  cases answered

theorem Yields.bind {act : Act World Next} {next : Next → Act World Answer}
    (rest : ∀ answer, (next answer).Yields stated) : (act >>= next).Yields stated := by
  intro run answer after answered
  rcases first : act.run run with ⟨failure | found, middle⟩
  · rw [run_bind_error first] at answered
    cases answered
  · rw [run_bind_ok first] at answered
    exact rest found middle answer after answered

end Act

namespace Condition

/-- The tokens that the condition reads, in order. -/
def needs : Condition → List String
  | .token name _ => [name]
  | .content _ | .properties _ _ => ["Path"]
  | .revisionProperty _ _ => ["PropName"]
  | .lockOwner _ => ["Path", "User"]
  | .always | .author _ | .logMessage _ | .changes _ _ | .caseConflict | .lockPaths _
  | .lockTokens _ | .steal _ | .breakLock _ => []

/-- The names of the tokens that every selected item binds. -/
def binds : Condition → List String
  | .author _ => ["Author"]
  | .logMessage _ => ["LogMsg"]
  | .changes _ _ => ["ChgPath", "ChgType", "Path"]
  | .caseConflict => ["Folder", "Existing", "Added", "Path"]
  | .properties _ _ => ["PropName", "PropValue"]
  | .revisionProperty _ _ => ["PropValue"]
  | .lockPaths _ => ["Path"]
  | .lockTokens _ => ["LockToken", "Path"]
  | .lockOwner _ => ["LockOwner"]
  | .always | .token _ _ | .content _ | .steal _ | .breakLock _ => []

/-- The items bind no names but the given ones. -/
def Within (names : List String) (items : List Bindings) : Prop :=
  ∀ bindings ∈ items, ∀ pair ∈ bindings, pair.1 ∈ names

private theorem within_itemIf {names : List String} {bindings : Bindings}
    (bound : ∀ pair ∈ bindings, pair.1 ∈ names) (holds : Bool) :
    Within names (itemIf holds bindings) := by
  intro found member
  cases holds with
  | true => rwa [List.mem_singleton.mp member]
  | false => cases member

private theorem within_map {Item : Type} {names : List String} {bindings : Item → Bindings}
    (bound : ∀ item, ∀ pair ∈ bindings item, pair.1 ∈ names) (items : List Item) :
    Within names (items.map bindings) := by
  intro found member
  obtain ⟨item, _, rfl⟩ := List.mem_map.mp member
  exact bound item

private theorem conflicts_yields (facts : Facts World) (changes : List Change) :
    (conflicts facts changes).Yields (Within (binds .caseConflict)) := by
  induction changes with
  | nil => exact Act.yields_pure (fun _ member => by cases member)
  | cons change rest ih =>
      rw [conflicts]
      split
      · refine Act.Yields.bind fun entries asked answer after answered => ?_
        rcases later : (conflicts facts rest).run asked with ⟨failure | more, reached⟩
        · rw [Act.run_bind_error later] at answered
          cases answered
        · rw [Act.run_bind_ok later] at answered
          have onward := ih asked more _ later
          cases answered
          intro bindings member
          rcases List.mem_append.mp member with found | beyond
          · exact within_map (fun existing => by simp [conflictBindings, binds]) _ bindings found
          · exact onward bindings beyond
      · exact ih

private theorem flagItems_yields (flag : Option Bool) (fact : String) (sense : Bool) :
    (flagItems flag fact sense : Act World (List Bindings)).Yields (Within []) := by
  cases flag with
  | none => exact Act.yields_fail _
  | some flag => exact Act.yields_pure (within_itemIf (by simp) _)

theorem select_yields (setting : Setting World) (tokens : Tokens) (condition : Condition) :
    (condition.select setting tokens).Yields (Within condition.binds) := by
  cases condition with
  | always => exact Act.yields_pure (within_itemIf (by simp) true)
  | token name gate => exact .bind fun value => Act.yields_pure (within_itemIf (by simp) _)
  | author gate =>
      exact .bind fun author => Act.yields_pure (within_itemIf (by simp [binds]) _)
  | logMessage gate =>
      exact .bind fun message => Act.yields_pure (within_itemIf (by simp [binds]) _)
  | changes path kind =>
      exact .bind fun changes =>
        Act.yields_pure (within_map (fun change => by simp [changeBindings, binds]) _)
  | content gate =>
      refine .bind fun path => ?_
      split
      · exact Act.yields_pure (fun _ member => by cases member)
      · exact .bind fun content => Act.yields_pure (within_itemIf (by simp) _)
  | caseConflict => exact .bind fun changes => conflicts_yields setting.facts changes
  | properties name value =>
      exact .bind fun path => .bind fun found =>
        Act.yields_pure (within_map (fun property => by simp [binds]) _)
  | revisionProperty name value =>
      refine .bind fun changed => ?_
      split
      · exact Act.yields_fail _
      · exact Act.yields_pure (within_itemIf (by simp [binds]) _)
  | lockPaths gate =>
      exact .bind fun _ => Act.yields_pure (within_map (fun path => by simp [binds]) _)
  | lockTokens gate =>
      exact .bind fun _ => Act.yields_pure (within_map (fun lock => by simp [binds]) _)
  | lockOwner sense =>
      refine .bind fun path => .bind fun user => .bind fun owner => ?_
      cases owner with
      | none => exact Act.yields_pure (fun _ member => by cases member)
      | some owner => exact Act.yields_pure (within_itemIf (by simp [binds]) _)
  | steal sense => exact flagItems_yields _ _ _
  | breakLock sense => exact flagItems_yields _ _ _

private theorem get_congr {first second : Tokens} {name : String}
    (same : first.lookup? name = second.lookup? name) : first.get name = second.get name := by
  rw [Tokens.get, Tokens.get, same]

theorem select_congr (setting : Setting World) {first second : Tokens} (condition : Condition)
    (same : ∀ name ∈ condition.needs, first.lookup? name = second.lookup? name) :
    condition.select setting first = condition.select setting second := by
  cases condition with
  | token name gate => rw [select, select, get_congr (same name List.mem_cons_self)]
  | content gate => rw [select, select, get_congr (same "Path" List.mem_cons_self)]
  | properties name value => rw [select, select, get_congr (same "Path" List.mem_cons_self)]
  | revisionProperty name value =>
      rw [select, select, get_congr (same "PropName" List.mem_cons_self)]
  | lockOwner sense =>
      rw [select, select, get_congr (same "Path" List.mem_cons_self),
        get_congr (same "User" (List.mem_cons_of_mem _ List.mem_cons_self))]
  | always => rfl
  | author gate => rfl
  | logMessage gate => rfl
  | changes path kind => rfl
  | caseConflict => rfl
  | lockPaths gate => rfl
  | lockTokens gate => rfl
  | steal sense => rfl
  | breakLock sense => rfl

private theorem get_unset {tokens : Tokens} {name : String} (unset : tokens.lookup? name = none) :
    tokens.get name = .error (.notFound name) := by
  rw [Tokens.get, unset]

theorem get_set {tokens : Tokens} {name value : String}
    (set : tokens.lookup? name = some value) : tokens.get name = .ok value := by
  rw [Tokens.get, set]

theorem select_unset (setting : Setting World) {tokens : Tokens} {condition : Condition}
    {name : String} (needed : name ∈ condition.needs) (unset : tokens.lookup? name = none) :
    ∃ missing ∈ condition.needs, tokens.lookup? missing = none ∧
      condition.select setting tokens = Act.fail (.token (.notFound missing)) := by
  have single {only : String} {next : String → Act World (List Bindings)} (same : name = only) :
      Act.ofTokens (tokens.get only) >>= next = Act.fail (.token (.notFound only)) := by
    subst same
    rw [get_unset unset, Act.ofTokens_error_bind]
  cases condition with
  | token only gate =>
      have same := List.mem_singleton.mp needed
      exact ⟨name, needed, unset, by rw [select, single same, same]⟩
  | content gate =>
      have same := List.mem_singleton.mp needed
      exact ⟨name, needed, unset, by rw [select, single same, same]⟩
  | properties only value =>
      have same := List.mem_singleton.mp needed
      exact ⟨name, needed, unset, by rw [select, single same, same]⟩
  | revisionProperty only value =>
      have same := List.mem_singleton.mp needed
      exact ⟨name, needed, unset, by rw [select, single same, same]⟩
  | lockOwner sense =>
      -- the path is read first, so it is the one that is named if both are missing
      cases path : tokens.lookup? "Path" with
      | none =>
          refine ⟨"Path", List.mem_cons_self, path, ?_⟩
          rw [select, get_unset path, Act.ofTokens_error_bind]
      | some value =>
          have same : name = "User" := by
            rcases List.mem_cons.mp needed with rfl | later
            · rw [unset] at path
              cases path
            · exact List.mem_singleton.mp later
          exact ⟨name, needed, unset,
            by rw [select, get_set path, Act.ofTokens_ok_bind, single same, same]⟩
  | always => cases needed
  | author gate => cases needed
  | logMessage gate => cases needed
  | changes path kind => cases needed
  | caseConflict => cases needed
  | lockPaths gate => cases needed
  | lockTokens gate => cases needed
  | steal sense => cases needed
  | breakLock sense => cases needed

end Condition

/-- The filter is the one that the element stands for. -/
def Element.Makes (element : Element) (filter : Filter) : Prop :=
  ∃ make, Filter.build? element.name = some make ∧ make element = .ok filter

theorem Registry.standard_makes {build : Builder World} {element : Element} {filter : Filter}
    (known : standard.lookup? element.name = some build)
    (built : build element = .ok (.filter filter)) : element.Makes filter := by
  have builtIn : builtIn? element.name = some build := by
    simpa [lookup?, standard] using known
  unfold builtIn? at builtIn
  split at builtIn
  · rename_i make selected
    cases builtIn
    obtain ⟨found, made, same⟩ := except_map_ok built
    cases same
    exact ⟨make, selected, made⟩
  · cases builtIn
    obtain ⟨action, _, same⟩ := except_map_ok built
    cases same
  · cases builtIn

theorem Element.Makes.built {build : Builder World} {element : Element} {filter : Filter}
    (makes : element.Makes filter) (known : Registry.standard.lookup? element.name = some build) :
    build element = .ok (.filter filter) := by
  obtain ⟨make, selected, made⟩ := makes
  have builtIn : Registry.builtIn? element.name = some build := by
    simpa [Registry.lookup?, Registry.standard] using known
  rw [Registry.builtIn?, selected] at builtIn
  cases builtIn
  exact congrArg (Except.map Rule.filter) made

theorem Element.Makes.known {element : Element} {filter : Filter} (makes : element.Makes filter) :
    ∃ build, (Registry.standard : Registry World).lookup? element.name = some build := by
  obtain ⟨make, selected, _⟩ := makes
  simp [Registry.lookup?, Registry.standard, Registry.builtIn?, selected]

/-- Evaluating the element sets the token. -/
def Element.Sets (element : Element) (name : String) : Prop :=
  element.name = "SetToken" ∧ ∃ token, element.requireAttribute "name" = .ok token ∧
    Text.toUpper token = Text.toUpper name

/-- What may give the token a value where the taker is evaluated later: an element that sets it, or
a filter around the taker whose items bind it. -/
inductive Element.Gives (giver : Element) (name : String) (taker : Element) : Prop
  | sets : giver.Sets name → Gives giver name taker
  | binds {filter bound} :
      giver.Makes filter → bound ∈ filter.condition.binds →
      Text.toUpper bound = Text.toUpper name → taker ∈ Element.nodesOf giver.children →
      Gives giver name taker

theorem Action.MadeFrom.keeps {setting : Setting World} {element : Element} {action : Action}
    {tokens final : Tokens} {name : String} {run after : Run World} {outcome : Outcome}
    (made : MadeFrom element element.name action) (other : ¬ element.Sets name)
    (performed : (action.perform setting tokens).run run = (.ok (outcome, final), after)) :
    final.lookup? name = tokens.lookup? name := by
  by_cases sets : ∃ token value, action = .setToken token value
  · obtain ⟨token, value, rfl⟩ := sets
    generalize named : element.name = kind at made
    cases made with
    | setToken required =>
        cases performed
        exact Tokens.lookup?_set_other _ fun same => other ⟨named, _, required, same⟩
  · have keeps := (Action.perform_settles setting tokens
      (fun token value same => sets ⟨token, value, same⟩)).keeps
    rw [keeps run outcome final after performed]

end HookRules

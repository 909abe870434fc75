import HookRules.Proofs.Run.Act
import HookRules.Rule.Filter

/-!
Conditions do nothing but ask: what they add to the journal are queries, and where they fail, the
reason is a token or a fact.
-/

set_option autoImplicit false

namespace HookRules.Condition

variable {World : Type} {allowed : Entry → Prop}

private theorem conflicts_confined (asking : ∀ query, allowed (.asked query)) (facts : Facts World)
    (changes : List Change) : (conflicts facts changes).Confined allowed := by
  induction changes with
  | nil => exact Act.confined_pure _
  | cons change rest ih =>
      rw [conflicts]
      split
      · exact (Act.confined_ask asking).bind fun entries => ih.bind fun later => Act.confined_pure _
      · exact ih

private theorem flagItems_confined (flag : Option Bool) (fact : String) (sense : Bool) :
    (flagItems flag fact sense : Act World (List Bindings)).Confined allowed := by
  cases flag with
  | none => exact Act.confined_fail (by simp)
  | some flag => exact Act.confined_pure _

private theorem requireKind_confined (event : Event) (kinds : List EventKind) (fact : String) :
    (requireKind event kinds fact : Act World Unit).Confined allowed := by
  rw [requireKind]
  split
  · exact Act.confined_pure ()
  · exact Act.confined_fail (by simp)

theorem select_confined (asking : ∀ query, allowed (.asked query)) (setting : Setting World)
    (tokens : Tokens) (condition : Condition) :
    (condition.select setting tokens).Confined allowed := by
  cases condition with
  | always => exact Act.confined_pure _
  | token name gate => exact (Act.confined_ofTokens _).bind fun value => Act.confined_pure _
  | author gate => exact (Act.confined_ask asking).bind fun author => Act.confined_pure _
  | logMessage gate => exact (Act.confined_ask asking).bind fun message => Act.confined_pure _
  | changes path kind => exact (Act.confined_ask asking).bind fun changes => Act.confined_pure _
  | content gate =>
      refine (Act.confined_ofTokens _).bind fun path => ?_
      split
      · exact Act.confined_pure _
      · exact (Act.confined_ask asking).bind fun content => Act.confined_pure _
  | caseConflict =>
      exact (Act.confined_ask asking).bind fun changes =>
        conflicts_confined asking setting.facts changes
  | properties name value =>
      exact (Act.confined_ofTokens _).bind fun path =>
        (Act.confined_ask asking).bind fun found => Act.confined_pure _
  | revisionProperty name value =>
      refine (Act.confined_ofTokens _).bind fun changed => ?_
      split
      · exact Act.confined_fail (by simp)
      · exact Act.confined_pure _
  | lockPaths gate =>
      exact (requireKind_confined _ _ _).bind fun _ => Act.confined_pure _
  | lockTokens gate =>
      exact (requireKind_confined _ _ _).bind fun _ => Act.confined_pure _
  | lockOwner sense =>
      refine (Act.confined_ofTokens _).bind fun path => (Act.confined_ofTokens _).bind fun user =>
        (Act.confined_ask asking).bind fun owner => ?_
      cases owner with
      | none => exact Act.confined_pure _
      | some owner => exact Act.confined_pure _
  | steal sense => exact flagItems_confined _ _ _
  | breakLock sense => exact flagItems_confined _ _ _

end HookRules.Condition

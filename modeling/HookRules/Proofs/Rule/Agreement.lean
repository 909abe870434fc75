import HookRules.Proofs.Rule.Filter
import HookRules.Proofs.Run.Agreement

/-!
Rules agree where their settings do: a condition selects the same items, and an action comes to
the same with the same effects.
-/

set_option autoImplicit false

namespace HookRules

variable {World Other : Type} {did : Entry → Prop} {same : World → Other → Prop}

/-- In worlds that are alike every question has the same answer, and asking leaves them alike. -/
def Facts.Agree (same : World → Other → Prop) (left : Facts World) (right : Facts Other) : Prop :=
  ∀ question first second, same first second →
    (left.answer question first).result = (right.answer question second).result ∧
      same (left.answer question first).world (right.answer question second).world

/-- In worlds that are alike every deed that counts comes to the same, and leaves them alike. -/
structure DeedsAgree (did : Entry → Prop) (same : World → Other → Prop) (left : Host World)
    (right : Host Other) (leftMailer : Mailer World) (rightMailer : Mailer Other) : Prop where
  executed : ∀ program arguments, did (.started program arguments) →
    ∀ first second, same first second →
      (left.execute program arguments first).1 = (right.execute program arguments second).1 ∧
        same (left.execute program arguments first).2 (right.execute program arguments second).2
  wrote : ∀ path text, did (.wrote path text) → ∀ first second, same first second →
    (left.write path text first).1 = (right.write path text second).1 ∧
      same (left.write path text first).2 (right.write path text second).2
  mailed : ∀ mail, did (.mailed mail) → ∀ first second, same first second →
    (leftMailer.deliver mail first).1 = (rightMailer.deliver mail second).1 ∧
      same (leftMailer.deliver mail first).2 (rightMailer.deliver mail second).2

/-- Settings that agree, in what they are made of, in answers and in the deeds that count. -/
structure Setting.Agree (did : Entry → Prop) (same : World → Other → Prop) (left : Setting World)
    (right : Setting Other) : Prop
    extends DeedsAgree did same left.host right.host left.mailer right.mailer where
  event : left.event = right.event
  settings : left.settings = right.settings
  channel : left.channel = right.channel
  subject : left.facts.subject = right.facts.subject
  connects : left.mailer.connects = right.mailer.connects
  facts : left.facts.Agree same right.facts

namespace Condition

variable {left : Setting World} {right : Setting Other}

private theorem conflicts_agree (facts : left.facts.Agree same right.facts)
    (changes : List Change) :
    Act.Agrees did same (conflicts left.facts changes) (conflicts right.facts changes) := by
  induction changes with
  | nil => exact Act.agrees_pure _
  | cons change rest ih =>
      rw [conflicts, conflicts]
      split
      · refine (Act.agrees_ask (facts (.entries _))).bind fun entries => ?_
        exact ih.bind fun later => Act.agrees_pure _
      · exact ih

private theorem flagItems_agree (flag : Option Bool) (fact : String) (sense : Bool) :
    Act.Agrees did same (flagItems flag fact sense : Act World (List Bindings))
      (flagItems flag fact sense : Act Other (List Bindings)) := by
  cases flag with
  | none => exact Act.agrees_fail _
  | some flag => exact Act.agrees_pure _

private theorem requireKind_agree (event : Event) (kinds : List EventKind) (fact : String) :
    Act.Agrees did same (requireKind event kinds fact : Act World Unit)
      (requireKind event kinds fact : Act Other Unit) := by
  rw [requireKind, requireKind]
  split
  · exact Act.agrees_pure _
  · exact Act.agrees_fail _

/-- What a condition selects depends on the event and on the answers that it gets. -/
theorem select_agrees (event : left.event = right.event)
    (facts : left.facts.Agree same right.facts) (tokens : Tokens) (condition : Condition) :
    Act.Agrees did same (condition.select left tokens) (condition.select right tokens) := by
  cases condition with
  | always => exact Act.agrees_pure _
  | token name gate => exact (Act.agrees_ofTokens _).bind fun value => Act.agrees_pure _
  | author gate =>
      exact (Act.agrees_ask (facts .author)).bind fun author => Act.agrees_pure _
  | logMessage gate =>
      exact (Act.agrees_ask (facts .logMessage)).bind fun message => Act.agrees_pure _
  | changes path kind =>
      exact (Act.agrees_ask (facts .changes)).bind fun changes => Act.agrees_pure _
  | content gate =>
      refine (Act.agrees_ofTokens _).bind fun path => ?_
      split
      · exact Act.agrees_pure _
      · exact (Act.agrees_ask (facts (.content path))).bind fun content => Act.agrees_pure _
  | caseConflict =>
      exact (Act.agrees_ask (facts .changes)).bind fun changes => conflicts_agree facts changes
  | properties name value =>
      refine (Act.agrees_ofTokens _).bind fun path => ?_
      exact (Act.agrees_ask (facts (.properties path))).bind fun found => Act.agrees_pure _
  | revisionProperty name value =>
      refine (Act.agrees_ofTokens _).bind fun changed => ?_
      rw [event]
      cases right.event.propertyValue with
      | none => exact Act.agrees_fail _
      | some given => exact Act.agrees_pure _
  | lockPaths gate =>
      rw [select, select, event]
      exact (requireKind_agree _ _ _).bind fun _ => Act.agrees_pure _
  | lockTokens gate =>
      rw [select, select, event]
      exact (requireKind_agree _ _ _).bind fun _ => Act.agrees_pure _
  | lockOwner sense =>
      refine (Act.agrees_ofTokens _).bind fun path => (Act.agrees_ofTokens _).bind fun user => ?_
      refine (Act.agrees_ask (facts (.lockOwner path))).bind fun owner => ?_
      cases owner with
      | none => exact Act.agrees_pure _
      | some owner => exact Act.agrees_pure _
  | steal sense =>
      rw [select, select, event]
      exact flagItems_agree _ _ _
  | breakLock sense =>
      rw [select, select, event]
      exact flagItems_agree _ _ _

theorem select_effects (setting : Setting World) (tokens : Tokens) (condition : Condition)
    (run : Run World) :
    Journal.effects ((condition.select setting tokens).run run).2.journal =
      Journal.effects run.journal := by
  have silent : (condition.select setting tokens).Confined fun entry => entry.isEffect = false :=
    select_confined (fun _ => rfl) setting tokens condition
  obtain ⟨added, extended, quiet, _⟩ := silent run
  have unnoticed : Journal.effects added = [] :=
    List.filter_eq_nil_iff.mpr fun entry member => by simp [quiet entry member]
  rw [extended, Journal.effects_append, unnoticed, List.append_nil]

theorem select_grows (setting : Setting World) (tokens : Tokens) (condition : Condition)
    (run : Run World) : run.journal <+: ((condition.select setting tokens).run run).2.journal := by
  have confined : (condition.select setting tokens).Confined fun _ => True :=
    select_confined (fun _ => trivial) setting tokens condition
  exact confined.grows run

end Condition

namespace Action

variable {left : Setting World} {right : Setting Other}

private theorem noteLines_agree (code : Nat) (lines : List String) :
    Act.Agrees did same (noteLines code lines : Act World Unit)
      (noteLines code lines : Act Other Unit) := by
  induction lines with
  | nil => exact Act.agrees_pure ()
  | cons line rest ih => exact (Act.agrees_note _).bind fun _ => ih

private theorem conclude_agree (channel : Channel) (line : String) (errorLevel : Nat)
    (output : Output) :
    Act.Agrees did same (conclude channel line errorLevel output : Act World Outcome)
      (conclude channel line errorLevel output : Act Other Outcome) := by
  rw [conclude, conclude]
  cases output.code with
  | none => exact Act.agrees_fail _
  | some code =>
      dsimp only
      split
      · exact (Act.agrees_tell _ _).bind fun _ => Act.agrees_pure _
      · exact Act.agrees_pure _

theorem perform_agrees (settings : left.Agree did same right) (tokens : Tokens) (action : Action) :
    Act.Agrees did same (action.perform left tokens) (action.perform right tokens) := by
  cases action with
  | setToken name value => exact Act.agrees_pure _
  | sendError code message =>
      rw [perform, perform, settings.channel]
      refine (Act.agrees_ofTokens _).bind fun text => ?_
      exact (noteLines_agree code _).bind fun _ =>
        (Act.agrees_tell _ _).bind fun _ => Act.agrees_pure _
  | sendMail envelope message =>
      rw [perform, perform, settings.settings]
      refine (Act.agrees_ofTokens _).bind fun body => (Act.agrees_ofTokens _).bind fun mail => ?_
      exact (Act.agrees_note _).bind fun _ =>
        (Act.agrees_send settings.connects (settings.mailed _)).bind fun _ => Act.agrees_pure _
  | sendLog envelope verbose =>
      rw [perform, perform, settings.settings]
      refine (Act.agrees_ask (settings.facts (.revisionLog verbose))).bind fun body => ?_
      refine (Act.agrees_ofTokens _).bind fun mail => ?_
      exact (Act.agrees_note _).bind fun _ =>
        (Act.agrees_send settings.connects (settings.mailed _)).bind fun _ => Act.agrees_pure _
  | execute command errorLevel =>
      rw [perform, perform, settings.channel]
      refine (Act.agrees_ofTokens _).bind fun line => ?_
      split
      · exact Act.agrees_fail _
      · refine (Act.agrees_note _).bind fun _ => ?_
        refine (Act.agrees_execute (settings.executed _ _) line).bind fun output => ?_
        exact (conclude_agree _ _ _ _).bind fun ended => Act.agrees_pure _
  | recordRevision path =>
      rw [perform, perform, settings.subject]
      cases right.facts.subject.revision? with
      | none => exact Act.agrees_fail _
      | some revision =>
          refine (Act.agrees_ofTokens _).bind fun path => ?_
          refine (Act.agrees_write (settings.wrote _ _)).bind fun _ => ?_
          exact (Act.agrees_note _).bind fun _ => Act.agrees_pure _

end Action

end HookRules

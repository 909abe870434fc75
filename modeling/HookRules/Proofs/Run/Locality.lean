import HookRules.Proofs.Run.Act
import HookRules.Rule.Registry

/-!
What rules do depends on the world that they are in, and not on the journal, to which they only add.
Two runs that have come to the same world go on alike, whatever either journal holds.
-/

set_option autoImplicit false

namespace HookRules

variable {World : Type}

/-- The worlds are the same, and the journals are but for entries that are not seen. -/
structure Run.Same (seen : Entry → Bool) (left right : Run World) : Prop where
  world : left.world = right.world
  journal : left.journal.filter seen = right.journal.filter seen

namespace Run.Same

variable {seen : Entry → Bool} {left right last : Run World}

theorem refl (seen : Entry → Bool) (run : Run World) : run.Same seen run := ⟨rfl, rfl⟩

theorem symm (same : left.Same seen right) : right.Same seen left :=
  ⟨same.world.symm, same.journal.symm⟩

theorem trans (first : left.Same seen right) (second : right.Same seen last) :
    left.Same seen last :=
  ⟨first.world.trans second.world, first.journal.trans second.journal⟩

theorem note (same : left.Same seen right) (notice : Notice) :
    (left.note notice).Same seen (right.note notice) where
  world := same.world
  journal := by
    rw [Run.note_journal, Run.note_journal, List.filter_append, List.filter_append, same.journal]

theorem note_left (same : left.Same seen right) {notice : Notice}
    (hidden : seen (.noted notice) = false) : (left.note notice).Same seen right where
  world := same.world
  journal := by
    rw [Run.note_journal, List.filter_append, same.journal,
      List.filter_cons_of_neg (by simp [hidden])]
    exact List.append_nil _

theorem note_right (same : left.Same seen right) {notice : Notice}
    (hidden : seen (.noted notice) = false) : left.Same seen (right.note notice) :=
  (same.symm.note_left hidden).symm

end Run.Same

namespace Act

variable {Answer Next : Type}

/-- What the act comes to, what it adds to the journal and the world that it leaves depend on the
world alone that it begins in. -/
def Local (act : Act World Answer) : Prop :=
  ∀ world, ∃ result added after, ∀ journal,
    act.run ⟨world, journal⟩ = (result, ⟨after, journal ++ added⟩)

theorem Local.same {act : Act World Answer} (isLocal : act.Local) {seen : Entry → Bool}
    {left right after : Run World} {result : Except Failure Answer} (same : left.Same seen right)
    (ended : act.run left = (result, after)) :
    ∃ later, act.run right = (result, later) ∧ after.Same seen later := by
  obtain ⟨world, journal⟩ := left
  obtain ⟨_, other⟩ := right
  obtain rfl : world = _ := same.world
  obtain ⟨found, added, final, runs⟩ := isLocal world
  rw [runs journal] at ended
  cases ended
  refine ⟨⟨final, other ++ added⟩, runs other, rfl, ?_⟩
  have journals : journal.filter seen = other.filter seen := same.journal
  rw [List.filter_append, List.filter_append, journals]

theorem Local.extends {act : Act World Answer} (isLocal : act.Local) {run after : Run World}
    {result : Except Failure Answer} (ended : act.run run = (result, after)) :
    run.journal <+: after.journal := by
  obtain ⟨world, journal⟩ := run
  obtain ⟨_, added, _, runs⟩ := isLocal world
  rw [runs journal] at ended
  cases ended
  exact ⟨added, rfl⟩

private theorem local_pure (answer : Answer) : (pure answer : Act World Answer).Local := by
  intro world
  refine ⟨.ok answer, [], world, fun journal => ?_⟩
  rw [List.append_nil]
  rfl

private theorem local_fail (failure : Failure) : (fail failure : Act World Answer).Local := by
  intro world
  refine ⟨.error failure, [], world, fun journal => ?_⟩
  rw [List.append_nil]
  rfl

theorem Local.bind {act : Act World Answer} {next : Answer → Act World Next} (first : act.Local)
    (rest : ∀ answer, (next answer).Local) : (act >>= next).Local := by
  intro world
  obtain ⟨result, added, middle, begins⟩ := first world
  cases result with
  | error failure =>
      refine ⟨.error failure, added, middle, fun journal => ?_⟩
      exact run_bind_error (begins journal)
  | ok answer =>
      obtain ⟨final, more, after, continues⟩ := rest answer middle
      refine ⟨final, added ++ more, after, fun journal => ?_⟩
      rw [run_bind_ok (begins journal), continues, List.append_assoc]

private theorem local_record (entry : Entry) :
    (record entry : Act World Unit).Local :=
  fun world => ⟨.ok (), [entry], world, fun _ => rfl⟩

private theorem local_note (notice : Notice) : (note notice : Act World Unit).Local :=
  local_record (.noted notice)

private theorem local_orFail {Cause : Type} (failure : Cause → Failure)
    (result : Except Cause Answer) :
    (orFail failure result : Act World Answer).Local := by
  cases result with
  | ok answer => exact local_pure answer
  | error cause => exact local_fail (failure cause)

private theorem local_ofTokens (result : Except TokenError Answer) :
    (ofTokens result : Act World Answer).Local :=
  local_orFail .token result

theorem local_ask (question : World → Answered World Answer) : (ask question).Local := by
  intro world
  cases answered : (question world).result with
  | ok answer =>
      refine ⟨.ok answer, (question world).queries.map .asked, (question world).world, ?_⟩
      intro journal
      simp only [ask, ExceptT.run, answered]
  | error error =>
      refine ⟨.error (.fact error), (question world).queries.map .asked, (question world).world, ?_⟩
      intro journal
      simp only [ask, ExceptT.run, answered]

theorem local_tell (channel : Channel) (text : String) :
    (tell channel text : Act World Unit).Local := by
  cases channel with
  | working => exact local_record (.told text)
  | broken cause =>
      rw [tell]
      split
      · exact local_record (.told text)
      · exact local_fail (.channelClosed cause)

private theorem local_inWorld (step : StateM World Answer) : (inWorld step).Local := by
  intro world
  refine ⟨.ok (step world).1, [], (step world).2, fun journal => ?_⟩
  rw [List.append_nil]
  rfl

private theorem local_send (mailer : Mailer World) (mail : Mail) : (send mailer mail).Local := by
  have received (result : Except MailError Receipt) :
      (received mail.server result : Act World Unit).Local := by
    rcases result with error | _ | reason
    · exact local_fail (.mail error)
    · exact local_pure ()
    · exact local_note _
  refine (local_record (.mailed mail)).bind fun _ => ?_
  rw [deliver]
  split
  · exact (local_note _).bind fun _ => (local_inWorld _).bind received
  · exact (local_inWorld _).bind received

private theorem local_execute (host : Host World) (line program : String)
    (arguments : List String) :
    (execute host line program arguments).Local :=
  (local_record _).bind fun _ => (local_inWorld _).bind <| local_orFail _

private theorem local_write (host : Host World) (path text : String) :
    (write host path text).Local :=
  (local_record _).bind fun _ => (local_inWorld _).bind <| local_orFail _

end Act

namespace Condition

private theorem conflicts_local (facts : Facts World) (changes : List Change) :
    (conflicts facts changes).Local := by
  induction changes with
  | nil => exact Act.local_pure []
  | cons change rest ih =>
      rw [conflicts]
      split
      · apply (Act.local_ask _).bind
        intro entries
        exact ih.bind fun later => Act.local_pure _
      · exact ih

private theorem flagItems_local (flag : Option Bool) (fact : String) (sense : Bool) :
    (flagItems flag fact sense : Act World (List Bindings)).Local := by
  cases flag with
  | none => exact Act.local_fail _
  | some flag => exact Act.local_pure _

private theorem requireKind_local (event : Event) (kinds : List EventKind) (fact : String) :
    (requireKind event kinds fact : Act World Unit).Local := by
  rw [requireKind]
  split
  · exact Act.local_pure ()
  · exact Act.local_fail _

theorem select_local (setting : Setting World) (tokens : Tokens) (condition : Condition) :
    (condition.select setting tokens).Local := by
  cases condition with
  | always => exact Act.local_pure _
  | token name gate => exact (Act.local_ofTokens _).bind fun value => Act.local_pure _
  | author gate => exact (Act.local_ask _).bind fun author => Act.local_pure _
  | logMessage gate => exact (Act.local_ask _).bind fun message => Act.local_pure _
  | changes path kind => exact (Act.local_ask _).bind fun changes => Act.local_pure _
  | content gate =>
      apply (Act.local_ofTokens _).bind
      intro path
      split
      · exact Act.local_pure _
      · exact (Act.local_ask _).bind fun content => Act.local_pure _
  | caseConflict => exact (Act.local_ask _).bind fun changes => conflicts_local setting.facts changes
  | properties name value =>
      apply (Act.local_ofTokens _).bind
      intro path
      exact (Act.local_ask _).bind fun properties => Act.local_pure _
  | revisionProperty name value =>
      apply (Act.local_ofTokens _).bind
      intro changed
      cases setting.event.propertyValue with
      | none => exact Act.local_fail _
      | some given => exact Act.local_pure _
  | lockPaths gate => exact (requireKind_local _ _ _).bind fun _ => Act.local_pure _
  | lockTokens gate => exact (requireKind_local _ _ _).bind fun _ => Act.local_pure _
  | lockOwner sense =>
      apply (Act.local_ofTokens _).bind
      intro path
      apply (Act.local_ofTokens _).bind
      intro user
      apply (Act.local_ask _).bind
      intro owner
      cases owner with
      | none => exact Act.local_pure _
      | some owner => exact Act.local_pure _
  | steal sense => exact flagItems_local _ _ _
  | breakLock sense => exact flagItems_local _ _ _

end Condition

namespace Action

private theorem noteLines_local (code : Nat) (lines : List String) :
    (noteLines code lines : Act World Unit).Local := by
  induction lines with
  | nil => exact Act.local_pure ()
  | cons line rest ih => exact (Act.local_note _).bind fun _ => ih

private theorem conclude_local (channel : Channel) (line : String) (errorLevel : Nat)
    (output : Output) :
    (conclude channel line errorLevel output : Act World Outcome).Local := by
  rw [conclude]
  cases output.code with
  | none => exact Act.local_fail _
  | some code =>
      dsimp only
      split
      · exact (Act.local_tell _ _).bind fun _ => Act.local_pure _
      · exact Act.local_pure _

theorem perform_local (setting : Setting World) (tokens : Tokens) (action : Action) :
    (action.perform setting tokens).Local := by
  cases action with
  | setToken name value => exact Act.local_pure _
  | sendError code message =>
      apply (Act.local_ofTokens _).bind
      intro text
      apply (noteLines_local code _).bind
      intro _
      exact (Act.local_tell _ _).bind fun _ => Act.local_pure _
  | sendMail envelope message =>
      apply (Act.local_ofTokens _).bind
      intro body
      apply (Act.local_ofTokens _).bind
      intro mail
      apply (Act.local_note _).bind
      intro _
      exact (Act.local_send _ _).bind fun _ => Act.local_pure _
  | sendLog envelope verbose =>
      apply (Act.local_ask _).bind
      intro body
      apply (Act.local_ofTokens _).bind
      intro mail
      apply (Act.local_note _).bind
      intro _
      exact (Act.local_send _ _).bind fun _ => Act.local_pure _
  | execute command errorLevel =>
      apply (Act.local_ofTokens _).bind
      intro line
      split
      · exact Act.local_fail _
      · apply (Act.local_note _).bind
        intro _
        apply (Act.local_execute _ _ _ _).bind
        intro output
        exact (conclude_local _ _ _ _).bind fun ended => Act.local_pure _
  | recordRevision path =>
      rw [perform]
      cases setting.facts.subject.revision? with
      | none => exact Act.local_fail _
      | some revision =>
          apply (Act.local_ofTokens _).bind
          intro path
          apply (Act.local_write _ _ _).bind
          intro _
          exact (Act.local_note _).bind fun _ => Act.local_pure _

end Action

end HookRules

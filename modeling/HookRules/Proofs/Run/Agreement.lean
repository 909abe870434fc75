import HookRules.Proofs.Fact.Answers
import HookRules.Proofs.Run.Act
import HookRules.Rule.Action
import HookRules.Rule.Filter

/-!
Acts that agree. Two acts in different worlds agree when they give the same answer and have the
same effects, whatever they ask in between; what rules do agrees where the settings do.
-/

set_option autoImplicit false

namespace HookRules

/-- The entry is something that others notice: the client, a mailbox, or the system. -/
def Entry.isEffect : Entry → Bool
  | .noted _ | .asked _ => false
  | .told _ | .mailed _ | .started _ _ | .wrote _ _ => true

/-- What others notice, in order. -/
def Journal.effects (journal : Journal) : Journal := journal.filter Entry.isEffect

theorem Journal.effects_append (first second : Journal) :
    Journal.effects (first ++ second) = Journal.effects first ++ Journal.effects second :=
  List.filter_append first second

/-- Two runs in worlds that are alike, with the same effects so far, save that the left one had some
effects before. -/
structure Run.Alike {World Other : Type} (same : World → Other → Prop) (before : Journal)
    (left : Run World) (right : Run Other) : Prop where
  worlds : same left.world right.world
  effects : Journal.effects left.journal = before ++ Journal.effects right.journal

/-- All that the journal holds counts. -/
def Run.Counted {World : Type} (did : Entry → Prop) (run : Run World) : Prop :=
  ∀ entry ∈ run.journal, did entry

theorem Run.Counted.before {World : Type} {did : Entry → Prop} {run after : Run World}
    (counted : after.Counted did) (grows : run.journal <+: after.journal) : run.Counted did :=
  fun entry member => counted entry (grows.subset member)

section Runs

variable {World Other : Type} {same : World → Other → Prop} {before : Journal} {left : Run World}
  {right : Run Other}

theorem Run.Alike.record (alike : left.Alike same before right) (entry : Entry) :
    (left.record entry).Alike same before (right.record entry) where
  worlds := alike.worlds
  effects := by
    rw [Run.record_journal, Run.record_journal, Journal.effects_append, Journal.effects_append,
      alike.effects, List.append_assoc]

theorem Run.Alike.note_left (alike : left.Alike same before right) (notice : Notice) :
    (left.note notice).Alike same before right where
  worlds := alike.worlds
  effects := by
    rw [Run.note_journal, Journal.effects_append, alike.effects]
    exact List.append_nil _

private theorem effects_asked (queries : List Query) :
    Journal.effects (queries.map .asked) = [] := by
  simp [Journal.effects, Entry.isEffect]

end Runs

namespace Act

variable {World Other Answer Next : Type}

/-- From runs that are alike, both acts come to the same and leave runs that are alike, as long as
the left one puts nothing into the journal but entries that count. -/
def Parallel (did : Entry → Prop) (same : World → Other → Prop) (left : Act World Answer)
    (right : Act Other Answer) : Prop :=
  ∀ before first second, first.Alike same before second →
    (left.run first).2.Counted did →
      (left.run first).1 = (right.run second).1 ∧
        (left.run first).2.Alike same before (right.run second).2

/-- Acts that are parallel, of which the left one takes nothing out of the journal. -/
structure Agrees (did : Entry → Prop) (same : World → Other → Prop) (left : Act World Answer)
    (right : Act Other Answer) : Prop where
  grows : ∀ run, run.journal <+: (left.run run).2.journal
  parallel : Parallel did same left right

variable {did : Entry → Prop} {same : World → Other → Prop}

theorem agrees_pure (answer : Answer) :
    Agrees did same (pure answer : Act World Answer) (pure answer : Act Other Answer) where
  grows := fun _ => List.prefix_rfl
  parallel := fun _ _ _ alike _ => ⟨rfl, alike⟩

theorem agrees_fail (failure : Failure) :
    Agrees did same (fail failure : Act World Answer) (fail failure : Act Other Answer) where
  grows := fun _ => List.prefix_rfl
  parallel := fun _ _ _ alike _ => ⟨rfl, alike⟩

private theorem agrees_record (entry : Entry) :
    Agrees did same (record entry : Act World Unit) (record entry : Act Other Unit) where
  grows := fun _ => List.prefix_append _ _
  parallel := fun _ _ _ alike _ => ⟨rfl, alike.record entry⟩

theorem agrees_note (notice : Notice) :
    Agrees did same (note notice : Act World Unit) (note notice : Act Other Unit) :=
  agrees_record (.noted notice)

private theorem agrees_orFail {Cause : Type} (failure : Cause → Failure)
    (result : Except Cause Answer) :
    Agrees did same (orFail failure result : Act World Answer)
      (orFail failure result : Act Other Answer) := by
  cases result with
  | ok answer => exact agrees_pure answer
  | error cause => exact agrees_fail (failure cause)

theorem agrees_ofTokens (result : Except TokenError Answer) :
    Agrees did same (ofTokens result : Act World Answer) (ofTokens result : Act Other Answer) :=
  agrees_orFail .token result

section Bind

variable {left : Act World Answer} {right : Act Other Answer}
  {leftNext : Answer → Act World Next} {rightNext : Answer → Act Other Next}

private theorem grows_bind (first : ∀ run, run.journal <+: (left.run run).2.journal)
    (rest : ∀ answer run, run.journal <+: ((leftNext answer).run run).2.journal)
    (run : Run World) : run.journal <+: ((left >>= leftNext).run run).2.journal := by
  have grown := first run
  rcases ended : left.run run with ⟨failure | answer, after⟩
  · rw [ended] at grown
    rw [run_bind_error ended]
    exact grown
  · rw [ended] at grown
    rw [run_bind_ok ended]
    exact grown.trans (rest answer after)

theorem Agrees.bind (first : Agrees did same left right)
    (rest : ∀ answer, Agrees did same (leftNext answer) (rightNext answer)) :
    Agrees did same (left >>= leftNext) (right >>= rightNext) where
  grows := grows_bind first.grows fun answer => (rest answer).grows
  parallel := by
    intro before run other alike counted
    have parallel := first.parallel before run other alike
    rcases leftEnds : left.run run with ⟨failure | answer, leftAfter⟩
    · rcases rightEnds : right.run other with ⟨rightResult, rightAfter⟩
      rw [run_bind_error leftEnds] at counted ⊢
      rw [leftEnds, rightEnds] at parallel
      obtain ⟨result, after⟩ := parallel counted
      cases result
      rw [run_bind_error rightEnds]
      exact ⟨rfl, after⟩
    · rcases rightEnds : right.run other with ⟨rightResult, rightAfter⟩
      rw [run_bind_ok leftEnds] at counted ⊢
      rw [leftEnds, rightEnds] at parallel
      obtain ⟨result, after⟩ := parallel (counted.before ((rest answer).grows leftAfter))
      cases result
      rw [run_bind_ok rightEnds]
      exact (rest answer).parallel before leftAfter rightAfter after counted

/-- After an entry that is put down, it may be taken to count. -/
theorem agrees_record_bind {entry : Entry} {next : Unit → Act World Answer}
    {other : Unit → Act Other Answer} (grows : ∀ run, run.journal <+: ((next ()).run run).2.journal)
    (rest : did entry → Agrees did same (next ()) (other ())) :
    Agrees did same (record entry >>= next) (record entry >>= other) where
  grows := by
    have recorded :
        Agrees did same (record entry : Act World Unit) (record entry : Act Other Unit) :=
      agrees_record entry
    exact grows_bind recorded.grows fun _ => grows
  parallel := by
    intro before first second alike counted
    have counts : did entry := counted entry
      ((grows (first.record entry)).subset (List.mem_append_right _ List.mem_cons_self))
    exact ((agrees_record entry).bind fun _ => rest counts).parallel before first second alike
      counted

end Bind

theorem agrees_ask {question : World → Answered World Answer}
    {other : Other → Answered Other Answer}
    (asked : ∀ left right, same left right → (question left).result = (other right).result ∧
      same (question left).world (other right).world) :
    Agrees did same (ask question) (ask other) where
  grows := (confined_ask fun _ => trivial : (ask question).Confined fun _ => True).grows
  parallel := by
    intro before left right alike _
    obtain ⟨result, worlds⟩ := asked left.world right.world alike.worlds
    have effects : Journal.effects (left.journal ++ (question left.world).queries.map .asked) =
        before ++ Journal.effects (right.journal ++ (other right.world).queries.map .asked) := by
      rw [Journal.effects_append, Journal.effects_append, effects_asked, effects_asked,
        alike.effects, List.append_assoc]
    simp only [ask, ExceptT.run]
    rw [← result]
    cases (question left.world).result with
    | ok answer => exact ⟨rfl, worlds, effects⟩
    | error error => exact ⟨rfl, worlds, effects⟩

theorem agrees_tell (channel : Channel) (text : String) :
    Agrees did same (tell channel text : Act World Unit) (tell channel text : Act Other Unit) := by
  cases channel with
  | working => exact agrees_record (.told text)
  | broken cause =>
      simp only [tell]
      split
      · exact agrees_record (.told text)
      · exact agrees_fail (.channelClosed cause)

/-- Steps of worlds that are alike agree where they come to the same and leave worlds alike. -/
theorem agrees_inWorld {step : StateM World Answer} {other : StateM Other Answer}
    (stepped : ∀ left right, same left right → (step left).1 = (other right).1 ∧
      same (step left).2 (other right).2) :
    Agrees did same (inWorld step) (inWorld other) where
  grows := fun _ => List.prefix_rfl
  parallel := by
    intro before left right alike _
    obtain ⟨result, worlds⟩ := stepped left.world right.world alike.worlds
    exact ⟨congrArg Except.ok result, worlds, alike.effects⟩

private theorem agrees_received (server : String) (result : Except MailError Receipt) :
    Agrees did same (received server result : Act World Unit)
      (received server result : Act Other Unit) := by
  rcases result with error | _ | reason
  · exact agrees_fail (.mail error)
  · exact agrees_pure ()
  · exact agrees_note _

theorem agrees_send {mailer : Mailer World} {other : Mailer Other} {mail : Mail}
    (connects : mailer.connects = other.connects)
    (delivered : did (.mailed mail) → ∀ left right, same left right →
      (mailer.deliver mail left).1 = (other.deliver mail right).1 ∧
        same (mailer.deliver mail left).2 (other.deliver mail right).2) :
    Agrees did same (send mailer mail) (send other mail) := by
  have confined : (deliver mailer mail).Confined fun _ => True :=
    confined_deliver mailer mail (fun _ _ _ => trivial) fun _ _ => trivial
  refine agrees_record_bind confined.grows fun counts => ?_
  have answered : Agrees did same (inWorld (mailer.deliver mail) >>= received mail.server)
      (inWorld (other.deliver mail) >>= received mail.server) :=
    (agrees_inWorld (delivered counts)).bind (agrees_received mail.server)
  rw [deliver, deliver, connects]
  split
  · exact (agrees_note _).bind fun _ => answered
  · exact answered

theorem agrees_execute {host : Host World} {other : Host Other} {program : String}
    {arguments : List String}
    (executed : did (.started program arguments) → ∀ left right, same left right →
      (host.execute program arguments left).1 = (other.execute program arguments right).1 ∧
        same (host.execute program arguments left).2 (other.execute program arguments right).2)
    (line : String) :
    Agrees did same (execute host line program arguments)
      (execute other line program arguments) := by
  have confined : Confined (fun _ => True) (inWorld (host.execute program arguments) >>=
      orFail fun cause => .command (.notStarted line cause)) :=
    (confined_inWorld _).bind <| confined_orFail (by simp)
  exact agrees_record_bind confined.grows fun counts =>
    (agrees_inWorld (executed counts)).bind <| agrees_orFail _

theorem agrees_write {host : Host World} {other : Host Other} {path text : String}
    (wrote : did (.wrote path text) → ∀ left right, same left right →
      (host.write path text left).1 = (other.write path text right).1 ∧
        same (host.write path text left).2 (other.write path text right).2) :
    Agrees did same (write host path text) (write other path text) := by
  have confined : Confined (fun _ => True) (inWorld (host.write path text) >>=
      orFail (.revisionNotWritten path)) :=
    (confined_inWorld _).bind <| confined_orFail (by simp)
  exact agrees_record_bind confined.grows fun counts =>
    (agrees_inWorld (wrote counts)).bind <| agrees_orFail _

end Act

end HookRules

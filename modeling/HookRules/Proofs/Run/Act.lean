import HookRules.Run.Act

/-!
Laws of acts. An act is described by its answer, by the entries it adds to the journal and by the
world it leaves. No act takes anything out of the journal.
-/

set_option autoImplicit false

namespace HookRules

namespace Run

variable {World : Type}

@[simp] theorem record_journal [Scribe World] (run : Run World) (entry : Entry) :
    (run.record entry).journal = run.journal ++ [entry] := rfl

def note [Scribe World] (run : Run World) (notice : Notice) : Run World :=
  run.record (.noted notice)

@[simp] theorem note_journal [Scribe World] (run : Run World) (notice : Notice) :
    (run.note notice).journal = run.journal ++ [.noted notice] := rfl

@[simp] theorem record_world (run : Run World) (entry : Entry) :
    (run.record entry).world = run.world := rfl

@[simp] theorem note_world (run : Run World) (notice : Notice) :
    (run.note notice).world = run.world := rfl

end Run

theorem Step.run_bind {World Answer Next : Type} (first : Step World Answer)
    (next : Answer → Step World Next) (run : Run World) :
    (first >>= next) run = next (first run).1 (first run).2 := rfl

@[simp] theorem Step.run_pure {World Answer : Type} (answer : Answer) (run : Run World) :
    (pure answer : Step World Answer) run = (answer, run) := rfl

namespace Act

variable {World Answer Next : Type}

theorem run_bind (act : Act World Answer) (next : Answer → Act World Next) (run : Run World) :
    (act >>= next).run run = match act.run run with
      | (.ok answer, after) => (next answer).run after
      | (.error failure, after) => (.error failure, after) := by
  change (act.run >>= ExceptT.bindCont next) run = _
  rw [Step.run_bind]
  rcases act.run run with ⟨_ | _, after⟩ <;> rfl

theorem run_bind_ok {act : Act World Answer} {next : Answer → Act World Next}
    {run after : Run World} {answer : Answer} (answered : act.run run = (.ok answer, after)) :
    (act >>= next).run run = (next answer).run after := by
  rw [run_bind, answered]

theorem run_bind_error {act : Act World Answer} {next : Answer → Act World Next}
    {run after : Run World} {failure : Failure} (failed : act.run run = (.error failure, after)) :
    (act >>= next).run run = (.error failure, after) := by
  rw [run_bind, failed]

@[simp] theorem run_pure (answer : Answer) (run : Run World) :
    (pure answer : Act World Answer).run run = (.ok answer, run) := rfl

@[simp] theorem run_fail (failure : Failure) (run : Run World) :
    (fail failure : Act World Answer).run run = (.error failure, run) := rfl

@[simp] theorem run_record [Scribe World] (entry : Entry) (run : Run World) :
    (record entry : Act World Unit).run run = (.ok (), run.record entry) := rfl

theorem run_inWorld (step : StateM World Answer) (run : Run World) :
    (inWorld step).run run = (.ok (step run.world).1, ⟨(step run.world).2, run.journal⟩) := rfl

theorem ofTokens_ok_bind (answer : Answer) (next : Answer → Act World Next) :
    ofTokens (.ok answer) >>= next = next answer := rfl

theorem ofTokens_error_bind (error : TokenError) (next : Answer → Act World Next) :
    ofTokens (.error error) >>= next = fail (.token error) := rfl

theorem run_ask_ok {question : World → Answered World Answer} {answer : Answer} (run : Run World)
    (answered : (question run.world).result = .ok answer) :
    (ask question).run run = (.ok answer,
      ⟨(question run.world).world, run.journal ++ (question run.world).queries.map .asked⟩) := by
  simp only [ask, ExceptT.run, answered]

/-- From a run on, the act adds some entries, and its answer, these entries and the world it leaves
are as stated. -/
def EndsFrom (act : Act World Answer) (run : Run World)
    (stated : Except Failure Answer → Journal → World → Prop) : Prop :=
  ∃ added, (act.run run).2.journal = run.journal ++ added ∧
    stated (act.run run).1 added (act.run run).2.world

/-- The act ends as stated from every run on. -/
def Ends (act : Act World Answer) (stated : Except Failure Answer → Journal → World → Prop) :
    Prop :=
  ∀ run, act.EndsFrom run stated

theorem EndsFrom.mono {act : Act World Answer} {run : Run World}
    {stated weaker : Except Failure Answer → Journal → World → Prop}
    (ends : act.EndsFrom run stated)
    (implied : ∀ result added world, stated result added world → weaker result added world) :
    act.EndsFrom run weaker := by
  obtain ⟨added, extended, holds⟩ := ends
  exact ⟨added, extended, implied _ _ _ holds⟩

theorem EndsFrom.bind {act : Act World Answer} {next : Answer → Act World Next} {run : Run World}
    {first : Except Failure Answer → Journal → World → Prop}
    {whole : Except Failure Next → Journal → World → Prop} (ends : act.EndsFrom run first)
    (answered : ∀ answer added after, first (.ok answer) added after.world →
      (next answer).EndsFrom after fun result more final => whole result (added ++ more) final)
    (failed : ∀ failure added world, first (.error failure) added world →
      whole (.error failure) added world) :
    (act >>= next).EndsFrom run whole := by
  obtain ⟨added, extended, holds⟩ := ends
  rcases outcome : act.run run with ⟨failure | answer, after⟩
  · rw [outcome] at extended holds
    rw [EndsFrom, run_bind_error outcome]
    exact ⟨added, extended, failed failure added after.world holds⟩
  · rw [outcome] at extended holds
    rw [EndsFrom, run_bind_ok outcome]
    obtain ⟨more, continued, final⟩ := answered answer added after holds
    refine ⟨added ++ more, ?_, final⟩
    rw [continued, extended, List.append_assoc]

theorem ends_pure {answer : Answer} {stated : Except Failure Answer → Journal → World → Prop}
    (holds : ∀ world, stated (.ok answer) [] world) :
    (pure answer : Act World Answer).Ends stated :=
  fun run => ⟨[], by simp, holds run.world⟩

theorem ends_fail {failure : Failure} {stated : Except Failure Answer → Journal → World → Prop}
    (holds : ∀ world, stated (.error failure) [] world) :
    (fail failure : Act World Answer).Ends stated :=
  fun run => ⟨[], by simp, holds run.world⟩

theorem ends_execute [Scribe World] (host : Host World) (line program : String)
    (arguments : List String) :
    (execute host line program arguments).Ends fun result added world =>
      added = [.started program arguments] ∧
        match result with
        | .ok output => ∃ before, host.execute program arguments before = (.ok output, world)
        | .error failure => ∃ cause, failure = .command (.notStarted line cause) := by
  intro run
  rcases executed : host.execute program arguments (run.record (.started program arguments)).world
    with ⟨cause | output, world⟩
  · have failed : (execute host line program arguments).run run =
        (.error (.command (.notStarted line cause)),
          ⟨world, run.journal ++ [.started program arguments]⟩) := by
      rw [execute, run_bind_ok (run_record _ _), run_bind_ok (run_inWorld _ _), executed]
      rfl
    rw [EndsFrom, failed]
    exact ⟨_, rfl, rfl, cause, rfl⟩
  · have finished : (execute host line program arguments).run run =
        (.ok output, ⟨world, run.journal ++ [.started program arguments]⟩) := by
      rw [execute, run_bind_ok (run_record _ _), run_bind_ok (run_inWorld _ _), executed]
      rfl
    rw [EndsFrom, finished]
    exact ⟨_, rfl, rfl, _, executed⟩

/-- The act adds only entries that are allowed, and where it fails, the reason is not that a rule
could not be built. -/
def Confined (allowed : Entry → Prop) (act : Act World Answer) : Prop :=
  act.Ends fun result added _ =>
    (∀ entry ∈ added, allowed entry) ∧ ∀ error, result ≠ .error (.rule error)

section Confined

variable {allowed : Entry → Prop}

theorem Confined.grows {act : Act World Answer} (confined : act.Confined allowed)
    (run : Run World) : run.journal <+: (act.run run).2.journal := by
  obtain ⟨added, extended, _⟩ := confined run
  exact ⟨added, extended.symm⟩

theorem confined_pure (answer : Answer) : (pure answer : Act World Answer).Confined allowed :=
  ends_pure fun _ => ⟨by simp, by simp⟩

theorem confined_fail {failure : Failure} (unrelated : ∀ error, failure ≠ .rule error) :
    (fail failure : Act World Answer).Confined allowed :=
  ends_fail fun _ => ⟨by simp, fun error same => unrelated error (Except.error.inj same)⟩

theorem Confined.bind {act : Act World Answer} {next : Answer → Act World Next}
    (first : act.Confined allowed) (rest : ∀ answer, (next answer).Confined allowed) :
    (act >>= next).Confined allowed := by
  intro run
  refine EndsFrom.bind (first run) ?_ ?_
  · intro answer added after holds
    refine EndsFrom.mono (rest answer after) ?_
    intro result more _ held
    refine ⟨?_, held.2⟩
    intro entry member
    rcases List.mem_append.mp member with earlier | later
    · exact holds.1 entry earlier
    · exact held.1 entry later
  · intro failure added _ holds
    exact ⟨holds.1, fun error same => holds.2 error (congrArg _ (Except.error.inj same))⟩

theorem confined_orFail {Cause : Type} {failure : Cause → Failure}
    (unrelated : ∀ cause error, failure cause ≠ .rule error) (result : Except Cause Answer) :
    (orFail failure result : Act World Answer).Confined allowed := by
  cases result with
  | ok answer => exact confined_pure answer
  | error cause => exact confined_fail (unrelated cause)

theorem confined_ofTokens (result : Except TokenError Answer) :
    (ofTokens result : Act World Answer).Confined allowed :=
  confined_orFail (by simp) result

private theorem confined_record [Scribe World] {entry : Entry} (permitted : allowed entry) :
    (record entry : Act World Unit).Confined allowed :=
  fun _ => ⟨[entry], rfl, by simpa using permitted, fun _ same => by cases same⟩

theorem confined_note [Scribe World] {notice : Notice} (permitted : allowed (.noted notice)) :
    (note notice : Act World Unit).Confined allowed :=
  confined_record permitted

theorem confined_inWorld (step : StateM World Answer) : (inWorld step).Confined allowed :=
  fun _ => ⟨[], (List.append_nil _).symm, by simp, fun _ same => by cases same⟩

theorem confined_ask {question : World → Answered World Answer}
    (permitted : ∀ query, allowed (.asked query)) : (ask question).Confined allowed := by
  intro run
  refine ⟨(question run.world).queries.map .asked, ?_, ?_, ?_⟩
  · simp only [ask, ExceptT.run]
    cases (question run.world).result <;> rfl
  · intro entry member
    obtain ⟨query, _, rfl⟩ := List.mem_map.mp member
    exact permitted query
  · intro error
    simp only [ask, ExceptT.run]
    cases (question run.world).result <;> simp

theorem confined_tell [Scribe World] {channel : Channel} {text : String}
    (permitted : allowed (.told text)) :
    (tell channel text : Act World Unit).Confined allowed := by
  cases channel with
  | working => exact confined_record permitted
  | broken cause =>
      simp only [tell]
      split
      · exact confined_record permitted
      · exact confined_fail (by simp)

theorem confined_execute [Scribe World] {host : Host World} {line program : String}
    {arguments : List String} (permitted : allowed (.started program arguments)) :
    (execute host line program arguments).Confined allowed :=
  (confined_record permitted).bind fun _ => (confined_inWorld _).bind <| confined_orFail (by simp)

theorem confined_write [Scribe World] {host : Host World} {path text : String}
    (permitted : allowed (.wrote path text)) : (write host path text).Confined allowed :=
  (confined_record permitted).bind fun _ => (confined_inWorld _).bind <| confined_orFail (by simp)

private theorem confined_received [Scribe World]
    (rejected : ∀ server reason, allowed (.noted (.mailRejected server reason))) (server : String)
    (result : Except MailError Receipt) :
    (received server result : Act World Unit).Confined allowed := by
  rcases result with error | _ | reason
  · exact confined_fail (by simp)
  · exact confined_pure ()
  · exact confined_note (rejected _ _)

theorem confined_deliver [Scribe World] (mailer : Mailer World) (mail : Mail)
    (connecting : ∀ server port recipients, allowed (.noted (.connecting server port recipients)))
    (rejected : ∀ server reason, allowed (.noted (.mailRejected server reason))) :
    (deliver mailer mail : Act World Unit).Confined allowed := by
  have answered :=
    (confined_inWorld (mailer.deliver mail)).bind (confined_received rejected mail.server)
  rw [deliver]
  split
  · exact (confined_note (connecting _ _ _)).bind fun _ => answered
  · exact answered

theorem confined_send [Scribe World] {mailer : Mailer World} {mail : Mail}
    (permitted : allowed (.mailed mail))
    (connecting : ∀ server port recipients, allowed (.noted (.connecting server port recipients)))
    (rejected : ∀ server reason, allowed (.noted (.mailRejected server reason))) :
    (send mailer mail : Act World Unit).Confined allowed :=
  (confined_record permitted).bind fun _ => confined_deliver mailer mail connecting rejected

end Confined

/-- What an act of a rule comes to, whether it answers or fails. -/
def outcome : Except Failure (Outcome × Tokens) → Outcome
  | .ok (outcome, _) => outcome
  | .error failure => .internal failure

/-- The act never ends because a rule could not be built. -/
def Careful (act : Act World (Outcome × Tokens)) : Prop :=
  ∀ run error, outcome (act.run run).1 ≠ .internal (.rule error)

theorem careful_pass (code : Int) (scope : Tokens) :
    (pure (.code code, scope) : Act World (Outcome × Tokens)).Careful := by
  intro run error
  simp [outcome]

/-- Where the act has an answer, the tokens that hold afterwards are the given ones. -/
def Keeps (tokens : Tokens) (act : Act World (Outcome × Tokens)) : Prop :=
  ∀ run outcome final after, act.run run = (.ok (outcome, final), after) → final = tokens

/-- A rule ended with a code and left the tokens, or failed for another reason than a mistake in its
document. -/
inductive Settled (tokens : Tokens) : Except Failure (Outcome × Tokens) → Prop
  | ended (code : Int) : Settled tokens (.ok (.code code, tokens))
  | failed {failure : Failure} :
      (∀ error, failure ≠ .rule error) → Settled tokens (.error failure)

def Settles (tokens : Tokens) (act : Act World (Outcome × Tokens)) : Prop :=
  ∀ run, Settled tokens (act.run run).1

theorem settles_pass (code : Int) (tokens : Tokens) :
    (pure (.code code, tokens) : Act World (Outcome × Tokens)).Settles tokens :=
  fun _ => .ended code

theorem settles_fail {failure : Failure} (unrelated : ∀ error, failure ≠ .rule error)
    (tokens : Tokens) : (fail failure : Act World (Outcome × Tokens)).Settles tokens :=
  fun _ => .failed unrelated

theorem settles_bind {act : Act World Answer} {next : Answer → Act World (Outcome × Tokens)}
    {tokens : Tokens} (first : act.Confined fun _ => True)
    (rest : ∀ answer, (next answer).Settles tokens) : (act >>= next).Settles tokens := by
  intro run
  obtain ⟨added, _, _, unrelated⟩ := first run
  rcases ended : act.run run with ⟨failure | answer, after⟩
  · rw [ended] at unrelated
    rw [run_bind_error ended]
    exact .failed fun error same => unrelated error (congrArg _ same)
  · rw [run_bind_ok ended]
    exact rest answer after

theorem Settles.careful {act : Act World (Outcome × Tokens)} {tokens : Tokens}
    (settles : act.Settles tokens) : act.Careful := by
  intro run error
  have settled := settles run
  generalize (act.run run).1 = result at settled ⊢
  cases settled with
  | ended code => simp [outcome]
  | failed unrelated => simpa [outcome] using unrelated error

theorem Settles.keeps {act : Act World (Outcome × Tokens)} {tokens : Tokens}
    (settles : act.Settles tokens) : act.Keeps tokens := by
  intro run found final after answered
  have settled := settles run
  rw [answered] at settled
  cases settled
  rfl

end Act

end HookRules

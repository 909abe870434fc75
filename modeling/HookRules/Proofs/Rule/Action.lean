import HookRules.Proofs.Run.Act
import HookRules.Rule.Action

/-!
What actions tell the client, and which codes they end an evaluation with. An action tells at most
one text, as the last thing it does, and only when it ends the evaluation with a code other than
zero.
-/

set_option autoImplicit false

namespace HookRules

namespace Entry

/-- The entry is nothing that the client was told. -/
def Untold (entry : Entry) : Prop := entry.text? = none

theorem untold_append {first second : Journal} (quiet : ∀ entry ∈ first, entry.Untold)
    (rest : ∀ entry ∈ second, entry.Untold) : ∀ entry ∈ first ++ second, entry.Untold := by
  intro entry member
  rcases List.mem_append.mp member with earlier | later
  · exact quiet entry earlier
  · exact rest entry later

theorem untold_noted (notice : Notice) : ∀ entry ∈ [Entry.noted notice], entry.Untold := by
  simp [Untold, text?]

private theorem untold_started (program : String) (arguments : List String) :
    ∀ entry ∈ [Entry.started program arguments], entry.Untold := by
  simp [Untold, text?]

end Entry

namespace Text

private theorem readDigits_le {limit : Nat} {beyond : NumeralError} {value read : Nat}
    {digits : List Char}
    (bounded : value ≤ limit) (accepted : readDigits limit beyond value digits = .ok read) :
    read ≤ limit := by
  induction digits generalizing value with
  | nil =>
      cases accepted
      exact bounded
  | cons c rest ih =>
      rw [readDigits] at accepted
      split at accepted
      · cases accepted
      · split at accepted
        · rename_i inside
          exact ih inside accepted
        · cases accepted

private theorem readNat_le {limit read : Nat} {text : String}
    (accepted : readNat limit text = .ok read) :
    read ≤ limit := by
  rw [readNat] at accepted
  split at accepted
  · cases accepted
  · cases accepted
  · exact readDigits_le (Nat.zero_le limit) accepted
  · exact readDigits_le (Nat.zero_le limit) accepted

end Text

theorem Element.number?_range {element : Element} {name : String} {limit value : Nat}
    (given : element.number? name limit = .ok (some value)) : 1 ≤ value ∧ value ≤ limit := by
  rw [Element.number?] at given
  split at given
  · cases given
  · split at given
    · rename_i text _ value read
      cases given
      exact ⟨Nat.succ_pos value, Text.readNat_le read⟩
    · cases given

theorem Element.number?_getD_range {element : Element} {name : String} {limit : Nat}
    {given : Option Nat} (number : element.number? name limit = .ok given) (positive : 1 ≤ limit) :
    1 ≤ given.getD 1 ∧ given.getD 1 ≤ limit := by
  cases given with
  | none => exact ⟨Nat.le_refl 1, positive⟩
  | some value => exact Element.number?_range number

namespace Action

variable {World : Type} [Scribe World]

/-- What performing an action comes to where the client can be told: the result, the entries that
it adds to the journal, and the world that it leaves. -/
inductive Report (host : Host World) (tokens : Tokens) :
    Action → Except Failure (Outcome × Tokens) → Journal → World → Prop
  | failed {action failure added world} :
      (∀ entry ∈ added, entry.Untold) → Report host tokens action (.error failure) added world
  | passed {action scope added world} :
      (∀ entry ∈ added, entry.Untold) → Report host tokens action (.ok (.done, scope)) added world
  | refused {code message text added world} :
      (∀ entry ∈ added, entry.Untold) → tokens.expand message = .ok text →
      Report host tokens (.sendError code message) (.ok (.code code, tokens))
        (added ++ [.told text]) world
  | stopped {command line program arguments output before after added} {errorLevel : Nat}
      {code : Int} :
      (∀ entry ∈ added, entry.Untold) → tokens.expand (Text.trim command) = .ok line →
      Command.words? line = some (program :: arguments) →
      host.execute program arguments before = (.ok output, after) → output.code = some code →
      (errorLevel : Int) ≤ code →
      Report host tokens (.execute command errorLevel) (.ok (.code (min code maxCode), tokens))
        (added ++ [.started program arguments, .told output.stderr])
        (Scribe.keep (.told output.stderr) after)

variable {host : Host World} {tokens : Tokens} {action : Action}

theorem Report.after {result : Except Failure (Outcome × Tokens)} {earlier added : Journal}
    {world : World} (quiet : ∀ entry ∈ earlier, entry.Untold)
    (report : Report host tokens action result added world) :
    Report host tokens action result (earlier ++ added) world := by
  cases report with
  | failed untold => exact .failed (Entry.untold_append quiet untold)
  | passed untold => exact .passed (Entry.untold_append quiet untold)
  | refused untold expanded =>
      rw [← List.append_assoc]
      exact .refused (Entry.untold_append quiet untold) expanded
  | stopped untold expanded words executed ended reached =>
      rw [← List.append_assoc]
      exact .stopped (Entry.untold_append quiet untold) expanded words executed ended reached

private theorem reports_bind {Answer : Type} {act : Act World Answer}
    {next : Answer → Act World (Outcome × Tokens)} (quiet : act.Confined Entry.Untold)
    (rest : ∀ answer, (next answer).Ends (Report host tokens action)) :
    (act >>= next).Ends (Report host tokens action) := by
  intro run
  refine Act.EndsFrom.bind (quiet run) ?_ ?_
  · intro answer added after holds
    exact Act.EndsFrom.mono (rest answer after) fun result more final report => report.after holds.1
  · intro failure added _ holds
    exact .failed holds.1

private theorem reports_pass (scope : Tokens) :
    (pure (.done, scope) : Act World (Outcome × Tokens)).Ends (Report host tokens action) :=
  Act.ends_pure fun _ => .passed (by simp)

private theorem reports_fail (failure : Failure) :
    (Act.fail failure : Act World (Outcome × Tokens)).Ends (Report host tokens action) :=
  Act.ends_fail fun _ => .failed (by simp)

theorem noteLines_confined {allowed : Entry → Prop} (code : Nat) (lines : List String)
    (permitted : ∀ line, allowed (.noted (.telling code line))) :
    (noteLines code lines : Act World Unit).Confined allowed := by
  induction lines with
  | nil => exact Act.confined_pure ()
  | cons line rest ih =>
      have noted : (Act.note (.telling code line) : Act World Unit).Confined allowed :=
        Act.confined_note (permitted line)
      exact noted.bind fun _ => ih

private theorem send_untold (mailer : Mailer World) (mail : Mail) :
    (Act.send mailer mail : Act World Unit).Confined Entry.Untold :=
  Act.confined_send rfl (fun _ _ _ => rfl) fun _ _ => rfl

private theorem send_unbound (mailer : Mailer World) (mail : Mail) :
    (Act.send mailer mail : Act World Unit).Confined fun _ => True :=
  Act.confined_send trivial (fun _ _ _ => trivial) fun _ _ => trivial

private theorem conclude_reports {command line program : String} {arguments : List String}
    {errorLevel : Nat} {output : Output} {before : World} {run : Run World}
    (expanded : tokens.expand (Text.trim command) = .ok line)
    (words : Command.words? line = some (program :: arguments))
    (executed : host.execute program arguments before = (.ok output, run.world)) :
    Act.EndsFrom (do return (← conclude .working line errorLevel output, tokens)) run
      fun result added world =>
        Report host tokens (.execute command errorLevel) result
          (.started program arguments :: added) world := by
  have silent := Entry.untold_started program arguments
  rw [conclude]
  cases ended : output.code with
  | none => exact ⟨[], (List.append_nil _).symm, .failed silent⟩
  | some code =>
      dsimp only
      split
      · rename_i reached
        have report : Report host tokens (.execute command errorLevel)
            (.ok (.code (min code maxCode), tokens))
            ([] ++ [.started program arguments, .told output.stderr])
            (run.record (.told output.stderr)).world :=
          .stopped (by simp) expanded words executed ended reached
        exact ⟨[.told output.stderr], rfl, report⟩
      · exact ⟨[], (List.append_nil _).symm, .passed silent⟩

theorem perform_reports (setting : Setting World) (working : setting.channel = .working)
    (tokens : Tokens) (action : Action) :
    (action.perform setting tokens).Ends (Report setting.host tokens action) := by
  cases action with
  | setToken name value => exact reports_pass _
  | sendError code message =>
      rw [perform]
      cases expanded : tokens.expand message with
      | error error =>
          rw [Act.ofTokens_error_bind]
          exact reports_fail _
      | ok text =>
          rw [Act.ofTokens_ok_bind]
          refine reports_bind (noteLines_confined code _ fun _ => rfl) fun _ run => ?_
          rw [working]
          have report : Report setting.host tokens (.sendError code message)
              (.ok (.code code, tokens)) ([] ++ [.told text]) (run.record (.told text)).world :=
            .refused (by simp) expanded
          exact ⟨[.told text], rfl, report⟩
  | sendMail envelope message =>
      exact reports_bind (Act.confined_ofTokens _) fun body =>
        reports_bind (Act.confined_ofTokens _) fun mail =>
          reports_bind (Act.confined_note rfl) fun _ =>
            reports_bind (send_untold _ mail) fun _ => reports_pass _
  | sendLog envelope verbose =>
      exact reports_bind (Act.confined_ask fun _ => rfl) fun body =>
        reports_bind (Act.confined_ofTokens _) fun mail =>
          reports_bind (Act.confined_note rfl) fun _ =>
            reports_bind (send_untold _ mail) fun _ => reports_pass _
  | execute command errorLevel =>
      rw [perform]
      cases expanded : tokens.expand (Text.trim command) with
      | error error =>
          rw [Act.ofTokens_error_bind]
          exact reports_fail _
      | ok line =>
          rw [Act.ofTokens_ok_bind, commandWords]
          cases words : Command.words? line with
          | none => exact reports_fail _
          | some found =>
              cases found with
              | nil => exact reports_fail _
              | cons program arguments =>
                  dsimp only
                  rw [working]
                  refine reports_bind (Act.confined_note rfl) fun _ run => ?_
                  refine Act.EndsFrom.bind
                    (Act.ends_execute setting.host line program arguments run) ?_ ?_
                  · rintro output added after ⟨rfl, before, executed⟩
                    exact conclude_reports expanded words executed
                  · rintro failure added world ⟨rfl, cause, rfl⟩
                    exact .failed (Entry.untold_started program arguments)
  | recordRevision path =>
      rw [perform]
      cases setting.facts.subject.revision? with
      | none => exact reports_fail _
      | some revision =>
          exact reports_bind (Act.confined_ofTokens _) fun path =>
            reports_bind (Act.confined_write rfl) fun _ =>
              reports_bind (Act.confined_note rfl) fun _ => reports_pass _

theorem conclude_settles (channel : Channel) (line : String) (errorLevel : Nat) (output : Output)
    (tokens : Tokens) :
    (do return (← conclude channel line errorLevel output, tokens) :
      Act World (Outcome × Tokens)).Settles tokens := by
  rw [conclude]
  split
  · exact Act.settles_fail (by simp) tokens
  · split
    · rw [bind_assoc]
      exact Act.settles_bind (Act.confined_tell trivial) fun _ => Act.settles_pass _ _
    · exact Act.settles_pass _ _

/-- Whatever the client can be told, an action other than setting a token leaves the tokens, and
fails for no mistake in the document. -/
theorem perform_settles (setting : Setting World) (tokens : Tokens) {action : Action}
    (other : ∀ name value, action ≠ .setToken name value) :
    (action.perform setting tokens).Settles tokens := by
  cases action with
  | setToken name value => exact absurd rfl (other name value)
  | sendError code message =>
      exact Act.settles_bind (Act.confined_ofTokens _) fun text =>
        Act.settles_bind (noteLines_confined code _ fun _ => trivial) fun _ =>
          Act.settles_bind (Act.confined_tell trivial) fun _ => Act.settles_pass _ _
  | sendMail envelope message =>
      exact Act.settles_bind (Act.confined_ofTokens _) fun body =>
        Act.settles_bind (Act.confined_ofTokens _) fun mail =>
          Act.settles_bind (Act.confined_note trivial) fun _ =>
            Act.settles_bind (send_unbound _ mail) fun _ => Act.settles_pass _ _
  | sendLog envelope verbose =>
      exact Act.settles_bind (Act.confined_ask fun _ => trivial) fun body =>
        Act.settles_bind (Act.confined_ofTokens _) fun mail =>
          Act.settles_bind (Act.confined_note trivial) fun _ =>
            Act.settles_bind (send_unbound _ mail) fun _ => Act.settles_pass _ _
  | execute command errorLevel =>
      refine Act.settles_bind (Act.confined_ofTokens _) fun line => ?_
      split
      · exact Act.settles_fail (by simp) tokens
      · exact Act.settles_bind (Act.confined_note trivial) fun _ =>
          Act.settles_bind (Act.confined_execute trivial) fun output =>
            conclude_settles _ _ _ _ _
  | recordRevision path =>
      rw [perform]
      cases setting.facts.subject.revision? with
      | none => exact Act.settles_fail (by simp) tokens
      | some revision =>
          exact Act.settles_bind (Act.confined_ofTokens _) fun path =>
            Act.settles_bind (Act.confined_write trivial) fun _ =>
              Act.settles_bind (Act.confined_note trivial) fun _ => Act.settles_pass _ _

theorem perform_careful (setting : Setting World) (tokens : Tokens) (action : Action) :
    (action.perform setting tokens).Careful := by
  by_cases sets : ∃ name value, action = .setToken name value
  · obtain ⟨name, value, rfl⟩ := sets
    exact Act.careful_pass 0 _
  · exact (perform_settles setting tokens fun name value same => sets ⟨name, value, same⟩).careful

end Action

end HookRules

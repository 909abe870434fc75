import HookRules.Proofs.Fact.Answers
import HookRules.Proofs.Rule.Envelope
import HookRules.Proofs.Run.Derivation

/-!
Mail is all or nothing. Everything that can go wrong with a mail goes wrong before it is handed to
the mailer, which is given it once; where something does, nothing is sent.
-/

set_option autoImplicit false

namespace HookRules

namespace Journal

@[simp] theorem mails_append (first second : Journal) :
    mails (first ++ second) = mails first ++ mails second :=
  List.filterMap_append

@[simp] theorem mails_noted (notice : Notice) : mails [.noted notice] = [] := rfl

@[simp] theorem mails_asked (queries : List Query) : mails (queries.map .asked) = [] := by
  induction queries with
  | nil => rfl
  | cons query rest ih => exact ih

end Journal

variable {World : Type}

/-- What performing an action that sends mail comes to: the one mail that can be made was handed
over in the given world, and the mailer decides, or no mail can be made and none was. -/
inductive Posted (mailer : Mailer World) (world : World) (tokens : Tokens) (makes : Mail → Prop) :
    Except Failure (Outcome × Tokens) → Journal → World → Prop
  | accepted {mail receipt added} :
      makes mail → Journal.mails added = [mail] → (mailer.deliver mail world).1 = .ok receipt →
      Posted mailer world tokens makes (.ok (.done, tokens)) added (mailer.deliver mail world).2
  | rejected {mail error added} :
      makes mail → Journal.mails added = [mail] → (mailer.deliver mail world).1 = .error error →
      Posted mailer world tokens makes (.error (.mail error)) added (mailer.deliver mail world).2
  | unmade {failure added after} :
      (∀ mail, ¬ makes mail) → Journal.mails added = [] →
      Posted mailer world tokens makes (.error failure) added after

namespace Posted

variable {mailer : Mailer World} {world final : World} {tokens : Tokens} {makes : Mail → Prop}

theorem after {result : Except Failure (Outcome × Tokens)} {earlier added : Journal}
    (quiet : Journal.mails earlier = [])
    (posted : Posted mailer world tokens makes result added final) :
    Posted mailer world tokens makes result (earlier ++ added) final := by
  cases posted with
  | accepted made once delivered =>
      exact .accepted made (by rw [Journal.mails_append, quiet, once]; rfl) delivered
  | rejected made once refused =>
      exact .rejected made (by rw [Journal.mails_append, quiet, once]; rfl) refused
  | unmade none unsent => exact .unmade none (by rw [Journal.mails_append, quiet, unsent]; rfl)

end Posted

namespace Action

variable {tokens : Tokens} {makes : Mail → Prop}

private theorem deliver_ends (mailer : Mailer World) (mail : Mail) (run : Run World) :
    (Act.deliver mailer mail).EndsFrom run fun result added world =>
      Journal.mails added = [] ∧ world = (mailer.deliver mail run.world).2 ∧
        result = ((mailer.deliver mail run.world).1.map fun _ => ()).mapError .mail := by
  have answered (begun : Run World) (same : begun.world = run.world) :
      (Act.inWorld (mailer.deliver mail) >>= Act.received mail.server).EndsFrom begun
        fun result added world =>
          Journal.mails added = [] ∧ world = (mailer.deliver mail run.world).2 ∧
            result = ((mailer.deliver mail run.world).1.map fun _ => ()).mapError .mail := by
    rw [Act.EndsFrom, Act.run_bind_ok (Act.run_inWorld _ _), same]
    rcases (mailer.deliver mail run.world).1 with error | _ | reason
    · exact ⟨[], (List.append_nil _).symm, rfl, rfl, rfl⟩
    · exact ⟨[], (List.append_nil _).symm, rfl, rfl, rfl⟩
    · exact ⟨[.noted (.mailRejected mail.server reason)], rfl, rfl, rfl, rfl⟩
  rw [Act.deliver]
  split
  · have noted : (Act.note (.connecting mail.server mail.port mail.recipients.length) :
        Act World Unit).EndsFrom run fun result added world =>
          Journal.mails added = [] ∧ world = run.world ∧ result = .ok () :=
      ⟨_, rfl, rfl, rfl, rfl⟩
    refine noted.bind ?_ (fun failure added world holds => by cases holds.2.2)
    intro _ added after holds
    refine (answered after holds.2.1).mono ?_
    intro result more world ends
    exact ⟨by rw [Journal.mails_append, holds.1, ends.1]; rfl, ends.2⟩
  · exact answered run rfl

private theorem send_ends (mailer : Mailer World) (mail : Mail) (run : Run World) :
    (Act.send mailer mail).EndsFrom run fun result added world =>
      Journal.mails added = [mail] ∧ world = (mailer.deliver mail run.world).2 ∧
        result = ((mailer.deliver mail run.world).1.map fun _ => ()).mapError .mail := by
  have recorded : (Act.record (.mailed mail) : Act World Unit).EndsFrom run
      fun result added world =>
        Journal.mails added = [mail] ∧ world = run.world ∧ result = .ok () :=
    ⟨_, rfl, rfl, rfl, rfl⟩
  refine recorded.bind ?_ (fun failure added world holds => by cases holds.2.2)
  intro _ added after holds
  have delivered := deliver_ends mailer mail after
  rw [holds.2.1] at delivered
  refine delivered.mono ?_
  intro result more world ends
  exact ⟨by rw [Journal.mails_append, holds.1, ends.1]; rfl, ends.2⟩

variable (tokens) in
private theorem post_ends (mailer : Mailer World) (notice : Notice) {mail : Mail}
    (made : makes mail) (run : Run World) :
    (do Act.note notice; Act.send mailer mail; return (.done, tokens) :
      Act World (Outcome × Tokens)).EndsFrom run
        (Posted mailer run.world tokens makes) := by
  have noted : (Act.note notice : Act World Unit).EndsFrom run fun result added world =>
      result = .ok () ∧ added = [.noted notice] ∧ world = run.world :=
    ⟨_, rfl, rfl, rfl, rfl⟩
  refine noted.bind ?_ (fun failure added world holds => by cases holds.1)
  rintro _ _ middle ⟨-, rfl, same⟩
  have sent := send_ends mailer mail middle
  rw [same] at sent
  refine sent.bind ?_ ?_
  · rintro taken added after ⟨once, world, delivered⟩
    refine ⟨[], (List.append_nil _).symm, ?_⟩
    apply Posted.after rfl
    rw [List.append_nil]
    change Posted mailer run.world tokens makes (.ok (.done, tokens)) added after.world
    rw [world]
    cases decided : (mailer.deliver mail run.world).1 with
    | ok receipt => exact .accepted made once decided
    | error error =>
        rw [decided] at delivered
        cases delivered
  · rintro failure added _ ⟨once, rfl, refused⟩
    apply Posted.after rfl
    cases decided : (mailer.deliver mail run.world).1 with
    | ok receipt =>
        rw [decided] at refused
        cases refused
    | error error =>
        rw [decided] at refused
        cases refused
        exact .rejected made once decided

private theorem perform_sendMail {setting : Setting World} {envelope : Envelope} {message : String}
    {run : Run World} (made : ∀ mail, makes mail ↔ ∃ body, tokens.expand message = .ok body ∧
      envelope.address setting.settings tokens body = .ok mail) :
    ((Action.sendMail envelope message).perform setting tokens).EndsFrom run
      (Posted setting.mailer run.world tokens makes) := by
  rw [perform]
  cases expanded : tokens.expand message with
  | error error =>
      refine ⟨[], by simp [Act.ofTokens_error_bind], .unmade ?_ rfl⟩
      intro mail makes
      obtain ⟨body, same, _⟩ := (made mail).mp makes
      rw [expanded] at same
      cases same
  | ok body =>
      rw [Act.ofTokens_ok_bind]
      cases addressed : envelope.address setting.settings tokens body with
      | error error =>
          refine ⟨[], by simp [Act.ofTokens_error_bind], .unmade ?_ rfl⟩
          intro mail makes
          obtain ⟨other, same, found⟩ := (made mail).mp makes
          rw [expanded] at same
          cases same
          rw [addressed] at found
          cases found
      | ok mail =>
          exact post_ends tokens setting.mailer _ ((made mail).mpr ⟨body, expanded, addressed⟩) run

private theorem perform_sendLog {setting : Setting World} {envelope : Envelope} {verbose : Bool}
    {run : Run World} (made : ∀ mail, makes mail ↔ ∃ body,
      (setting.facts.revisionLog verbose run.world).result = .ok body ∧
        envelope.address setting.settings tokens body = .ok mail) :
    ((Action.sendLog envelope verbose).perform setting tokens).EndsFrom run
      (Posted setting.mailer (setting.facts.revisionLog verbose run.world).world tokens makes) := by
  have asked : (Act.ask (setting.facts.revisionLog verbose)).EndsFrom run fun result added world =>
      result = (setting.facts.revisionLog verbose run.world).result.mapError .fact ∧
        Journal.mails added = [] ∧
        world = (setting.facts.revisionLog verbose run.world).world := by
    refine ⟨(setting.facts.revisionLog verbose run.world).queries.map .asked, ?_, ?_,
      Journal.mails_asked _, ?_⟩
    · simp only [Act.ask, ExceptT.run]
      cases (setting.facts.revisionLog verbose run.world).result <;> rfl
    · simp only [Act.ask, ExceptT.run]
      cases (setting.facts.revisionLog verbose run.world).result <;> rfl
    · simp only [Act.ask, ExceptT.run]
      cases (setting.facts.revisionLog verbose run.world).result <;> rfl
  rw [perform]
  refine asked.bind ?_ ?_
  · rintro body earlier after ⟨same, quiet, world⟩
    have answered : (setting.facts.revisionLog verbose run.world).result = .ok body := by
      cases found : (setting.facts.revisionLog verbose run.world).result with
      | error error =>
          rw [found] at same
          cases same
      | ok other =>
          rw [found] at same
          cases same
          rfl
    cases addressed : envelope.address setting.settings tokens body with
    | error error =>
        refine ⟨[], by simp [Act.ofTokens_error_bind], ?_⟩
        apply Posted.after quiet
        refine .unmade ?_ rfl
        intro mail makes
        obtain ⟨other, given, found⟩ := (made mail).mp makes
        rw [answered] at given
        cases given
        rw [addressed] at found
        cases found
    | ok mail =>
        have makes := (made mail).mpr ⟨body, answered, addressed⟩
        have posted := post_ends tokens setting.mailer
          (.mailingLog mail.recipients mail.subject) makes after
        rw [world] at posted
        exact posted.mono fun result added _ ends => ends.after quiet
  · rintro failure added _ ⟨same, quiet, -⟩
    refine .unmade ?_ quiet
    intro mail makes
    obtain ⟨body, given, _⟩ := (made mail).mp makes
    rw [given] at same
    cases same

end Action

/-- The element sends mail. -/
def Element.SendsMail (element : Element) : Prop :=
  element.name = "SendSmtp" ∨ element.name = "SendLogSmtp"

/-- The mail is the one that the element makes: of its parts, and of its message or of the log of
the revision. -/
structure Element.Mails (element : Element) (setting : Setting World) (tokens : Tokens)
    (world : World) (mail : Mail) : Prop where
  addressed : element.Addressed setting.settings tokens mail
  message : element.name = "SendSmtp" → element.Supplies tokens Text.dedent "Message" mail.body
  log : element.name = "SendLogSmtp" →
    (setting.facts.revisionLog (element.switch "verbose" true) world).result = .ok mail.body

/-- Everything that a mail is made of is there, valid, and can be expanded or asked for. -/
structure Element.ReadyToMail (element : Element) (setting : Setting World) (tokens : Tokens)
    (world : World) : Prop where
  addressable : element.Addressable tokens
  message : element.name = "SendSmtp" →
    ∃ body, element.Supplies tokens Text.dedent "Message" body
  log : element.name = "SendLogSmtp" →
    ∃ body, (setting.facts.revisionLog (element.switch "verbose" true) world).result = .ok body

/-- The world in which an element hands its mail over. A log is asked for before. -/
def Element.postedIn (element : Element) (setting : Setting World) (world : World) : World :=
  if element.name = "SendLogSmtp" then
    (setting.facts.revisionLog (element.switch "verbose" true) world).world
  else world

/-- No placeholder in the text is that of a set token. -/
def Tokens.Exhausted (tokens : Tokens) (text : String) : Prop :=
  ∀ name, Occurs name text.toList → tokens.lookup? (String.ofList name) = none

namespace Element

variable {element : Element} {setting : Setting World} {tokens : Tokens} {world : World}

private theorem not_log (message : element.name = "SendSmtp") : element.name ≠ "SendLogSmtp" := by
  rw [message]
  decide

theorem mails_iff_message (named : element.name = "SendSmtp") (mail : Mail) :
    element.Mails setting tokens world mail ↔
      ∃ envelope source body, Envelope.ofElement element = .ok envelope ∧
        element.requireChildText "Message" = .ok source ∧
        tokens.expand (Text.dedent source) = .ok body ∧
        envelope.address setting.settings tokens body = .ok mail := by
  constructor
  · rintro ⟨addressed, message, -⟩
    obtain ⟨source, required, expanded⟩ := supplies_iff.mp (message named)
    obtain ⟨envelope, made, found⟩ := addressed_iff.mpr ⟨addressed, rfl⟩
    exact ⟨envelope, source, mail.body, made, required, expanded, found⟩
  · rintro ⟨envelope, source, body, made, required, expanded, found⟩
    obtain ⟨addressed, rfl⟩ := addressed_iff.mp ⟨envelope, made, found⟩
    exact ⟨addressed, fun _ => supplies_iff.mpr ⟨source, required, expanded⟩,
      fun other => absurd other (not_log named)⟩

theorem mails_iff_log (named : element.name = "SendLogSmtp") (mail : Mail) :
    element.Mails setting tokens world mail ↔
      ∃ envelope body, Envelope.ofElement element = .ok envelope ∧
        (setting.facts.revisionLog (element.switch "verbose" true) world).result = .ok body ∧
        envelope.address setting.settings tokens body = .ok mail := by
  constructor
  · rintro ⟨addressed, -, log⟩
    obtain ⟨envelope, made, found⟩ := addressed_iff.mpr ⟨addressed, rfl⟩
    exact ⟨envelope, mail.body, made, log named, found⟩
  · rintro ⟨envelope, body, made, answered, found⟩
    obtain ⟨addressed, rfl⟩ := addressed_iff.mp ⟨envelope, made, found⟩
    exact ⟨addressed, fun other => absurd named (not_log other), fun _ => answered⟩

theorem readyToMail_iff (sends : element.SendsMail) :
    element.ReadyToMail setting tokens world ↔ ∃ mail, element.Mails setting tokens world mail := by
  constructor
  · intro ready
    rcases sends with named | named
    · obtain ⟨body, gives⟩ := ready.message named
      obtain ⟨mail, addressed, rfl⟩ := (addressable_iff setting.settings body).mp ready.addressable
      exact ⟨mail, addressed, fun _ => gives, fun other => absurd other (not_log named)⟩
    · obtain ⟨body, answered⟩ := ready.log named
      obtain ⟨mail, addressed, rfl⟩ := (addressable_iff setting.settings body).mp ready.addressable
      exact ⟨mail, addressed, fun other => absurd named (not_log other), fun _ => answered⟩
  · rintro ⟨mail, addressed, message, log⟩
    exact ⟨(addressable_iff setting.settings mail.body).mpr ⟨mail, addressed, rfl⟩,
      fun named => ⟨mail.body, message named⟩, fun named => ⟨mail.body, log named⟩⟩

theorem Mails.exhausted {mail : Mail} (mails : element.Mails setting tokens world mail) :
    (∀ text ∈ mail.server :: mail.sender :: mail.subject :: mail.recipients,
      tokens.Exhausted text) ∧ (element.name = "SendSmtp" → tokens.Exhausted mail.body) := by
  obtain ⟨⟨⟨source, _, server⟩, _, _, ⟨_, _, sender⟩, ⟨_, _, subject⟩, _, recipients⟩, message, _⟩ :=
    mails
  constructor
  · simp only [List.forall_mem_cons]
    refine ⟨Tokens.expand_plain server, Tokens.expand_plain sender, Tokens.expand_plain subject, ?_⟩
    generalize element.addressees = children at recipients
    generalize mail.recipients = texts at recipients
    induction recipients with
    | nil => exact fun _ member => absurd member List.not_mem_nil
    | cons expanded _ ih => exact List.forall_mem_cons.mpr ⟨Tokens.expand_plain expanded, ih⟩
  · intro named
    obtain ⟨_, _, body⟩ := message named
    exact Tokens.expand_plain body

end Element

namespace Evaluation

/-- An evaluation of an element that sends mail: what was sent in the given world, what it came to,
and the world that it left. -/
inductive Mailed (setting : Setting World) (world : World) (makes : Mail → Prop) :
    Outcome → List Mail → World → Prop
  | accepted {mail receipt} :
      makes mail → (setting.mailer.deliver mail world).1 = .ok receipt →
      Mailed setting world makes .done [mail] (setting.mailer.deliver mail world).2
  | rejected {mail error} :
      makes mail → (setting.mailer.deliver mail world).1 = .error error →
      Mailed setting world makes (.internal (.mail error)) [mail]
        (setting.mailer.deliver mail world).2
  | unmade {failure after} :
      (∀ mail, ¬ makes mail) → Mailed setting world makes (.internal failure) [] after

variable {setting : Setting World} {registry : Registry World} {element : Element}
  {tokens : Tokens} {makes : Mail → Prop} {run : Run World} {world : World}

/-- From a run on, an element is evaluated to an outcome, leaves the tokens, and sends mails. -/
def MailsFrom (setting : Setting World) (registry : Registry World) (element : Element)
    (tokens : Tokens) (run : Run World) (world : World) (makes : Mail → Prop) : Prop :=
  let ended := execute setting registry element tokens run
  ended.1.2 = tokens ∧ ∃ added, ended.2.journal = run.journal ++ added ∧
    Mailed setting world makes ended.1.1 (Journal.mails added) ended.2.world

private theorem mailsFrom_unbuilt {build : Builder World} {error : RuleError}
    (known : registry.lookup? element.name = some build) (unbuilt : build element = .error error)
    (none : ∀ mail, ¬ makes mail) :
    MailsFrom setting registry element tokens run world makes := by
  rw [MailsFrom, execute_known known, evaluate_unbuilt unbuilt]
  exact ⟨rfl, _, List.append_assoc _ _ _, .unmade none⟩

private theorem mailsFrom_action {build : Builder World} {action : Action}
    (known : registry.lookup? element.name = some build)
    (built : build element = .ok (.action action))
    (ends : (action.perform setting tokens).EndsFrom (element.enter run)
      (Posted setting.mailer world tokens makes)) :
    MailsFrom setting registry element tokens run world makes := by
  obtain ⟨added, extended, posted⟩ := ends
  rw [MailsFrom, execute_known known, evaluate_act built rfl]
  rcases performed : (action.perform setting tokens).run (element.enter run) with
    ⟨failure | ⟨outcome, final⟩, after⟩
  · rw [performed] at extended posted
    refine ⟨rfl, .noted (.evaluating element.name element.span.line) :: added ++
      [.noted (.failed failure element.name element.span.line element.span.column)], ?_, ?_⟩
    · change after.journal ++ _ = _
      rw [extended]
      simp [Element.enter]
    · rw [Journal.mails_append, Journal.mails_noted, List.append_nil]
      change Mailed setting world makes _ _ after.world
      dsimp only at posted
      generalize after.world = final at posted
      cases posted with
      | rejected made once refused => exact once ▸ .rejected made refused
      | unmade none unsent => exact unsent ▸ .unmade none
  · rw [performed] at extended posted
    dsimp only at posted
    refine ⟨?_, .noted (.evaluating element.name element.span.line) :: added, ?_, ?_⟩
    · generalize after.world = final at posted
      cases posted
      rfl
    · change after.journal = _
      rw [extended]
      simp [Element.enter]
    · change Mailed setting world makes _ _ after.world
      generalize after.world = final at posted ⊢
      cases posted with
      | accepted made once delivered => exact once ▸ .accepted made delivered

variable (registry) in
private theorem sendMail_build (named : element.name = "SendSmtp") :
    ∃ build, registry.lookup? element.name = some build ∧
      build element = Except.map .action (do
        let envelope ← Envelope.ofElement element
        let message ← element.requireChildText "Message"
        return .sendMail envelope (Text.dedent message)) := by
  rw [named]
  exact ⟨_, rfl, rfl⟩

variable (registry) in
private theorem sendLog_build (named : element.name = "SendLogSmtp") :
    ∃ build, registry.lookup? element.name = some build ∧
      build element = Except.map .action (do
        return .sendLog (← Envelope.ofElement element) (element.switch "verbose" true)) := by
  rw [named]
  exact ⟨_, rfl, rfl⟩

private theorem sendMail_mails (named : element.name = "SendSmtp") :
    MailsFrom setting registry element tokens run (element.postedIn setting run.world)
      (element.Mails setting tokens run.world) := by
  have handed : element.postedIn setting run.world = run.world :=
    if_neg (Element.not_log named)
  rw [handed]
  obtain ⟨build, known, reads⟩ := sendMail_build registry named
  cases made : Envelope.ofElement element with
  | error error =>
      have unbuilt : build element = .error error := by
        rw [reads, made]
        rfl
      refine mailsFrom_unbuilt known unbuilt fun mail mails => ?_
      obtain ⟨envelope, _, _, same, _⟩ := (Element.mails_iff_message named mail).mp mails
      rw [made] at same
      cases same
  | ok envelope =>
      cases required : element.requireChildText "Message" with
      | error error =>
          have unbuilt : build element = .error error := by
            rw [reads, made, required]
            rfl
          refine mailsFrom_unbuilt known unbuilt fun mail mails => ?_
          obtain ⟨_, source, _, _, same, _⟩ := (Element.mails_iff_message named mail).mp mails
          rw [required] at same
          cases same
      | ok source =>
          have built : build element = .ok (.action (.sendMail envelope (Text.dedent source))) := by
            rw [reads, made, required]
            rfl
          refine mailsFrom_action known built (Action.perform_sendMail fun mail => ?_)
          rw [Element.mails_iff_message named]
          constructor
          · rintro ⟨_, _, body, same, alike, expanded, found⟩
            rw [made] at same
            rw [required] at alike
            cases same
            cases alike
            exact ⟨body, expanded, found⟩
          · rintro ⟨body, expanded, found⟩
            exact ⟨envelope, source, body, made, required, expanded, found⟩

private theorem sendLog_mails (named : element.name = "SendLogSmtp") :
    MailsFrom setting registry element tokens run (element.postedIn setting run.world)
      (element.Mails setting tokens run.world) := by
  rw [Element.postedIn, if_pos named]
  obtain ⟨build, known, reads⟩ := sendLog_build registry named
  cases made : Envelope.ofElement element with
  | error error =>
      have unbuilt : build element = .error error := by
        rw [reads, made]
        rfl
      refine mailsFrom_unbuilt known unbuilt fun mail mails => ?_
      obtain ⟨envelope, _, same, _⟩ := (Element.mails_iff_log named mail).mp mails
      rw [made] at same
      cases same
  | ok envelope =>
      have built : build element =
          .ok (.action (.sendLog envelope (element.switch "verbose" true))) := by
        rw [reads, made]
        rfl
      refine mailsFrom_action known built (Action.perform_sendLog fun mail => ?_)
      rw [Element.mails_iff_log named]
      constructor
      · rintro ⟨_, body, same, answered, found⟩
        rw [made] at same
        cases same
        exact ⟨body, answered, found⟩
      · rintro ⟨body, answered, found⟩
        exact ⟨envelope, body, made, answered, found⟩

end Evaluation

/-- An element that sends mail sends one mail or none. It sends one exactly where everything that
the mail is made of is there, valid, and can be expanded; the mail is made of that, no placeholder
of a set token is left in it, and the evaluation passes exactly where the mailer takes it, in the
world in which it is handed over. In every other case the evaluation fails. The tokens stay. -/
theorem mail_all_or_nothing (setting : Setting World) (registry : Registry World)
    (element : Element) (tokens : Tokens) (run : Run World) (sends : element.SendsMail) :
    let ended := Evaluation.execute setting registry element tokens run
    let world := element.postedIn setting run.world
    ended.1.2 = tokens ∧ ∃ added, ended.2.journal = run.journal ++ added ∧
      (element.ReadyToMail setting tokens run.world ∧ (∃ mail, Journal.mails added = [mail]) ∨
        ¬ element.ReadyToMail setting tokens run.world ∧ Journal.mails added = [] ∧
          ended.1.1.isInternal = true) ∧
      ∀ mail ∈ Journal.mails added, element.Mails setting tokens run.world mail ∧
        (∀ text ∈ mail.server :: mail.sender :: mail.subject :: mail.recipients,
          tokens.Exhausted text) ∧
        (element.name = "SendSmtp" → tokens.Exhausted mail.body) ∧
        (ended.1.1 = .code 0 ↔ ∃ receipt, (setting.mailer.deliver mail world).1 = .ok receipt) ∧
        ended.2.world = (setting.mailer.deliver mail world).2 := by
  intro ended world
  have mails : Evaluation.MailsFrom setting registry element tokens run world
      (element.Mails setting tokens run.world) := by
    rcases sends with named | named
    · exact Evaluation.sendMail_mails named
    · exact Evaluation.sendLog_mails named
  obtain ⟨kept, added, extended, mailed⟩ := mails
  refine ⟨kept, added, extended, ?_⟩
  rw [Element.readyToMail_iff sends]
  change Evaluation.Mailed setting world (element.Mails setting tokens run.world) ended.1.1
    (Journal.mails added) ended.2.world at mailed
  generalize Journal.mails added = sent, ended.1.1 = outcome, ended.2.world = after at mailed
  cases mailed with
  | @accepted mail receipt made delivered =>
      refine ⟨.inl ⟨⟨mail, made⟩, mail, rfl⟩, ?_⟩
      intro found member
      obtain rfl := List.mem_singleton.mp member
      exact ⟨made, made.exhausted.1, made.exhausted.2, by simp [delivered, Outcome.done], rfl⟩
  | @rejected mail error made refused =>
      refine ⟨.inl ⟨⟨mail, made⟩, mail, rfl⟩, ?_⟩
      intro found member
      obtain rfl := List.mem_singleton.mp member
      exact ⟨made, made.exhausted.1, made.exhausted.2, by simp [refused], rfl⟩
  | unmade none =>
      refine ⟨.inr ⟨?_, rfl, rfl⟩, fun mail member => absurd member List.not_mem_nil⟩
      rintro ⟨mail, made⟩
      exact none mail made

/-- Two of three recipients have a text, and one of them is a token that names another. -/
theorem two_recipients_mailed :
    let setting := Setting.onPaper .none (.bare .postCommit "/srv/repo" (.revision 5))
    let tokens := Tokens.ofList [("Who", "eve@${Site}"), ("Site", "svn")]
    let element : Element := ⟨"SendSmtp", [("server", "mail.${Site}"), ("port", " 587 ")], none,
      [⟨"FromAddress", [], some "root@${site}", [], .nowhere⟩,
        ⟨"ToAddress", [], some " ${Who}\n", [], .nowhere⟩,
        ⟨"ToAddress", [], some "  ", [], .nowhere⟩,
        ⟨"ToAddress", [], some "ann@svn", [], .nowhere⟩,
        ⟨"Subject", [], some "committed", [], .nowhere⟩,
        ⟨"Message", [], some "\n  by ${Nobody}\n", [], .nowhere⟩], .nowhere⟩
    let sent : Mail :=
      ⟨"mail.svn", 587, 60, "root@svn", ["eve@svn", "ann@svn"], "committed", "by ${Nobody}\n"⟩
    let start : Run Unit := ⟨(), []⟩
    element.Mails setting tokens () sent ∧ tokens.Exhausted "eve@svn" ∧
      tokens.Exhausted "by ${Nobody}\n" ∧
      Journal.mails (Evaluation.execute setting .standard element tokens start).2.journal = [sent] ∧
      (Evaluation.execute setting .standard element tokens start).1 = (.code 0, tokens) := by
  intro setting tokens element sent start
  have sends : element.SendsMail := .inl rfl
  have once : Journal.mails
      (Evaluation.execute setting .standard element tokens start).2.journal = [sent] := by
    decide +kernel
  obtain ⟨kept, added, extended, -, each⟩ :=
    mail_all_or_nothing setting .standard element tokens start sends
  have member : sent ∈ Journal.mails added := by
    rw [← List.nil_append added, ← extended, once]
    exact List.mem_cons_self
  obtain ⟨mails, parts, body, passes, -⟩ := each sent member
  have addressed : "eve@svn" ∈ sent.server :: sent.sender :: sent.subject :: sent.recipients := by
    simp [sent]
  exact ⟨mails, parts _ addressed, body rfl, once, Prod.ext (passes.mpr ⟨.taken, rfl⟩) kept⟩

end HookRules

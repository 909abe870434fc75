import HookRules.Proofs.Fact.Answers
import HookRules.Proofs.Rule.Action
import HookRules.Proofs.Rule.Filter
import HookRules.Proofs.Rule.Registry
import HookRules.Proofs.Run.Derivation

/-!
Where failures are noted. A failure is noted once, at the element it happened at: the last one that
was visited, whose rule could not be built, whose condition could not be decided, or whose action
went wrong. The elements around it pass it on as it is, and after the notice nothing is done but to
tell the client.
-/

set_option autoImplicit false

namespace HookRules

/-- An error that names a rule and its place in the document. -/
def Notice.Places (notice : Notice) : Prop :=
  notice.level = .error ∧ notice.fields.map Prod.fst = ["node", "line", "column"]

/-- The notice says that the element failed, and why. -/
structure Notice.Blames (notice : Notice) (element : Element) (failure : Failure) : Prop where
  places : notice.Places
  message : notice.message = failure.message
  fields : notice.fields = [("node", element.name), ("line", toString element.span.line),
    ("column", toString element.span.column)]

private theorem Notice.failed_blames (failure : Failure) (element : Element) :
    (Notice.failed failure element.name element.span.line element.span.column).Blames element
      failure := ⟨⟨rfl, rfl⟩, rfl, rfl⟩

private theorem Notice.not_places {notice : Notice}
    (other : ∀ failure rule line column, notice ≠ .failed failure rule line column) :
    ¬ notice.Places := by
  rintro ⟨level, fields⟩
  cases notice with
  | failed failure rule line column => exact other failure rule line column rfl
  | _ => simp [Notice.level, Notice.fields] at level fields

namespace Entry

/-- The entry places no failure. -/
def Unplaced (entry : Entry) : Prop := ∀ notice, entry.notice? = some notice → ¬ notice.Places

/-- The entry neither begins the evaluation of an element nor places a failure. -/
def Inner : Entry → Prop
  | .noted (.evaluating ..) => False
  | .noted (.failed ..) => False
  | _ => True

theorem Inner.unplaced {entry : Entry} (inner : entry.Inner) : entry.Unplaced := by
  intro notice noted
  refine Notice.not_places fun failure rule line column same => ?_
  subst same
  cases entry with
  | noted notice =>
      cases noted
      exact inner
  | asked query => cases noted
  | told text => cases noted
  | mailed mail => cases noted
  | started program arguments => cases noted
  | wrote path text => cases noted

private theorem unplaced_noted (notice : Notice)
    (other : ∀ failure rule line column, notice ≠ .failed failure rule line column) :
    ∀ entry ∈ [Entry.noted notice], entry.Unplaced := by
  intro entry member found same
  rw [List.mem_singleton.mp member] at same
  cases same
  exact Notice.not_places other

private theorem unplaced_append {first second : Journal} (before : ∀ entry ∈ first, entry.Unplaced)
    (after : ∀ entry ∈ second, entry.Unplaced) : ∀ entry ∈ first ++ second, entry.Unplaced := by
  intro entry member
  rcases List.mem_append.mp member with earlier | later
  · exact before entry earlier
  · exact after entry later

end Entry

private theorem Journal.not_places_of_unplaced {journal : Journal}
    (unplaced : ∀ entry ∈ journal, entry.Unplaced) :
    ∀ notice ∈ journal.notices, ¬ notice.Places := by
  intro notice member
  obtain ⟨entry, listed, noted⟩ := List.mem_filterMap.mp member
  exact unplaced entry listed notice noted

variable {World : Type}

private theorem Action.conclude_confined (channel : Channel) (line : String) (errorLevel : Nat)
    (output : Output) :
    (conclude channel line errorLevel output : Act World Outcome).Confined Entry.Inner := by
  rw [conclude]
  split
  · exact Act.confined_fail (by simp)
  · split
    · exact (Act.confined_tell trivial).bind fun _ => Act.confined_pure _
    · exact Act.confined_pure _

private theorem Action.send_inner (mailer : Mailer World) (mail : Mail) :
    (Act.send mailer mail : Act World Unit).Confined Entry.Inner :=
  Act.confined_send trivial (fun _ _ _ => trivial) fun _ _ => trivial

private theorem Action.perform_confined (setting : Setting World) (tokens : Tokens)
    (action : Action) :
    (action.perform setting tokens).Confined Entry.Inner := by
  cases action with
  | setToken name value => exact Act.confined_pure _
  | sendError code message =>
      exact (Act.confined_ofTokens _).bind fun text =>
        (noteLines_confined code _ fun _ => trivial).bind fun _ =>
          (Act.confined_tell trivial).bind fun _ => Act.confined_pure _
  | sendMail envelope message =>
      exact (Act.confined_ofTokens _).bind fun body =>
        (Act.confined_ofTokens _).bind fun mail =>
          (Act.confined_note trivial).bind fun _ =>
            (send_inner _ mail).bind fun _ => Act.confined_pure _
  | sendLog envelope verbose =>
      exact (Act.confined_ask fun _ => trivial).bind fun body =>
        (Act.confined_ofTokens _).bind fun mail =>
          (Act.confined_note trivial).bind fun _ =>
            (send_inner _ mail).bind fun _ => Act.confined_pure _
  | execute command errorLevel =>
      refine (Act.confined_ofTokens _).bind fun line => ?_
      split
      · exact Act.confined_fail (by simp)
      · exact (Act.confined_note trivial).bind fun _ =>
          (Act.confined_execute trivial).bind fun output =>
            (conclude_confined _ _ _ output).bind fun _ => Act.confined_pure _
  | recordRevision path =>
      rw [perform]
      cases setting.facts.subject.revision? with
      | none => exact Act.confined_fail (by simp)
      | some revision =>
          exact (Act.confined_ofTokens _).bind fun path =>
            (Act.confined_write trivial).bind fun _ =>
              (Act.confined_note trivial).bind fun _ => Act.confined_pure _

/-- How an element fails by itself, before anything inside it is evaluated: from the run that comes
to it up to the run in which it fails. -/
inductive Breaks (setting : Setting World) (registry : Registry World) (element : Element)
    (scope : Tokens) (before : Run World) : Failure → Run World → Prop
  | unbuilt {build error} :
      registry.lookup? element.name = some build → build element = .error error →
      Breaks setting registry element scope before (.rule error) (element.enter before)
  | unselected {build filter failure after} :
      registry.lookup? element.name = some build → build element = .ok (.filter filter) →
      (filter.condition.select setting scope).run (element.enter before) = (.error failure, after) →
      Breaks setting registry element scope before failure after
  | unperformed {build rule act failure after} :
      registry.lookup? element.name = some build → build element = .ok rule →
      rule.act? setting scope = some act →
      act.run (element.enter before) = (.error failure, after) →
      Breaks setting registry element scope before failure after

/-- What an evaluation leaves behind about failures: nothing where it ends with a code, and else, at
its very end, the failure of the element that was visited last. -/
inductive Traced (setting : Setting World) (registry : Registry World) (run : Run World) :
    List Visit → Outcome → Run World → Prop
  | passed {visits code after added} :
      after.journal = run.journal ++ added → (∀ entry ∈ added, entry.Unplaced) →
      Traced setting registry run visits (.code code) after
  | failed {visits element scope before failure middle earlier own} :
      visits.getLast? = some ⟨element, scope⟩ →
      before.journal = run.journal ++ earlier → (∀ entry ∈ earlier, entry.Unplaced) →
      Breaks setting registry element scope before failure middle →
      middle.journal = (element.enter before).journal ++ own → (∀ entry ∈ own, entry.Inner) →
      Traced setting registry run visits (.internal failure) (element.blame failure middle)

section Traced

variable {setting : Setting World} {registry : Registry World} {run middle after : Run World}
  {visits : List Visit} {outcome : Outcome}

theorem Traced.later {earlier : Journal} (before : List Visit)
    (extended : middle.journal = run.journal ++ earlier)
    (unplaced : ∀ entry ∈ earlier, entry.Unplaced)
    (traced : Traced setting registry middle visits outcome after) :
    Traced setting registry run (before ++ visits) outcome after := by
  cases traced with
  | passed more quiet =>
      rw [extended, List.append_assoc] at more
      exact .passed more (Entry.unplaced_append unplaced quiet)
  | failed last reached quiet breaks added inner =>
      rw [extended, List.append_assoc] at reached
      refine .failed ?_ reached (Entry.unplaced_append unplaced quiet) breaks added inner
      rw [List.getLast?_append, last]
      rfl

theorem Traced.added_of_passed (traced : Traced setting registry run visits outcome after)
    (passes : outcome.stops = false) :
    ∃ added, after.journal = run.journal ++ added ∧ ∀ entry ∈ added, entry.Unplaced := by
  cases traced with
  | passed extended quiet => exact ⟨_, extended, quiet⟩
  | failed => cases passes

private theorem Element.enter_unplaced (element : Element) (run : Run World) :
    (element.enter run).journal =
        run.journal ++ [.noted (.evaluating element.name element.span.line)] ∧
      ∀ entry ∈ [Entry.noted (.evaluating element.name element.span.line)], entry.Unplaced :=
  ⟨rfl, Entry.unplaced_noted _ nofun⟩

private theorem Breaks.traced {element : Element} {scope : Tokens} {failure : Failure}
    {own : Journal} (breaks : Breaks setting registry element scope run failure middle)
    (added : middle.journal = (element.enter run).journal ++ own)
    (inner : ∀ entry ∈ own, entry.Inner) :
    Traced setting registry run [⟨element, scope⟩] (.internal failure)
      (element.blame failure middle) :=
  .failed rfl (List.append_nil _).symm (List.forall_mem_nil _) breaks added inner

end Traced

/-- Evaluating notes every failure at the element it happens at, and no element around it notes it
again. -/
theorem Evaluates.traced {setting : Setting World} {task : Task World} {tokens final : Tokens}
    {run after : Run World} {visits : List Visit} {outcome : Outcome}
    (evaluation : Evaluates setting .standard task tokens run visits outcome final after)
    (registered : task.Registered .standard) :
    Traced setting .standard run visits outcome after := by
  induction evaluation with
  | unbuilt unbuilt =>
      exact (Breaks.unbuilt registered unbuilt).traced (List.append_nil _).symm
        (List.forall_mem_nil _)
  | @performed _ element rule act tokens run outcome final after built acts performed =>
      obtain ⟨filter, rfl⟩ | ⟨action, rfl, made⟩ := Registry.standard_built registered built
      · cases acts
      · cases acts
        obtain ⟨added, extended, inner, _⟩ :=
          Action.perform_confined setting tokens action (element.enter run)
        have ended : ∃ code, outcome = .code code := by
          by_cases sets : ∃ name value, action = .setToken name value
          · obtain ⟨name, value, rfl⟩ := sets
            cases performed
            exact ⟨0, rfl⟩
          · have settled := Action.perform_settles setting tokens
              (fun name value same => sets ⟨name, value, same⟩) (element.enter run)
            rw [performed] at settled
            cases settled with
            | ended code => exact ⟨code, rfl⟩
        obtain ⟨code, rfl⟩ := ended
        rw [performed] at extended
        obtain ⟨entered, quiet⟩ := element.enter_unplaced run
        rw [entered, List.append_assoc] at extended
        exact .passed extended
          (Entry.unplaced_append quiet fun entry member => (inner entry member).unplaced)
  | @unperformed _ element rule act tokens run failure after built acts performed =>
      obtain ⟨filter, rfl⟩ | ⟨action, rfl, made⟩ := Registry.standard_built registered built
      · cases acts
      · have breaks := Breaks.unperformed registered built acts performed
        cases acts
        obtain ⟨added, extended, inner, _⟩ :=
          Action.perform_confined setting tokens action (element.enter run)
        rw [performed] at extended
        exact breaks.traced extended inner
  | @unselected _ element filter tokens run failure after built selected =>
      have inquiring : (filter.condition.select setting tokens).Confined Entry.Inner :=
        Condition.select_confined (fun _ => trivial) setting tokens filter.condition
      obtain ⟨added, extended, inner, _⟩ := inquiring (element.enter run)
      rw [selected] at extended
      exact (Breaks.unselected registered built selected).traced extended inner
  | @unmatched _ element filter tokens run after built selected =>
      have inquiring : (filter.condition.select setting tokens).Confined Entry.Inner :=
        Condition.select_confined (fun _ => trivial) setting tokens filter.condition
      obtain ⟨added, extended, inner, _⟩ := inquiring (element.enter run)
      obtain ⟨entered, quiet⟩ := element.enter_unplaced run
      rw [selected, entered, List.append_assoc] at extended
      have noted : (after.note (.unmatched element.name)).journal = run.journal ++
          (([.noted (.evaluating element.name element.span.line)] ++ added) ++
            [.noted (.unmatched element.name)]) := by
        rw [Run.note_journal, extended, List.append_assoc]
      exact .passed noted (Entry.unplaced_append
        (Entry.unplaced_append quiet fun entry member => (inner entry member).unplaced)
        (Entry.unplaced_noted (.unmatched element.name) nofun))
  | @matched _ element filter items tokens run middle visits outcome final after built _ selected _
      ih =>
      have inquiring : (filter.condition.select setting tokens).Confined Entry.Inner :=
        Condition.select_confined (fun _ => trivial) setting tokens filter.condition
      obtain ⟨added, extended, inner, _⟩ := inquiring (element.enter run)
      obtain ⟨entered, quiet⟩ := element.enter_unplaced run
      rw [selected, entered, List.append_assoc] at extended
      exact (ih trivial).later [⟨element, tokens⟩] extended
        (Entry.unplaced_append quiet fun entry member => (inner entry member).unplaced)
  | noChildren => exact .passed (List.append_nil _).symm (List.forall_mem_nil _)
  | consumed _ _ ih => exact ih trivial
  | @skipped _ child _ _ _ _ _ _ _ _ _ _ ih =>
      exact (ih trivial).later [] (Run.note_journal _ _)
        (Entry.unplaced_noted (.skipped child.name) nofun)
  | childStops _ known _ _ ih => exact ih known
  | childPasses _ known _ passes _ firstIH restIH =>
      obtain ⟨added, extended, quiet⟩ := (firstIH known).added_of_passed passes
      exact (restIH trivial).later _ extended quiet
  | noItems => exact .passed (List.append_nil _).symm (List.forall_mem_nil _)
  | itemStops _ _ ih => exact ih trivial
  | itemPasses _ passes _ firstIH restIH =>
      obtain ⟨added, extended, quiet⟩ := (firstIH trivial).added_of_passed passes
      exact (restIH trivial).later _ extended quiet

/-- What a failed run does last: it tells the client, or notes that it could not. -/
def Channel.farewell : Channel → Journal
  | .working => [.told (internalMessage ++ "\n")]
  | .broken cause => [.noted (.untold (.channelClosed cause))]

/-- Where the failure of a run happened, and what was added to the journal before: at a root that is
no rule, or at the element whose evaluation began last and that failed by itself. -/
inductive Origin (setting : Setting World) (root : Element) (tokens : Tokens) (run : Run World) :
    Element → Failure → Journal → Prop
  | unknown :
      (Registry.standard : Registry World).lookup? root.name = none →
      Origin setting root tokens run root (.rule (.unknownRule root.name root.span)) []
  | own {visits element scope before failure middle earlier added} :
      Evaluation.Visits setting .standard root tokens run visits →
      visits.getLast? = some ⟨element, scope⟩ →
      before.journal = run.journal ++ earlier →
      Breaks setting .standard element scope before failure middle →
      middle.journal = (element.enter before).journal ++ added → (∀ entry ∈ added, entry.Inner) →
      Origin setting root tokens run element failure
        (earlier ++ .noted (.evaluating element.name element.span.line) :: added)

/-- What a run that ends in an outcome adds to the journal: no failure is placed where it ends with
a code, and one where it fails, the one that it ends in, at its origin. -/
inductive NotedOnce (setting : Setting World) (root : Element) (tokens : Tokens) (run : Run World) :
    Outcome → Journal → Prop
  | passed {code added} :
      (∀ notice ∈ added.notices, ¬ notice.Places) →
      NotedOnce setting root tokens run (.code code) added
  | failed {element failure earlier notice} :
      (∀ notice ∈ earlier.notices, ¬ notice.Places) →
      Origin setting root tokens run element failure earlier → notice.Blames element failure →
      NotedOnce setting root tokens run (.internal failure)
        (earlier ++ .noted notice :: setting.channel.farewell)

section Runs

variable {setting : Setting World}

theorem Evaluation.run_code {root : Element} {tokens : Tokens} {run after : Run World} {code : Int}
    {final : Tokens}
    (executed : execute setting .standard root tokens run = ((.code code, final), after)) :
    Evaluation.run setting .standard root tokens run = ((.code code, final), after) := by
  rw [Evaluation.run, Step.run_bind, executed]
  rfl

theorem Evaluation.run_internal {root : Element} {tokens final : Tokens} {run after : Run World}
    {failure : Failure}
    (executed : execute setting .standard root tokens run = ((.internal failure, final), after)) :
    (Evaluation.run setting .standard root tokens run).1.1 = .internal failure ∧
      (Evaluation.run setting .standard root tokens run).2.journal =
        after.journal ++ setting.channel.farewell := by
  rw [Evaluation.run, Step.run_bind, executed]
  refine ⟨rfl, ?_⟩
  simp only [Outcome.isInternal, if_true, tellInternal]
  cases setting.channel with
  | working => rfl
  | broken cause =>
      have spoken : (internalMessage ++ "\n").isEmpty = false := by decide
      simp only [Act.tell, spoken]
      rfl

/-- In every run a failure is noted exactly once, at its origin, and nothing else is done after. -/
theorem run_notes_failure_once (setting : Setting World) (root : Element) (tokens : Tokens)
    (run : Run World) :
    ∃ added, (Evaluation.run setting .standard root tokens run).2.journal = run.journal ++ added ∧
      NotedOnce setting root tokens run (Evaluation.run setting .standard root tokens run).1.1
        added := by
  obtain ⟨visits, visited⟩ := Evaluation.visits_exist setting .standard root tokens run
  cases known : Registry.standard.lookup? root.name with
  | none =>
      obtain ⟨ended, extended⟩ := Evaluation.run_internal (Evaluation.execute_unknown known run)
      rw [ended, extended, Element.blame, Run.note_journal, List.append_assoc]
      exact ⟨_, rfl, .failed (by simp [Journal.notices]) (.unknown known)
        (Notice.failed_blames _ root)⟩
  | some build =>
      have evaluation := visited
      simp only [Evaluation.Visits, known] at evaluation
      have traced := evaluation.traced known
      rcases executed : Evaluation.execute setting .standard root tokens run with
        ⟨⟨outcome, final⟩, after⟩
      rw [executed] at traced
      dsimp only at traced
      cases traced with
      | passed extended quiet =>
          rw [Evaluation.run_code executed]
          exact ⟨_, extended, .passed (Journal.not_places_of_unplaced quiet)⟩
      | @failed element scope before failure middle earlier added last reached quiet breaks own
          inner =>
          obtain ⟨ended, extended⟩ := Evaluation.run_internal executed
          obtain ⟨entered, beginning⟩ := element.enter_unplaced before
          have reported : (element.blame failure middle).journal ++ setting.channel.farewell =
              run.journal ++ ((earlier ++
                .noted (.evaluating element.name element.span.line) :: added) ++
                .noted (.failed failure element.name element.span.line element.span.column) ::
                  setting.channel.farewell) := by
            rw [Element.blame, Run.note_journal, own, entered, reached]
            simp only [List.append_assoc, List.cons_append, List.nil_append]
          have unplaced : ∀ entry ∈ earlier ++
              .noted (.evaluating element.name element.span.line) :: added, entry.Unplaced :=
            Entry.unplaced_append quiet (Entry.unplaced_append beginning
              fun entry member => (inner entry member).unplaced)
          rw [ended, extended, reported]
          exact ⟨_, rfl, .failed (Journal.not_places_of_unplaced unplaced)
            (.own visited last reached breaks own inner) (Notice.failed_blames failure element)⟩

end Runs

end HookRules

import HookRules.Proofs.Fact.Answers
import HookRules.Proofs.Rule.Token
import HookRules.Proofs.Run.Derivation

/-!
Tokens that filters read as facts of the event. The event answers for them where it carries the
fact, and the environment does where the event does not: then a variable of the same name, in any
case of letters, stands in for the fact. Where there is no such variable, filters decide on the
event.
-/

set_option autoImplicit false

namespace HookRules

variable {World : Type}

/-- What filters read from the tokens of an event. -/
inductive EventFact
  | user
  | path
  | capabilities
  | comment
  | propertyAction
  | propertyName

namespace EventFact

def token : EventFact → String
  | .user => "User"
  | .path => "Path"
  | .capabilities => "Capabilities"
  | .comment => "Comment"
  | .propertyAction => "Action"
  | .propertyName => "PropName"

def of? (event : Event) : EventFact → Option String
  | .user => event.user
  | .path => event.path
  | .capabilities => event.capabilities
  | .comment => event.comment
  | .propertyAction => event.propertyAction
  | .propertyName => event.propertyName

end EventFact

namespace Event

/-- The names under which an event may set tokens. -/
def tokenNames : List String :=
  ["ReposUrl", "ReposPath", "Hook", "Revision", "Transaction", "User", "Capabilities", "Path",
    "Comment", "PropName", "Action", "Steal", "Break", "LockToken"]

private theorem tokenNames_apart : ∀ first ∈ tokenNames, ∀ second ∈ tokenNames,
    Text.toUpper first = Text.toUpper second → first = second := by
  decide +kernel

theorem initialTokens_lookup? (event : Event) (environment : Tokens) (fact : EventFact) :
    (event.initialTokens environment).lookup? fact.token =
      (fact.of? event <|> environment.lookup? fact.token) := by
  have same (name : String) (member : name ∈ tokenNames) (other : String)
      (among : other ∈ tokenNames) : (Text.toUpper name = Text.toUpper other) = (name = other) :=
    propext ⟨tokenNames_apart name member other among, congrArg Text.toUpper⟩
  simp only [tokenNames, List.mem_cons, List.not_mem_nil, or_false] at same
  have first : (environment.setAll [("ReposUrl", repositoryUrl event.repository),
      ("ReposPath", event.repository), ("Hook", event.kind.name)]).lookup? fact.token =
        environment.lookup? fact.token := by
    apply Tokens.lookup?_setAll_other
    cases fact <;> simp [EventFact.token, same]
  cases fact <;>
    simp only [initialTokens, tokenPairs, Tokens.setAll_append, Tokens.lookup?_setAll_given,
      EventFact.of?, first] <;>
    simp [EventFact.token, same]

end Event

namespace Filter

/-- The filters that are built so read no tokens but facts of the event. -/
def ReadsFacts (make : Element → Except RuleError Filter) : Prop :=
  ∀ element filter, make element = .ok filter →
    ∀ name ∈ filter.condition.needs, ∃ fact : EventFact, fact.token = name

private theorem plain_readsFacts {condition : Element → Condition}
    (reads : ∀ element, ∀ name ∈ (condition element).needs, ∃ fact : EventFact, fact.token = name) :
    ReadsFacts (plain condition) := by
  intro element filter built
  cases built
  exact reads element

private theorem onGate_readsFacts {condition : Gate → Condition} {tag : String} {ignoreCase : Bool}
    (reads : ∀ gate, ∀ name ∈ (condition gate).needs, ∃ fact : EventFact, fact.token = name) :
    ReadsFacts (onGate condition tag ignoreCase) := by
  intro element filter built
  obtain ⟨gate, _, rfl⟩ := except_map_ok built
  exact reads gate

private theorem onToken_readsFacts (fact : EventFact) {tag : String} {ignoreCase : Bool} :
    ReadsFacts (onToken fact.token tag ignoreCase) := by
  have reads (gate : Gate) (name : String)
      (needed : name ∈ (Condition.token fact.token gate).needs) :
      ∃ fact : EventFact, fact.token = name := ⟨fact, (List.mem_singleton.mp needed).symm⟩
  exact onGate_readsFacts reads

private theorem onEither_readsFacts {condition : Option Gate → Option Gate → Condition}
    {first second : String} {ignoreFirst ignoreSecond : Bool}
    (reads : ∀ left right, ∀ name ∈ (condition left right).needs,
      ∃ fact : EventFact, fact.token = name) :
    ReadsFacts (onEither condition first second ignoreFirst ignoreSecond) := by
  intro element filter built
  obtain ⟨gates, _, rfl⟩ := except_map_ok built
  exact reads gates.1 gates.2

theorem build?_readsFacts {name : String} {make : Element → Except RuleError Filter}
    (known : build? name = some make) : ReadsFacts make := by
  have nothing (name : String) (needed : name ∈ []) : ∃ fact : EventFact, fact.token = name := by
    cases needed
  have path (name : String) (needed : name ∈ ["Path"]) : ∃ fact : EventFact, fact.token = name :=
    ⟨.path, (List.mem_singleton.mp needed).symm⟩
  have property (name : String) (needed : name ∈ ["PropName"]) :
      ∃ fact : EventFact, fact.token = name :=
    ⟨.propertyName, (List.mem_singleton.mp needed).symm⟩
  have lock (name : String) (needed : name ∈ ["Path", "User"]) :
      ∃ fact : EventFact, fact.token = name := by
    rcases List.mem_cons.mp needed with rfl | later
    · exact ⟨.path, rfl⟩
    · exact ⟨.user, (List.mem_singleton.mp later).symm⟩
  unfold build? at known
  split at known <;> cases known
  all_goals first
    | exact plain_readsFacts fun _ => nothing
    | exact plain_readsFacts fun _ => lock
    | exact onGate_readsFacts fun _ => nothing
    | exact onGate_readsFacts fun _ => path
    | exact onEither_readsFacts fun _ _ => nothing
    | exact onEither_readsFacts fun _ _ => path
    | exact onEither_readsFacts fun _ _ => property
    | exact onToken_readsFacts .user
    | exact onToken_readsFacts .path
    | exact onToken_readsFacts .capabilities
    | exact onToken_readsFacts .comment
    | exact onToken_readsFacts .propertyAction

end Filter

private theorem Element.Makes.readsFacts {element : Element} {filter : Filter}
    (makes : element.Makes filter) :
    ∀ name ∈ filter.condition.needs, ∃ fact : EventFact, fact.token = name := by
  obtain ⟨make, selected, made⟩ := makes
  exact Filter.build?_readsFacts selected element filter made

/-- Each element finds the token with the value, as long as no element before gives it another. -/
def Finds (name : String) (value : Option String) (visits : List Visit) : Prop :=
  ∀ before visit rest, visits = before ++ visit :: rest →
    (∀ giver ∈ before, ¬ giver.element.Gives name visit.element) → visit.scope.lookup? name = value

private theorem append_splits {Item : Type} {first second before rest : List Item}
    {item : Item} (split : first ++ second = before ++ item :: rest) :
    (∃ tail, first = before ++ item :: tail ∧ rest = tail ++ second) ∨
      ∃ prior, before = first ++ prior ∧ second = prior ++ item :: rest := by
  rcases List.append_eq_append_iff.mp split with ⟨prior, same, later⟩ | ⟨tail, same, later⟩
  · exact .inr ⟨prior, same, later⟩
  · cases tail with
    | nil => exact .inr ⟨[], by simpa using same.symm, by simpa using later.symm⟩
    | cons head tail =>
        cases later
        exact .inl ⟨tail, same, rfl⟩

private theorem singleton_splits {Item : Type} {only item : Item} {before rest : List Item}
    (split : [only] = before ++ item :: rest) : before = [] ∧ item = only ∧ rest = [] := by
  cases before with
  | nil =>
      cases split
      exact ⟨rfl, rfl, rfl⟩
  | cons first more => simp at split

section Finds

variable {name : String} {value : Option String}

private theorem finds_nil : Finds name value [] := by
  intro before visit rest split
  simp at split

private theorem finds_single {element : Element} {tokens : Tokens} :
    Finds name (tokens.lookup? name) [⟨element, tokens⟩] := by
  intro before visit rest split _
  obtain ⟨_, rfl, _⟩ := singleton_splits split
  rfl

theorem Finds.append {visits more : List Visit} (first : Finds name value visits)
    (later : (∀ giver ∈ visits, ¬ giver.element.Sets name) → Finds name value more) :
    Finds name value (visits ++ more) := by
  intro before visit rest split spared
  rcases append_splits split with ⟨tail, within, _⟩ | ⟨prior, rfl, within⟩
  · exact first before visit tail within spared
  · have unset : ∀ giver ∈ visits, ¬ giver.element.Sets name := fun giver member sets =>
      spared giver (List.mem_append_left _ member) (.sets sets)
    exact later unset prior visit rest within fun giver member =>
      spared giver (List.mem_append_right _ member)

/-- Inside a filter, its items may bind the token. -/
theorem Finds.inside {element : Element} {filter : Filter} {tokens : Tokens} {visits : List Visit}
    (makes : element.Makes filter)
    (inner : ∀ visit ∈ visits, visit.element ∈ Element.nodesOf element.children)
    (unbound : (∀ bound ∈ filter.condition.binds, Text.toUpper bound ≠ Text.toUpper name) →
      Finds name (tokens.lookup? name) visits) :
    Finds name (tokens.lookup? name) (⟨element, tokens⟩ :: visits) := by
  intro before visit rest split spared
  cases before with
  | nil =>
      cases split
      rfl
  | cons first prior =>
      cases split
      have within : visit.element ∈ Element.nodesOf element.children :=
        inner visit (List.mem_append_right _ List.mem_cons_self)
      exact unbound (fun bound member same =>
          spared _ List.mem_cons_self (.binds makes member same within))
        prior visit rest rfl fun giver member => spared giver (List.mem_cons_of_mem _ member)

end Finds

/-- The items bind other tokens. -/
def Task.Spares (name : String) : Task World → Prop
  | .items _ _ listed => ∀ bindings ∈ listed, ∀ pair ∈ bindings,
      Text.toUpper pair.1 ≠ Text.toUpper name
  | .element _ _ => True
  | .children _ _ => True

private theorem Filter.mem_chosen {filter : Filter} {items : List Bindings} {bindings : Bindings}
    (member : bindings ∈ filter.chosen items) : bindings ∈ items := by
  rw [chosen] at member
  split at member
  · exact List.mem_of_mem_take member
  · exact member

theorem Evaluates.finds {setting : Setting World} {task : Task World} {tokens final : Tokens}
    {run after : Run World} {visits : List Visit} {outcome : Outcome} {name : String}
    (evaluation : Evaluates setting .standard task tokens run visits outcome final after)
    (registered : task.Registered .standard) (spares : task.Spares name) :
    Finds name (tokens.lookup? name) visits ∧
      ((∀ giver ∈ visits, ¬ giver.element.Sets name) →
        final.lookup? name = tokens.lookup? name) := by
  induction evaluation with
  | unbuilt => exact ⟨finds_single, fun _ => rfl⟩
  | performed built acts performed =>
      refine ⟨finds_single, fun unset => ?_⟩
      obtain ⟨filter, rfl⟩ | ⟨action, rfl, made⟩ := Registry.standard_built registered built
      · cases acts
      · cases acts
        exact made.keeps (unset _ List.mem_cons_self) performed
  | unperformed => exact ⟨finds_single, fun _ => rfl⟩
  | unselected => exact ⟨finds_single, fun _ => rfl⟩
  | unmatched => exact ⟨finds_single, fun _ => rfl⟩
  | @matched _ element filter items tokens run _ visits _ _ _ built _ selected inside ih =>
      refine ⟨Finds.inside (Registry.standard_makes registered built)
        inside.visits_in_nodes fun unbound => (ih trivial ?_).1, fun _ => rfl⟩
      intro bindings member pair among
      have bound := Condition.select_yields setting tokens filter.condition _ _ _ selected
      exact unbound pair.1 (bound bindings (Filter.mem_chosen member) pair among)
  | noChildren => exact ⟨finds_nil, fun _ => rfl⟩
  | consumed _ _ ih => exact ih trivial trivial
  | skipped _ _ _ ih => exact ih trivial trivial
  | childStops _ known _ _ ih => exact ih known trivial
  | childPasses _ known _ _ _ firstIH restIH =>
      obtain ⟨first, kept⟩ := firstIH known trivial
      obtain ⟨later, last⟩ := restIH trivial trivial
      refine ⟨first.append fun unset => kept unset ▸ later, fun unset => ?_⟩
      rw [last fun giver member => unset giver (List.mem_append_right _ member),
        kept fun giver member => unset giver (List.mem_append_left _ member)]
  | noItems => exact ⟨finds_nil, fun _ => rfl⟩
  | itemStops _ _ ih =>
      have within := (ih trivial trivial).1
      rw [Tokens.lookup?_setAll_other (spares _ List.mem_cons_self)] at within
      exact ⟨within, fun _ => rfl⟩
  | itemPasses _ _ _ firstIH restIH =>
      have within := (firstIH trivial trivial).1
      rw [Tokens.lookup?_setAll_other (spares _ List.mem_cons_self)] at within
      have others := (restIH trivial fun bindings member =>
        spares bindings (List.mem_cons_of_mem _ member)).1
      exact ⟨within.append fun _ => others, fun _ => rfl⟩

private theorem Evaluates.stuck {setting : Setting World} {task : Task World}
    {tokens final : Tokens} {run after : Run World} {visits : List Visit} {outcome : Outcome}
    {visit : Visit} {filter : Filter} {failure : Failure}
    (evaluation : Evaluates setting .standard task tokens run visits outcome final after)
    (registered : task.Registered .standard) (makes : visit.element.Makes filter)
    (fails : filter.condition.select setting visit.scope = Act.fail failure) :
    ∀ before rest, visits = before ++ visit :: rest →
      rest = [] ∧ outcome = .internal failure := by
  induction evaluation with
  | unbuilt unbuilt =>
      intro before rest split
      obtain ⟨_, rfl, _⟩ := singleton_splits split
      rw [makes.built registered] at unbuilt
      cases unbuilt
  | performed built acts performed =>
      intro before rest split
      obtain ⟨_, rfl, _⟩ := singleton_splits split
      rw [makes.built registered] at built
      cases built
      cases acts
  | unperformed built acts _ =>
      intro before rest split
      obtain ⟨_, rfl, _⟩ := singleton_splits split
      rw [makes.built registered] at built
      cases built
      cases acts
  | unselected built selected =>
      intro before rest split
      obtain ⟨_, rfl, last⟩ := singleton_splits split
      rw [makes.built registered] at built
      cases built
      rw [fails] at selected
      cases selected
      exact ⟨last, rfl⟩
  | unmatched built selected =>
      intro before rest split
      obtain ⟨_, rfl, _⟩ := singleton_splits split
      rw [makes.built registered] at built
      cases built
      rw [fails] at selected
      cases selected
  | matched built _ selected _ ih =>
      intro before rest split
      cases before with
      | nil =>
          cases split
          rw [makes.built registered] at built
          cases built
          rw [fails] at selected
          cases selected
      | cons first prior =>
          cases split
          exact ih trivial prior rest rfl
  | noChildren => exact fun before rest split => by simp at split
  | consumed _ _ ih => exact ih trivial
  | skipped _ _ _ ih => exact ih trivial
  | childStops _ known _ _ ih => exact ih known
  | childPasses _ known _ passes _ firstIH restIH =>
      intro before rest split
      rcases append_splits split with ⟨tail, within, _⟩ | ⟨prior, _, within⟩
      · obtain ⟨_, rfl⟩ := firstIH known _ _ within
        cases passes
      · exact restIH trivial _ _ within
  | noItems => exact fun before rest split => by simp at split
  | itemStops _ _ ih => exact ih trivial
  | itemPasses _ passes _ firstIH restIH =>
      intro before rest split
      rcases append_splits split with ⟨tail, within, _⟩ | ⟨prior, _, within⟩
      · obtain ⟨_, rfl⟩ := firstIH trivial _ _ within
        cases passes
      · exact restIH trivial _ _ within

/-- No variable has the name of a fact that the event lacks. -/
def Event.Apart (event : Event) (environment : Tokens) : Prop :=
  ∀ fact : EventFact, fact.of? event = none → environment.lookup? fact.token = none

/-- In the environment, the tokens that filters read as facts are those of the event. Where a filter
needs one that the event lacks, and no element before gave it, the filter ends the run: the token is
missing. -/
structure DecidesOnEvent (setting : Setting World) (environment : Tokens) : Prop where
  resolved : ∀ fact : EventFact,
    (setting.event.initialTokens environment).lookup? fact.token = fact.of? setting.event
  refused : ∀ root run visits,
    Evaluation.Visits setting .standard root (setting.event.initialTokens environment) run visits →
    ∀ before visit rest filter (fact : EventFact), visits = before ++ visit :: rest →
      visit.element.Makes filter → fact.token ∈ filter.condition.needs →
      fact.of? setting.event = none →
      (∀ giver ∈ before, ¬ giver.element.Gives fact.token visit.element) →
      rest = [] ∧ ∃ missing ∈ filter.condition.needs, visit.scope.lookup? missing = none ∧
        (Evaluation.run setting .standard root (setting.event.initialTokens environment) run).1.1 =
          .internal (.token (.notFound missing))

/-- A filter does the same in both environments, whatever is set on top of them. -/
def DecidesAlike (setting : Setting World) (first second : Tokens) : Prop :=
  ∀ (element : Element) (filter : Filter) (given : List (String × String)),
    element.Makes filter →
    filter.condition.select setting ((setting.event.initialTokens first).setAll given) =
      filter.condition.select setting ((setting.event.initialTokens second).setAll given)

theorem Event.Apart.resolved {event : Event} {environment : Tokens}
    (apart : event.Apart environment) (fact : EventFact) :
    (event.initialTokens environment).lookup? fact.token = fact.of? event := by
  rw [initialTokens_lookup?]
  cases carried : fact.of? event with
  | none => exact apart fact carried
  | some value => rfl

theorem Event.Apart.decidesOnEvent {setting : Setting World} {environment : Tokens}
    (apart : setting.event.Apart environment) : DecidesOnEvent setting environment where
  resolved := apart.resolved
  refused := by
    intro root run visits visited before visit rest filter fact split makes needed lacking spared
    have lacked : (setting.event.initialTokens environment).lookup? fact.token = none := by
      rw [apart.resolved, lacking]
    cases known : (Registry.standard : Registry World).lookup? root.name with
    | none =>
        simp only [Evaluation.Visits, known] at visited
        simp [visited] at split
    | some build =>
        simp only [Evaluation.Visits, known] at visited
        have unset : visit.scope.lookup? fact.token = none := by
          rw [(visited.finds known trivial).1 before visit rest split spared, lacked]
        obtain ⟨missing, among, absent, fails⟩ := Condition.select_unset setting needed unset
        obtain ⟨last, ended⟩ := visited.stuck known makes fails before rest split
        exact ⟨last, missing, among, absent, by rw [Evaluation.run_result, ended]⟩

theorem DecidesOnEvent.root {setting : Setting World} {environment : Tokens}
    (decides : DecidesOnEvent setting environment) {root : Element} {filter : Filter}
    {fact : EventFact} (makes : root.Makes filter) (needed : fact.token ∈ filter.condition.needs)
    (lacking : fact.of? setting.event = none) (run : Run World) :
    ∃ missing ∈ filter.condition.needs,
      (Evaluation.run setting .standard root (setting.event.initialTokens environment) run).1.1 =
        .internal (.token (.notFound missing)) := by
  obtain ⟨build, known⟩ : ∃ build, (Registry.standard : Registry World).lookup? root.name =
      some build := makes.known
  obtain ⟨visits, visited⟩ := Evaluation.visits_exist setting .standard root
    (setting.event.initialTokens environment) run
  have evaluation := visited
  simp only [Evaluation.Visits, known] at evaluation
  obtain ⟨rest, begins⟩ := evaluation.begins
  obtain ⟨_, missing, among, _, ended⟩ := decides.refused root run visits visited [] _ rest filter
    fact begins makes needed lacking (fun _ member => by cases member)
  exact ⟨missing, among, ended⟩

/-- Where no variable has the name of a fact that the event lacks, filters decide on the event and
not on the environment. -/
theorem filters_decide_on_event (setting : Setting World) (first second : Tokens)
    (firstApart : setting.event.Apart first) (secondApart : setting.event.Apart second) :
    DecidesOnEvent setting first ∧ DecidesOnEvent setting second ∧
      DecidesAlike setting first second := by
  refine ⟨firstApart.decidesOnEvent, secondApart.decidesOnEvent, ?_⟩
  intro element filter given makes
  apply Condition.select_congr
  intro name needed
  obtain ⟨fact, rfl⟩ := makes.readsFacts name needed
  apply Tokens.lookup?_setAll_congr
  rw [firstApart.resolved, secondApart.resolved]

theorem home_variable_apart :
    let setting := Setting.onPaper .none (.bare .postCommit "/srv/repo" (.revision 5))
    let home := Tokens.ofList [("HOME", "/home/svn")]
    let root : Element := ⟨"FilterLockOwner", [], none, [], .nowhere⟩
    setting.event.Apart .empty ∧ setting.event.Apart home ∧
      home.lookup? "Home" = some "/home/svn" ∧ DecidesAlike setting .empty home ∧
      ∃ missing ∈ ["Path", "User"],
        (Evaluation.run setting .standard root (setting.event.initialTokens home) ⟨(), []⟩).1.1 =
          .internal (.token (.notFound missing)) := by
  intro setting home root
  have unset : setting.event.Apart .empty := fun _ _ => rfl
  have other : setting.event.Apart home := by
    intro fact _
    cases fact <;> decide +kernel
  obtain ⟨_, decides, alike⟩ := filters_decide_on_event setting .empty home unset other
  have makes : root.Makes (Filter.around root (.lockOwner true) []) := ⟨_, rfl, rfl⟩
  have needed : EventFact.path.token ∈ ["Path", "User"] := List.mem_cons_self
  exact ⟨unset, other, by decide +kernel, alike, decides.root makes needed rfl ⟨(), []⟩⟩

theorem path_variable_stands_in :
    let event := Event.bare .postCommit "/srv/repo" (.revision 5)
    let bin := Tokens.ofList [("PATH", "/usr/bin")]
    let root : Element := ⟨"FilterPath", [], none,
      [⟨"PathRegex", [], some "bin", [], .nowhere⟩, ⟨"SendError", [], some "no", [], .nowhere⟩],
      .nowhere⟩
    let outcome := fun environment : Tokens =>
      (Evaluation.run (Setting.onPaper .none event) .standard root (event.initialTokens environment)
        ⟨(), []⟩).1.1
    Event.postCommit "/srv/repo" "5" = .ok event ∧
      (event.initialTokens .empty).lookup? "Path" = none ∧
      (event.initialTokens bin).lookup? "Path" = some "/usr/bin" ∧
      outcome .empty = .internal (.token (.notFound "Path")) ∧ outcome bin = .code 1 := by
  refine ⟨rfl, ?_, ?_, ?_, ?_⟩ <;> decide +kernel

end HookRules

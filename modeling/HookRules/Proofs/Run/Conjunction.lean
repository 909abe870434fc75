import HookRules.Fact.Fixed
import HookRules.Proofs.Run.Mirror
import HookRules.Proofs.Run.Plan

/-!
Two patterns for the changes of a commit. One filter may have both of them, or one filter may have
the pattern for kinds and hold a filter with the pattern for paths: the first tests the path of the
change, the second the token that the change binds. What they guard is evaluated alike.
-/

set_option autoImplicit false

namespace HookRules

private theorem except_eq_ok_get {Error Value : Type} {result : Except Error Value}
    (succeeds : result.toOption.isSome = true) : result = .ok (result.toOption.get succeeds) := by
  cases result with
  | error error => cases succeeds
  | ok value => rfl

/-- Whether the entry is more than a notice. -/
def Entry.deed : Entry → Bool
  | .noted _ => false
  | _ => true

/-- The outside of an element. -/
structure Frame where
  attributes : List (String × String)
  text : Option String
  span : Span

def Frame.hold (frame : Frame) (name : String) (children : List Element) : Element :=
  ⟨name, frame.attributes, frame.text, children, frame.span⟩

/-- A pattern for paths, a pattern for kinds of changes, and the elements that both guard. -/
structure Conjunction where
  path : Element
  kind : Element
  guarded : List Element
  pathNamed : path.name = "PathRegex"
  kindNamed : kind.name = "ChgTypeRegex"
  pathValid : (Gate.ofElement "PathRegex" false path).toOption.isSome = true
  kindValid : (Gate.ofElement "ChgTypeRegex" true kind).toOption.isSome = true
  free : ∀ element ∈ guarded, element.name ≠ "PathRegex" ∧ element.name ≠ "ChgTypeRegex"
  /-- The filter with both patterns goes through all of its items. -/
  whole : Frame
  wholeEvery : (whole.hold "FilterCommitList" []).switch "matchFirst" false = false
  /-- The filter with the pattern for kinds does so as well. -/
  outer : Frame
  outerEvery : (outer.hold "FilterCommitList" []).switch "matchFirst" false = false
  /-- The filter with the pattern for paths has one item at most. -/
  inner : Frame

namespace Conjunction

def pathGate (conjunction : Conjunction) : Gate :=
  (Gate.ofElement "PathRegex" false conjunction.path).toOption.get conjunction.pathValid

def kindGate (conjunction : Conjunction) : Gate :=
  (Gate.ofElement "ChgTypeRegex" true conjunction.kind).toOption.get conjunction.kindValid

/-- One filter with both patterns. -/
def fused (conjunction : Conjunction) : Element :=
  conjunction.whole.hold "FilterCommitList"
    (conjunction.path :: conjunction.kind :: conjunction.guarded)

/-- The filter with the pattern for paths. -/
def within (conjunction : Conjunction) : Element :=
  conjunction.inner.hold "FilterPath" (conjunction.path :: conjunction.guarded)

/-- A filter with the pattern for kinds, around one with the pattern for paths. -/
def nested (conjunction : Conjunction) : Element :=
  conjunction.outer.hold "FilterCommitList" [conjunction.kind, conjunction.within]

end Conjunction

namespace Gate

variable {frame : Frame} {name tag : String} {ignoreCase : Bool} {child : Element}
  {rest : List Element}

private theorem find?_first {gate : Gate} (named : child.name = tag)
    (read : ofElement tag ignoreCase child = .ok gate) :
    find? (frame.hold name (child :: rest)) tag ignoreCase = .ok (some gate) := by
  have first : (frame.hold name (child :: rest)).child? tag = some child :=
    List.find?_cons_of_pos (by simp [named])
  rw [find?, first]
  dsimp only
  rw [read]
  rfl

private theorem find?_later (other : child.name ≠ tag) :
    find? (frame.hold name (child :: rest)) tag ignoreCase =
      find? (frame.hold name rest) tag ignoreCase := by
  have later : (frame.hold name (child :: rest)).child? tag = (frame.hold name rest).child? tag :=
    List.find?_cons_of_neg (by simp [other])
  rw [find?, later]
  rfl

end Gate

namespace Element

mutual

private theorem count_of_mem_nodes {element node : Element} (member : node ∈ element.nodes) :
    node.elementCount ≤ element.elementCount := by
  obtain ⟨name, attributes, text, children, span⟩ := element
  rw [nodes] at member
  rcases List.mem_cons.mp member with rfl | inside
  · exact Nat.le_refl _
  · rw [elementCount]
    exact Nat.le_succ_of_le (count_of_mem_nodesOf inside)

private theorem count_of_mem_nodesOf {elements : List Element} {node : Element}
    (member : node ∈ nodesOf elements) : node.elementCount ≤ countOf elements := by
  cases elements with
  | nil => cases member
  | cons element rest =>
      rw [nodesOf] at member
      rw [countOf]
      rcases List.mem_append.mp member with first | later
      · exact Nat.le_add_right_of_le (count_of_mem_nodes first)
      · exact Nat.le_add_left_of_le (count_of_mem_nodesOf later)

end

theorem mirror_refl : Mirror Eq where
  name := by
    rintro left _ rfl
    rfl
  span := by
    rintro left _ rfl
    rfl
  built := by
    rintro left _ World build rfl known
    rfl
  inside := by
    rintro left _ filter rfl makes
    exact List.forall₂_same.mpr fun _ _ => rfl

end Element

private theorem Visit.mirrors_eq {visits images : List Visit}
    (paired : List.Forall₂ (Visit.Mirrors Eq) visits images) :
    images = visits := by
  induction paired with
  | nil => rfl
  | @cons visit image _ _ first _ ih =>
      obtain ⟨element, scope⟩ := visit
      obtain ⟨_, _⟩ := image
      cases first.element
      cases first.scope
      rw [ih]

variable {World : Type} {setting : Setting World}

private theorem Evaluates.filter_items {registry : Registry World} {build : Builder World}
    {element : Element} {filter : Filter} {tokens final : Tokens} {run middle after : Run World}
    {items : List Bindings} {visits : List Visit} {outcome : Outcome}
    (built : build element = .ok (.filter filter)) (every : filter.chosen items = items)
    (selected : (filter.condition.select setting tokens).run (element.enter run) =
      (.ok items, middle))
    (inside : Evaluates setting registry (.items filter.consumed element.children items) tokens
      middle visits outcome final after) :
    ∃ later, Evaluates setting registry (.element build element) tokens run
      (⟨element, tokens⟩ :: visits) outcome tokens later ∧ after.Same Entry.deed later := by
  cases items with
  | nil =>
      cases inside
      exact ⟨_, .unmatched built selected, (Run.Same.refl _ _).note_right rfl⟩
  | cons bindings rest =>
      rw [← every] at inside
      exact ⟨after, .matched built (List.cons_ne_nil _ _) selected inside, .refl _ _⟩

private theorem Filter.chosen_every {filter : Filter} (every : filter.matchFirst = false)
    (items : List Bindings) : filter.chosen items = items := by
  rw [chosen, every]
  rfl

private theorem Filter.chosen_single (filter : Filter) (bindings : Bindings) :
    filter.chosen [bindings] = [bindings] := by
  rw [chosen]
  exact ite_self _

private theorem Evaluates.single_item {registry : Registry World} {consumed : List String}
    {children : List Element} {tokens final : Tokens} {run after : Run World} {visits : List Visit}
    {outcome : Outcome}
    (evaluation : Evaluates setting registry (.children consumed children) tokens run visits outcome
      final after) :
    Evaluates setting registry (.items consumed children [[]]) tokens run visits outcome tokens
      after := by
  cases stops : outcome.stops with
  | true => exact .itemStops evaluation stops
  | false =>
      rw [← List.append_nil visits, Outcome.done_of_passes stops]
      exact .itemPasses evaluation stops .noItems

namespace Condition

variable (setting) in
private theorem select_token {tokens : Tokens} {name value : String} (gate : Gate)
    (given : tokens.get name = .ok value) (run : Run World) :
    ((token name gate).select setting tokens).run run =
      (.ok (itemIf (gate.admits value) []), run) := by
  rw [select, given]
  rfl

/-- The items of the changes that gates let pass. -/
def changeItems (path kind : Option Gate) (changes : List Change) : List Bindings :=
  (changes.filter fun change =>
    Gate.allows path change.path && Gate.allows kind change.kind).map changeBindings

section ChangeItems

variable {path kind : Option Gate} {change : Change} (rest : List Change)

private theorem changeItems_passed (pathPasses : Gate.allows path change.path = true)
    (kindPasses : Gate.allows kind change.kind = true) :
    changeItems path kind (change :: rest) =
      changeBindings change :: changeItems path kind rest := by
  rw [changeItems, List.filter_cons_of_pos (by rw [pathPasses, kindPasses]; rfl)]
  rfl

private theorem changeItems_path (refused : Gate.allows path change.path = false) :
    changeItems path kind (change :: rest) = changeItems path kind rest := by
  rw [changeItems, List.filter_cons_of_neg (by simp [refused])]
  rfl

private theorem changeItems_kind (refused : Gate.allows kind change.kind = false) :
    changeItems path kind (change :: rest) = changeItems path kind rest := by
  rw [changeItems, List.filter_cons_of_neg (by simp [refused])]
  rfl

end ChangeItems

theorem select_changes {changes : List Change} {run after : Run World} (tokens : Tokens)
    (path kind : Option Gate)
    (asked : (Act.ask setting.facts.changes).run run = (.ok changes, after)) :
    ((Condition.changes path kind).select setting tokens).run run =
      (.ok (changeItems path kind changes), after) := by
  rw [select, Act.run_bind_ok asked]
  rfl

private theorem select_changes_error {failure : Failure} {run after : Run World} (tokens : Tokens)
    (path kind : Option Gate)
    (asked : (Act.ask setting.facts.changes).run run = (.error failure, after)) :
    ((Condition.changes path kind).select setting tokens).run run = (.error failure, after) :=
  Act.run_bind_error asked

private theorem get_path_changeBindings (tokens : Tokens) (change : Change) :
    (tokens.setAll (changeBindings change)).get "Path" = .ok change.path := by
  rw [Tokens.get, changeBindings, Tokens.setAll_cons, Tokens.setAll_cons, Tokens.setAll_cons]
  rw [Tokens.setAll, List.foldl_nil, Tokens.lookup?_set, if_pos rfl]

end Condition

namespace Conjunction

variable (conjunction : Conjunction)

/-- The names of the children that belong to a filter on changes. -/
def both : List String := ["PathRegex", "ChgTypeRegex"]

private theorem pathRead :
    Gate.ofElement "PathRegex" false conjunction.path = .ok conjunction.pathGate :=
  except_eq_ok_get conjunction.pathValid

private theorem kindRead :
    Gate.ofElement "ChgTypeRegex" true conjunction.kind = .ok conjunction.kindGate :=
  except_eq_ok_get conjunction.kindValid

private theorem fused_makes : conjunction.fused.Makes
    ⟨.changes (some conjunction.pathGate) (some conjunction.kindGate), both, false⟩ := by
  have other : conjunction.path.name ≠ "ChgTypeRegex" := by
    rw [conjunction.pathNamed]
    decide
  have path : Gate.find? conjunction.fused "PathRegex" false = .ok (some conjunction.pathGate) :=
    Gate.find?_first conjunction.pathNamed conjunction.pathRead
  have kind : Gate.find? conjunction.fused "ChgTypeRegex" true =
      .ok (some conjunction.kindGate) :=
    (Gate.find?_later other).trans (Gate.find?_first conjunction.kindNamed conjunction.kindRead)
  refine ⟨_, rfl, ?_⟩
  rw [Filter.onEither, Gate.requireEither, path, kind]
  exact congrArg (fun every => Except.ok (Filter.mk _ both every)) conjunction.wholeEvery

private theorem nested_makes : conjunction.nested.Makes
    ⟨.changes none (some conjunction.kindGate), both, false⟩ := by
  have other : conjunction.kind.name ≠ "PathRegex" := by
    rw [conjunction.kindNamed]
    decide
  have path : Gate.find? conjunction.nested "PathRegex" false = .ok none :=
    Gate.find?_later other
  have kind : Gate.find? conjunction.nested "ChgTypeRegex" true =
      .ok (some conjunction.kindGate) :=
    Gate.find?_first conjunction.kindNamed conjunction.kindRead
  refine ⟨_, rfl, ?_⟩
  rw [Filter.onEither, Gate.requireEither, path, kind]
  exact congrArg (fun every => Except.ok (Filter.mk _ both every)) conjunction.outerEvery

private theorem within_makes : conjunction.within.Makes
    (.around conjunction.within (.token "Path" conjunction.pathGate) ["PathRegex"]) := by
  have path : Gate.find? conjunction.within "PathRegex" false = .ok (some conjunction.pathGate) :=
    Gate.find?_first conjunction.pathNamed conjunction.pathRead
  refine ⟨_, rfl, ?_⟩
  rw [Filter.onToken, Gate.require, path]
  rfl

open Classical in
noncomputable def inside (visits : List Visit) : List Visit :=
  visits.filter fun visit => visit.element ∈ Element.nodesOf conjunction.guarded

private theorem inside_append (first second : List Visit) :
    conjunction.inside (first ++ second) = conjunction.inside first ++ conjunction.inside second :=
  List.filter_append _ _

private theorem inside_outer {element : Element}
    (larger : Element.countOf conjunction.guarded < element.elementCount) (tokens : Tokens)
    (visits : List Visit) :
    conjunction.inside (⟨element, tokens⟩ :: visits) = conjunction.inside visits := by
  have outside : element ∉ Element.nodesOf conjunction.guarded := by
    intro member
    exact Nat.not_lt_of_le (Element.count_of_mem_nodesOf member) larger
  exact List.filter_cons_of_neg (by simp [outside])

private theorem within_larger :
    Element.countOf conjunction.guarded < conjunction.within.elementCount := by
  rw [within, Frame.hold, Element.elementCount, Element.countOf]
  omega

private theorem fused_larger :
    Element.countOf conjunction.guarded < conjunction.fused.elementCount := by
  rw [fused, Frame.hold, Element.elementCount, Element.countOf, Element.countOf]
  omega

private theorem nested_larger :
    Element.countOf conjunction.guarded < conjunction.nested.elementCount := by
  have smaller := conjunction.within_larger
  rw [nested, Frame.hold, Element.elementCount, Element.countOf, Element.countOf]
  omega

variable {conjunction} {run other : Run World}

private theorem kind_consumed : both.contains conjunction.kind.name = true := by
  rw [conjunction.kindNamed]
  rfl

variable (conjunction World) in
private theorem within_known : ∃ build, (Registry.standard : Registry World).lookup?
    conjunction.within.name = some build :=
  conjunction.within_makes.known

private theorem within_kept : both.contains conjunction.within.name = false := rfl

/-- The patterns of a filter aside, the same elements are evaluated in both forms. -/
theorem guarded_alike : Element.LiveAlike Eq both ["PathRegex"]
    conjunction.fused.children conjunction.within.children := by
  -- the inner filter takes the pattern for paths only, but nothing guarded has the other name
  have same : conjunction.guarded.filter (Element.live both) =
      conjunction.guarded.filter (Element.live ["PathRegex"]) := by
    apply List.filter_congr
    intro element member
    obtain ⟨notPath, notKind⟩ := conjunction.free element member
    simp [Element.live, both, notPath, notKind]
  have path (consumed : List String) (taken : consumed.contains "PathRegex" = true) :
      ¬ conjunction.path.live consumed = true := by
    rw [Element.dead_of_consumed (by rw [conjunction.pathNamed, taken])]
    exact Bool.false_ne_true
  have kind : ¬ conjunction.kind.live both = true := by
    rw [Element.dead_of_consumed kind_consumed]
    exact Bool.false_ne_true
  have fused : conjunction.fused.children.filter (Element.live both) =
      conjunction.guarded.filter (Element.live both) := by
    rw [Conjunction.fused, Frame.hold, List.filter_cons_of_neg (path both rfl),
      List.filter_cons_of_neg kind]
  have within : conjunction.within.children.filter (Element.live ["PathRegex"]) =
      conjunction.guarded.filter (Element.live ["PathRegex"]) := by
    rw [Conjunction.within, Frame.hold, List.filter_cons_of_neg (path _ rfl)]
  rw [Element.LiveAlike, fused, within, same]
  exact List.forall₂_same.mpr fun _ _ => rfl

private theorem within_alone {build : Builder World} {scope : Tokens} {visits : List Visit}
    {outcome : Outcome} {after : Run World}
    (known : Registry.standard.lookup? conjunction.within.name = some build)
    (evaluation : Evaluates setting .standard (.element build conjunction.within) scope other
      visits outcome scope after) :
    Evaluates setting .standard (.children both conjunction.nested.children) scope other visits
      outcome scope after := by
  apply Evaluates.consumed kind_consumed
  cases stops : outcome.stops with
  | true => exact .childStops within_kept known evaluation stops
  | false =>
      rw [Outcome.done_of_passes stops] at evaluation ⊢
      rw [← List.append_nil visits]
      exact .childPasses within_kept known evaluation rfl .noChildren

/-- For a path that is admitted, the nested form evaluates what the fused one does. -/
theorem admitted_agree {scope : Tokens} {path : String} (given : scope.get "Path" = .ok path)
    (admitted : conjunction.pathGate.admits path = true) (same : run.Same Entry.deed other) :
    ∃ visits outcome final after later,
      Evaluates setting .standard (.children both conjunction.fused.children) scope run visits
        outcome final after ∧
      Evaluates setting .standard (.children both conjunction.nested.children) scope other
        (⟨conjunction.within, scope⟩ :: visits) outcome scope later ∧
      after.Same Entry.deed later := by
  obtain ⟨build, known⟩ := conjunction.within_known World
  have entered : run.Same Entry.deed (conjunction.within.enter other) := same.note_right rfl
  obtain ⟨visits, guarded⟩ :=
    (Evaluation.derived setting .standard).2 both conjunction.fused.children scope run
  obtain ⟨images, last, evaluation, ended, paired⟩ :=
    guarded.mirrored Element.mirror_refl (fun _ => rfl) (.children guarded_alike) entered
  rw [Visit.mirrors_eq paired] at evaluation
  have items := Evaluates.single_item evaluation
  have selected := Condition.select_token setting conjunction.pathGate given
    (conjunction.within.enter other)
  rw [admitted] at selected
  obtain ⟨later, whole, finished⟩ :=
    Evaluates.filter_items (conjunction.within_makes.built known) (Filter.chosen_single _ [])
      selected items
  exact ⟨visits, _, _, _, later, guarded, within_alone known whole, ended.trans finished⟩

/-- For a path that is refused, the nested form evaluates nothing but the inner filter. -/
theorem refused_passes {scope : Tokens} {path : String} (given : scope.get "Path" = .ok path)
    (refused : conjunction.pathGate.admits path = false) :
    ∃ later, Evaluates setting .standard (.children both conjunction.nested.children) scope other
      [⟨conjunction.within, scope⟩] .done scope later ∧ other.Same Entry.deed later := by
  obtain ⟨build, known⟩ := conjunction.within_known World
  have selected := Condition.select_token setting conjunction.pathGate given
    (conjunction.within.enter other)
  rw [refused] at selected
  have built := conjunction.within_makes.built known
  refine ⟨_, within_alone known (.unmatched built selected), ?_⟩
  exact ((Run.Same.refl _ other).note_right rfl).note_right rfl

variable (conjunction setting) in
/-- From runs that have come to the same on, the tasks come to the same, and what is guarded is
visited alike. -/
def Agree (tokens : Tokens) (left right : Task World) : Prop :=
  ∀ {run other : Run World}, run.Same Entry.deed other →
    ∃ visits images outcome after later,
      Evaluates setting .standard left tokens run visits outcome tokens after ∧
        Evaluates setting .standard right tokens other images outcome tokens later ∧
          after.Same Entry.deed later ∧ conjunction.inside images = conjunction.inside visits

/-- The items of both forms come to the same: by induction on the changes, where the nested form
has one more item for each change whose path alone is refused. -/
theorem items_agree (tokens : Tokens) (changes : List Change) :
    conjunction.Agree setting tokens
      (.items both conjunction.fused.children (Condition.changeItems
        (some conjunction.pathGate) (some conjunction.kindGate) changes))
      (.items both conjunction.nested.children (Condition.changeItems
        none (some conjunction.kindGate) changes)) := by
  induction changes with
  | nil => exact fun same => ⟨[], [], .done, _, _, .noItems, .noItems, same, rfl⟩
  | cons change rest ih =>
      intro run other same
      have given := Condition.get_path_changeBindings tokens change
      cases kind : Gate.allows (some conjunction.kindGate) change.kind with
      | false =>
          rw [Condition.changeItems_kind rest kind, Condition.changeItems_kind rest kind]
          exact ih same
      | true =>
          have every : Gate.allows none change.path = true := rfl
          rw [Condition.changeItems_passed rest every kind]
          cases path : Gate.allows (some conjunction.pathGate) change.path with
          | false =>
              rw [Condition.changeItems_path rest path]
              obtain ⟨middle, first, passed⟩ := refused_passes given path
              obtain ⟨visits, images, outcome, after, later, left, right, ended, seen⟩ :=
                ih (same.trans passed)
              refine ⟨visits, _, outcome, after, later, left, .itemPasses first rfl right, ended, ?_⟩
              rw [inside_append, inside_outer conjunction conjunction.within_larger, seen]
              rfl
          | true =>
              rw [Condition.changeItems_passed rest path kind]
              obtain ⟨visits, outcome, final, middle, last, fused, nested, reached⟩ :=
                admitted_agree given path same
              have alike := inside_outer conjunction conjunction.within_larger
                (tokens.setAll (Condition.changeBindings change)) visits
              cases stops : outcome.stops with
              | true =>
                  exact ⟨visits, _, outcome, middle, last, .itemStops fused stops,
                    .itemStops nested stops, reached, alike⟩
              | false =>
                  obtain ⟨more, images, ending, after, later, left, right, ended, seen⟩ :=
                    ih reached
                  refine ⟨visits ++ more, _, ending, after, later,
                    .itemPasses fused stops left, .itemPasses nested stops right, ended, ?_⟩
                  rw [inside_append, alike, seen, inside_append]

/-- Both forms ask for the changes once, and come to the same. -/
theorem forms_agree {fusedBuild nestedBuild : Builder World}
    (fusedKnown : Registry.standard.lookup? conjunction.fused.name = some fusedBuild)
    (nestedKnown : Registry.standard.lookup? conjunction.nested.name = some nestedBuild)
    (tokens : Tokens) :
    conjunction.Agree setting tokens (.element fusedBuild conjunction.fused)
      (.element nestedBuild conjunction.nested) := by
  intro run other same
  have fusedBuilt := conjunction.fused_makes.built fusedKnown
  have nestedBuilt := conjunction.nested_makes.built nestedKnown
  have entered : (conjunction.fused.enter run).Same Entry.deed (conjunction.nested.enter other) :=
    (same.note_left rfl).note_right rfl
  rcases asked : (Act.ask setting.facts.changes).run (conjunction.fused.enter run) with
    ⟨failure | changes, middle⟩
  · obtain ⟨last, again, reached⟩ := (Act.local_ask _).same entered asked
    have left := Condition.select_changes_error tokens
      (some conjunction.pathGate) (some conjunction.kindGate) asked
    have right := Condition.select_changes_error tokens none
      (some conjunction.kindGate) again
    refine ⟨_, _, _, _, _, .unselected fusedBuilt left, .unselected nestedBuilt right,
      (reached.note_left rfl).note_right rfl, ?_⟩
    rw [inside_outer conjunction conjunction.fused_larger,
      inside_outer conjunction conjunction.nested_larger]
  · obtain ⟨last, again, reached⟩ := (Act.local_ask _).same entered asked
    have left := Condition.select_changes tokens
      (some conjunction.pathGate) (some conjunction.kindGate) asked
    have right := Condition.select_changes tokens none
      (some conjunction.kindGate) again
    obtain ⟨visits, images, outcome, after, later, fused, nested, ended, seen⟩ :=
      items_agree tokens changes reached
    obtain ⟨final, fusedWhole, fusedSame⟩ :=
      Evaluates.filter_items fusedBuilt (Filter.chosen_every rfl _) left fused
    obtain ⟨ending, nestedWhole, nestedSame⟩ :=
      Evaluates.filter_items nestedBuilt (Filter.chosen_every rfl _) right nested
    refine ⟨_, _, _, _, _, fusedWhole, nestedWhole,
      (fusedSame.symm.trans ended).trans nestedSame, ?_⟩
    rw [inside_outer conjunction conjunction.fused_larger,
      inside_outer conjunction conjunction.nested_larger, seen]

end Conjunction

/-- One filter with both patterns, and a filter with one pattern around a filter with the other,
come to the same: the outcome, the tokens that hold afterwards, the world, and all that is done, in
order. What is guarded is visited in the same order with the same tokens. -/
theorem conjunction_forms_agree (conjunction : Conjunction) (setting : Setting World)
    (tokens : Tokens) (run : Run World) :
    let fused := Evaluation.run setting .standard conjunction.fused tokens run
    let nested := Evaluation.run setting .standard conjunction.nested tokens run
    nested.1 = fused.1 ∧ nested.2.world = fused.2.world ∧
      nested.2.journal.filter Entry.deed = fused.2.journal.filter Entry.deed ∧
      ∀ visits images,
        Evaluation.Visits setting .standard conjunction.fused tokens run visits →
        Evaluation.Visits setting .standard conjunction.nested tokens run images →
        conjunction.inside images = conjunction.inside visits := by
  intro fused nested
  obtain ⟨fusedBuild, fusedKnown⟩ : ∃ build, (Registry.standard : Registry World).lookup?
      conjunction.fused.name = some build := conjunction.fused_makes.known
  obtain ⟨nestedBuild, nestedKnown⟩ : ∃ build, (Registry.standard : Registry World).lookup?
      conjunction.nested.name = some build := conjunction.nested_makes.known
  obtain ⟨visits, images, outcome, after, later, left, right, same, seen⟩ :=
    Conjunction.forms_agree fusedKnown nestedKnown tokens (.refl Entry.deed run)
  obtain ⟨result, ended⟩ := Evaluation.run_same (left.executed fusedKnown)
    (right.executed nestedKnown) same
  refine ⟨result, ended.world.symm, ended.journal.symm, ?_⟩
  intro fusedVisits nestedVisits fusedVisited nestedVisited
  rw [left.visits_unique fusedKnown fusedVisited, right.visits_unique nestedKnown nestedVisited,
    seen]

/-- Of an added page, a deleted text and an added text, the added text is refused in both forms. -/
theorem added_text_refused_alike :
    let frame : Frame := ⟨[], none, .nowhere⟩
    let conjunction : Conjunction :=
      { path := ⟨"PathRegex", [], some "txt$", [], .nowhere⟩
        kind := ⟨"ChgTypeRegex", [("sense", "false")], some "(?-i)D|U", [], .nowhere⟩
        guarded := [⟨"SendError", [("exitCode", "3")], some "${Path}", [], .nowhere⟩]
        pathNamed := rfl
        kindNamed := rfl
        pathValid := by decide +kernel
        kindValid := by decide +kernel
        free := by decide +kernel
        whole := frame
        wholeEvery := rfl
        outer := frame
        outerEvery := rfl
        inner := frame }
    let changes : List Change := [.ofFlags "A" "a.html", .ofFlags "D" "b.txt", .ofFlags "A" "c.txt"]
    let given : FixedFacts := { (default : FixedFacts) with changes := some changes }
    let setting : Setting Unit :=
      ⟨given.toFacts Unit, default, .defaults, .accepting, .working, .idle⟩
    (Evaluation.run setting .standard conjunction.nested .empty ⟨(), []⟩).1.1 = .code 3 ∧
      .told "c.txt" ∈
        (Evaluation.run setting .standard conjunction.nested .empty ⟨(), []⟩).2.journal := by
  intro frame conjunction changes given setting
  obtain ⟨result, -, journal, -⟩ :=
    conjunction_forms_agree conjunction setting .empty ⟨(), []⟩
  have refused : (Evaluation.run setting .standard conjunction.fused .empty ⟨(), []⟩).1.1 =
      .code 3 := by
    decide +kernel
  have told : .told "c.txt" ∈ ((Evaluation.run setting .standard conjunction.fused .empty
      ⟨(), []⟩).2.journal.filter Entry.deed) := by
    decide +kernel
  constructor
  · rw [result, refused]
  · rw [← journal] at told
    exact (List.mem_filter.mp told).1

end HookRules

import HookRules.Proofs.Document.Path
import HookRules.Proofs.Rule.Agreement
import HookRules.Proofs.Rule.Filter
import HookRules.Proofs.Rule.Registry
import HookRules.Proofs.Run.Derivation

/-!
Where a run has been. A station is one evaluation of an element: its place in the document, the
tokens it began with, what it came to, and the effects that it had itself, apart from those of the
elements inside it. Where answers, commands and files do not depend on what happened before, the
stations of a run do not either.
-/

set_option autoImplicit false

namespace HookRules

structure Station where
  path : List Nat
  scope : Tokens
  outcome : Outcome
  effects : Journal
  deriving DecidableEq

namespace Station

/-- The station seen from the parent, of which the element is the child of that number. -/
def under (index : Nat) (station : Station) : Station :=
  { station with path := index :: station.path }

def effectsOf (stations : List Station) : Journal := stations.flatMap effects

private theorem effectsOf_append (first second : List Station) :
    effectsOf (first ++ second) = effectsOf first ++ effectsOf second :=
  List.flatMap_append

private theorem effectsOf_under (index : Nat) (stations : List Station) :
    effectsOf (stations.map (under index)) = effectsOf stations := by
  rw [effectsOf, List.flatMap_map]
  rfl

end Station

variable {World : Type}

/-- The effects that the later run has and the earlier one has not. -/
def Run.effectsSince (earlier later : Run World) : Journal :=
  (Journal.effects later.journal).drop (Journal.effects earlier.journal).length

namespace Evaluation

/-- The stations of one item after another until one stops. -/
def stationsInTurn (evaluate : Bindings → Step World Outcome)
    (stations : Bindings → Run World → List Station) : List Bindings → Run World → List Station
  | [], _ => []
  | bindings :: rest, run =>
    let ended := evaluate bindings run
    stations bindings run ++
      if ended.1.stops then [] else stationsInTurn evaluate stations rest ended.2

variable (setting : Setting World) (registry : Registry World)

/-- Evaluates the children of a filter for one item. -/
def evaluateItem (consumed : List String) (children : List Element) (tokens : Tokens)
    (bindings : Bindings) : Step World Outcome := do
  return (← evaluateAll setting registry consumed children (tokens.setAll bindings)).1

mutual

/-- The stations of an element, its own first. Places are counted from the element. -/
def stations (build : Builder World) : Element → Tokens → Run World → List Station
  | element@⟨_, _, _, children, _⟩, tokens, run =>
    let ended := evaluate setting registry build element tokens run
    match build element with
    | .ok (.filter filter) =>
      ⟨[], tokens, ended.1.1, []⟩ ::
        match (filter.condition.select setting tokens).run (element.enter run) with
        | (.error _, _) => []
        | (.ok items, after) =>
          stationsInTurn (evaluateItem setting registry filter.consumed children tokens)
            (fun bindings => stationsOf filter.consumed 0 children (tokens.setAll bindings))
            (filter.chosen items) after
    | _ => [⟨[], tokens, ended.1.1, run.effectsSince ended.2⟩]

/-- The stations of children, of which the first one has the given number. -/
def stationsOf (consumed : List String) : Nat → List Element → Tokens → Run World → List Station
  | _, [], _, _ => []
  | index, child :: rest, tokens, run =>
    if consumed.contains child.name then stationsOf consumed (index + 1) rest tokens run
    else match registry.lookup? child.name with
      | none => stationsOf consumed (index + 1) rest tokens (run.note (.skipped child.name))
      | some build =>
        let ended := evaluate setting registry build child tokens run
        (stations build child tokens run).map (Station.under index) ++
          if ended.1.1.stops then [] else stationsOf consumed (index + 1) rest ended.1.2 ended.2

end

/-- The stations of a run. A root that is no rule has none. -/
def stationsAt (root : Element) (tokens : Tokens) (run : Run World) : List Station :=
  match registry.lookup? root.name with
  | none => []
  | some build => stations setting registry build root tokens run

end Evaluation

theorem Run.effectsSince_eq {earlier later : Run World} {added : Journal}
    (extended : Journal.effects later.journal = Journal.effects earlier.journal ++ added) :
    earlier.effectsSince later = added := by
  rw [effectsSince, extended, List.drop_left]

@[simp] theorem Run.effects_note (run : Run World) (notice : Notice) :
    Journal.effects (run.note notice).journal = Journal.effects run.journal := by
  rw [Run.note_journal, Journal.effects_append]
  exact List.append_nil _

@[simp] theorem Run.effects_enter (run : Run World) (element : Element) :
    Journal.effects (element.enter run).journal = Journal.effects run.journal :=
  run.effects_note _

@[simp] theorem Run.effects_blame (run : Run World) (element : Element) (failure : Failure) :
    Journal.effects (element.blame failure run).journal = Journal.effects run.journal :=
  run.effects_note _

/-- Answers and deeds that come to the same in all worlds that are usual, and leave them usual. -/
structure Setting.Settled (setting : Setting World) (usual : World → Prop) : Prop
    extends DeedsAgree (fun _ => True) (fun first second => usual first ∧ usual second)
      setting.host setting.host setting.mailer setting.mailer where
  asked : ∀ question first second, usual first → usual second →
    (setting.facts.answer question first).result = (setting.facts.answer question second).result ∧
      usual (setting.facts.answer question first).world

section Settled

variable {setting : Setting World} {usual : World → Prop}

private theorem Setting.Settled.agree (settled : setting.Settled usual) :
    setting.Agree (fun _ => True) (fun first second => usual first ∧ usual second) setting where
  event := rfl
  settings := rfl
  channel := rfl
  subject := rfl
  connects := rfl
  facts := by
    rintro question first second ⟨left, right⟩
    obtain ⟨same, leftAfter⟩ := settled.asked question first second left right
    exact ⟨same, leftAfter, (settled.asked question second first right left).2⟩
  executed := settled.executed
  wrote := settled.wrote
  mailed := settled.mailed

theorem Act.Agrees.settled {Answer : Type} {act : Act World Answer}
    (agrees : Act.Agrees (fun _ => True) (fun first second => usual first ∧ usual second) act act)
    (run other : Run World) (left : usual run.world) (right : usual other.world) :
    (act.run run).1 = (act.run other).1 ∧ usual (act.run run).2.world ∧
      ∃ added, Journal.effects (act.run run).2.journal = Journal.effects run.journal ++ added ∧
        Journal.effects (act.run other).2.journal = Journal.effects other.journal ++ added := by
  -- both are compared with one run that begins without a journal
  have compared (run : Run World) (begun : usual run.world) :=
    agrees.parallel (Journal.effects run.journal) run ⟨other.world, []⟩
      ⟨⟨begun, right⟩, (List.append_nil _).symm⟩ fun _ _ => trivial
  obtain ⟨result, first⟩ := compared run left
  obtain ⟨again, second⟩ := compared other right
  exact ⟨result.trans again.symm, first.worlds.1, _, first.effects, second.effects⟩

theorem Setting.Settled.selects (settled : setting.Settled usual) (tokens : Tokens)
    (condition : Condition) (run other : Run World) (left : usual run.world)
    (right : usual other.world) :
    ((condition.select setting tokens).run run).1 =
        ((condition.select setting tokens).run other).1 ∧
      usual ((condition.select setting tokens).run run).2.world ∧
        usual ((condition.select setting tokens).run other).2.world := by
  have agrees : Act.Agrees (fun _ => True) (fun first second => usual first ∧ usual second)
      (condition.select setting tokens) (condition.select setting tokens) :=
    Condition.select_agrees rfl settled.agree.facts tokens condition
  exact ⟨(agrees.settled run other left right).1, (agrees.settled run other left right).2.1,
    (agrees.settled other run right left).2.1⟩

end Settled

/-- Wherever it begins in a usual world, the step has one answer and one list of stations, its
effects are those of the stations, and it leaves a usual world. -/
structure Step.Repeats {Answer : Type} (usual : World → Prop) (step : Step World Answer)
    (stations : Run World → List Station) : Prop where
  stays : ∀ run, usual run.world → usual (step run).2.world
  result : ∀ run other, usual run.world → usual other.world → (step run).1 = (step other).1
  places : ∀ run other, usual run.world → usual other.world → stations run = stations other
  effects : ∀ run, usual run.world → Journal.effects (step run).2.journal =
    Journal.effects run.journal ++ Station.effectsOf (stations run)

namespace Evaluation

variable {setting : Setting World} {registry : Registry World} {build : Builder World}
  {element : Element} {tokens : Tokens} {usual : World → Prop}

theorem stations_single (other : ∀ filter, build element ≠ .ok (.filter filter)) (run : Run World) :
    stations setting registry build element tokens run =
      [⟨[], tokens, (evaluate setting registry build element tokens run).1.1,
        run.effectsSince (evaluate setting registry build element tokens run).2⟩] := by
  obtain ⟨name, attributes, text, children, span⟩ := element
  rw [stations]
  split
  · rename_i filter built
    exact absurd built (other filter)
  · rfl

section Filters

variable {filter : Filter} (built : build element = .ok (.filter filter)) {run after : Run World}

include built

theorem filter_unselected {failure : Failure}
    (selected : (filter.condition.select setting tokens).run (element.enter run) =
      (.error failure, after)) :
    evaluate setting registry build element tokens run =
        ((.internal failure, tokens), element.blame failure after) ∧
      stations setting registry build element tokens run =
        [⟨[], tokens, .internal failure, []⟩] := by
  have evaluated : evaluate setting registry build element tokens run =
      ((.internal failure, tokens), element.blame failure after) := by
    rw [evaluate_filter built, selected]
  refine ⟨evaluated, ?_⟩
  obtain ⟨name, attributes, text, children, span⟩ := element
  rw [stations, built, evaluated]
  dsimp only
  rw [selected]

theorem filter_unmatched
    (selected : (filter.condition.select setting tokens).run (element.enter run) =
      (.ok [], after)) :
    evaluate setting registry build element tokens run =
        ((.done, tokens), after.note (.unmatched element.name)) ∧
      stations setting registry build element tokens run = [⟨[], tokens, .done, []⟩] := by
  have evaluated : evaluate setting registry build element tokens run =
      ((.done, tokens), after.note (.unmatched element.name)) := by
    rw [evaluate_filter built, selected]
  have nothing : filter.chosen [] = [] := by
    rw [Filter.chosen]
    split <;> rfl
  refine ⟨evaluated, ?_⟩
  obtain ⟨name, attributes, text, children, span⟩ := element
  rw [stations, built, evaluated]
  dsimp only
  rw [selected]
  dsimp only
  rw [nothing]
  rfl

theorem filter_matched {items : List Bindings} (some : items ≠ [])
    (selected : (filter.condition.select setting tokens).run (element.enter run) =
      (.ok items, after)) :
    let ended := inTurn (evaluateItem setting registry filter.consumed element.children tokens)
      (filter.chosen items) after
    evaluate setting registry build element tokens run = ((ended.1, tokens), ended.2) ∧
      stations setting registry build element tokens run = ⟨[], tokens, ended.1, []⟩ ::
        stationsInTurn (evaluateItem setting registry filter.consumed element.children tokens)
          (fun bindings => stationsOf setting registry filter.consumed 0 element.children
            (tokens.setAll bindings)) (filter.chosen items) after := by
  intro ended
  have evaluated : evaluate setting registry build element tokens run =
      ((ended.1, tokens), ended.2) := by
    rw [evaluate_filter built, selected]
    cases items with
    | nil => exact absurd rfl some
    | cons bindings rest => rfl
  refine ⟨evaluated, ?_⟩
  obtain ⟨name, attributes, text, children, span⟩ := element
  rw [stations, built, evaluated]
  dsimp only
  rw [selected]

end Filters

theorem stationsOf_consumed {consumed : List String} {index : Nat} {child : Element}
    {rest : List Element} (taken : consumed.contains child.name = true) (run : Run World) :
    stationsOf setting registry consumed index (child :: rest) tokens run =
      stationsOf setting registry consumed (index + 1) rest tokens run := by
  rw [stationsOf, if_pos taken]

theorem stationsOf_unknown {consumed : List String} {index : Nat} {child : Element}
    {rest : List Element} (kept : consumed.contains child.name = false)
    (unknown : registry.lookup? child.name = none) (run : Run World) :
    stationsOf setting registry consumed index (child :: rest) tokens run =
      stationsOf setting registry consumed (index + 1) rest tokens
        (run.note (.skipped child.name)) := by
  rw [stationsOf, kept, unknown]
  rfl

theorem stationsOf_known {consumed : List String} {index : Nat} {child : Element}
    {rest : List Element} (kept : consumed.contains child.name = false)
    (known : registry.lookup? child.name = some build) (run : Run World) :
    stationsOf setting registry consumed index (child :: rest) tokens run =
      let first := evaluate setting registry build child tokens run
      (stations setting registry build child tokens run).map (Station.under index) ++
        if first.1.1.stops then []
        else stationsOf setting registry consumed (index + 1) rest first.1.2 first.2 := by
  rw [stationsOf, kept, known]
  rfl

private theorem repeats_inTurn {evaluate : Bindings → Step World Outcome}
    {stations : Bindings → Run World → List Station}
    (each : ∀ bindings, Step.Repeats usual (evaluate bindings) (stations bindings))
    (items : List Bindings) :
    Step.Repeats usual (inTurn evaluate items) (stationsInTurn evaluate stations items) := by
  induction items with
  | nil =>
      exact ⟨fun _ begun => begun, fun _ _ _ _ => rfl, fun _ _ _ _ => rfl,
        fun _ _ => (List.append_nil _).symm⟩
  | cons bindings rest ih =>
      have first := each bindings
      refine ⟨fun run begun => ?_, fun run other left right => ?_, fun run other left right => ?_,
        fun run begun => ?_⟩
      · rw [inTurn_cons]
        dsimp only
        split
        · exact first.stays run begun
        · exact ih.stays _ (first.stays run begun)
      · rw [inTurn_cons, inTurn_cons]
        dsimp only
        rw [first.result run other left right]
        split
        · exact first.result run other left right
        · exact ih.result _ _ (first.stays run left) (first.stays other right)
      · rw [stationsInTurn, stationsInTurn, first.result run other left right,
          first.places run other left right]
        split
        · rfl
        · rw [ih.places _ _ (first.stays run left) (first.stays other right)]
      · rw [inTurn_cons, stationsInTurn, Station.effectsOf_append, ← List.append_assoc,
          ← first.effects run begun]
        dsimp only
        split
        · exact (List.append_nil _).symm
        · exact ih.effects _ (first.stays run begun)

private theorem repeats_item {consumed : List String} {children : List Element}
    (each : ∀ bindings, Step.Repeats usual
      (evaluateAll setting registry consumed children (tokens.setAll bindings))
      (stationsOf setting registry consumed 0 children (tokens.setAll bindings)))
    (bindings : Bindings) :
    Step.Repeats usual (evaluateItem setting registry consumed children tokens bindings)
      (stationsOf setting registry consumed 0 children (tokens.setAll bindings)) where
  stays := (each bindings).stays
  result := fun run other left right =>
    congrArg (fun ended => ended.1) ((each bindings).result run other left right)
  places := (each bindings).places
  effects := (each bindings).effects

private theorem repeats_act {rule : Rule World} {act : Act World (Outcome × Tokens)}
    (built : build element = .ok rule) (acts : rule.act? setting tokens = some act)
    (agrees : Act.Agrees (fun _ => True) (fun first second => usual first ∧ usual second) act act) :
    Step.Repeats usual (evaluate setting registry build element tokens)
      (stations setting registry build element tokens) := by
  have other (filter : Filter) : build element ≠ .ok (.filter filter) := by
    intro same
    rw [built] at same
    cases same
    cases acts
  have settled (run other : Run World) (left : usual run.world) (right : usual other.world) :
      (evaluate setting registry build element tokens run).1 =
          (evaluate setting registry build element tokens other).1 ∧
        usual (evaluate setting registry build element tokens run).2.world ∧ ∃ added,
        Journal.effects (evaluate setting registry build element tokens run).2.journal =
            Journal.effects run.journal ++ added ∧
          Journal.effects (evaluate setting registry build element tokens other).2.journal =
            Journal.effects other.journal ++ added := by
    obtain ⟨same, stays, added, first, second⟩ :=
      agrees.settled (element.enter run) (element.enter other) left right
    rw [evaluate_act built acts, evaluate_act built acts]
    rcases ended : act.run (element.enter run) with ⟨result, after⟩
    rcases again : act.run (element.enter other) with ⟨result', later⟩
    rw [ended, again] at same
    rw [ended] at first stays
    rw [again] at second
    cases same
    cases result with
    | ok result => exact ⟨rfl, stays, added, by simpa using first, by simpa using second⟩
    | error failure => exact ⟨rfl, stays, added, by simpa using first, by simpa using second⟩
  refine ⟨fun run begun => (settled run run begun begun).2.1,
    fun run again left right => (settled run again left right).1,
    fun run again left right => ?_, fun run begun => ?_⟩
  · obtain ⟨same, -, added, first, second⟩ := settled run again left right
    rw [stations_single other, stations_single other, same, Run.effectsSince_eq first,
      Run.effectsSince_eq second]
  · obtain ⟨-, -, added, first, -⟩ := settled run run begun begun
    rw [stations_single other, Run.effectsSince_eq first, first]
    exact congrArg _ (List.append_nil added).symm

private theorem repeats_unbuilt {error : RuleError} (unbuilt : build element = .error error) :
    Step.Repeats usual (evaluate setting registry build element tokens)
      (stations setting registry build element tokens) := by
  have other (filter : Filter) : build element ≠ .ok (.filter filter) := by
    rw [unbuilt]
    nofun
  have unnoticed (run : Run World) :
      Journal.effects (evaluate setting registry build element tokens run).2.journal =
        Journal.effects run.journal ++ [] := by
    rw [evaluate_unbuilt unbuilt]
    simp
  refine ⟨fun run begun => ?_, fun run again _ _ => ?_, fun run again _ _ => ?_, fun run _ => ?_⟩
  · rw [evaluate_unbuilt unbuilt]
    exact begun
  · rw [evaluate_unbuilt unbuilt, evaluate_unbuilt unbuilt]
  · rw [stations_single other, stations_single other, Run.effectsSince_eq (unnoticed run),
      Run.effectsSince_eq (unnoticed again), evaluate_unbuilt unbuilt, evaluate_unbuilt unbuilt]
  · rw [stations_single other, Run.effectsSince_eq (unnoticed run), unnoticed run]
    rfl

private theorem repeats_filter {filter : Filter} (built : build element = .ok (.filter filter))
    (settled : setting.Settled usual) (each : ∀ bindings, Step.Repeats usual
      (evaluateAll setting registry filter.consumed element.children (tokens.setAll bindings))
      (stationsOf setting registry filter.consumed 0 element.children (tokens.setAll bindings))) :
    Step.Repeats usual (evaluate setting registry build element tokens)
      (stations setting registry build element tokens) := by
  have paired (run other : Run World) (left : usual run.world) (right : usual other.world) :
      usual (evaluate setting registry build element tokens run).2.world ∧
      (evaluate setting registry build element tokens run).1 =
          (evaluate setting registry build element tokens other).1 ∧
        stations setting registry build element tokens run =
          stations setting registry build element tokens other ∧
        Journal.effects (evaluate setting registry build element tokens run).2.journal =
          Journal.effects run.journal ++
            Station.effectsOf (stations setting registry build element tokens run) := by
    have selects := settled.selects tokens filter.condition (element.enter run)
      (element.enter other) left right
    have unnoticed := Condition.select_effects setting tokens filter.condition (element.enter run)
    rw [Run.effects_enter] at unnoticed
    rcases selected : (filter.condition.select setting tokens).run (element.enter run) with
      ⟨chosen, after⟩
    rcases again : (filter.condition.select setting tokens).run (element.enter other) with
      ⟨chosenAgain, later⟩
    rw [selected] at unnoticed
    rw [selected, again] at selects
    obtain ⟨same, stays, staysAgain⟩ := selects
    obtain rfl : chosen = chosenAgain := same
    rcases chosen with failure | _ | ⟨bindings, rest⟩
    · obtain ⟨first, firstStations⟩ := filter_unselected built selected
      obtain ⟨second, secondStations⟩ := filter_unselected built again
      rw [first, second, firstStations, secondStations]
      exact ⟨stays, rfl, rfl, by simpa [Station.effectsOf] using unnoticed⟩
    · obtain ⟨first, firstStations⟩ := filter_unmatched built selected
      obtain ⟨second, secondStations⟩ := filter_unmatched built again
      rw [first, second, firstStations, secondStations, Run.effects_note]
      exact ⟨stays, rfl, rfl, by simpa [Station.effectsOf] using unnoticed⟩
    · obtain ⟨first, firstStations⟩ := filter_matched built (List.cons_ne_nil _ _) selected
      obtain ⟨second, secondStations⟩ := filter_matched built (List.cons_ne_nil _ _) again
      have items := repeats_inTurn (repeats_item each) (filter.chosen (bindings :: rest))
      have effects := items.effects after stays
      rw [unnoticed] at effects
      rw [first, second, firstStations, secondStations]
      have result := items.result after later stays staysAgain
      rw [items.places later after staysAgain stays]
      refine ⟨items.stays after stays, congrArg (fun outcome => (outcome, tokens)) result, ?_,
        effects⟩
      rw [result]
  exact ⟨fun run begun => (paired run run begun begun).1,
    fun run other left right => (paired run other left right).2.1,
    fun run other left right => (paired run other left right).2.2.1,
    fun run begun => (paired run run begun begun).2.2.2⟩

private theorem repeats_nil (consumed : List String) (index : Nat) :
    Step.Repeats usual (evaluateAll setting registry consumed [] tokens)
      (stationsOf setting registry consumed index [] tokens) := by
  have evaluated (run : Run World) :
      evaluateAll setting registry consumed [] tokens run = ((.done, tokens), run) := by
    rw [evaluateAll.eq_1]
    rfl
  refine ⟨fun run begun => ?_, fun run other _ _ => ?_, fun run other _ _ => ?_, fun run _ => ?_⟩
  · rw [evaluated]
    exact begun
  · rw [evaluated, evaluated]
  · rw [stationsOf, stationsOf]
  · rw [evaluated, stationsOf]
    exact (List.append_nil _).symm

section Children

variable {consumed : List String} {index : Nat} {child : Element} {rest : List Element}

private theorem repeats_consumed (taken : consumed.contains child.name = true)
    (later : Step.Repeats usual (evaluateAll setting registry consumed rest tokens)
      (stationsOf setting registry consumed (index + 1) rest tokens)) :
    Step.Repeats usual (evaluateAll setting registry consumed (child :: rest) tokens)
      (stationsOf setting registry consumed index (child :: rest) tokens) := by
  have places : stationsOf setting registry consumed index (child :: rest) tokens =
      stationsOf setting registry consumed (index + 1) rest tokens :=
    funext fun run => stationsOf_consumed taken run
  rw [evaluateAll.eq_2, if_pos taken, places]
  exact later

private theorem repeats_unknown (kept : consumed.contains child.name = false)
    (unknown : registry.lookup? child.name = none)
    (later : Step.Repeats usual (evaluateAll setting registry consumed rest tokens)
      (stationsOf setting registry consumed (index + 1) rest tokens)) :
    Step.Repeats usual (evaluateAll setting registry consumed (child :: rest) tokens)
      (stationsOf setting registry consumed index (child :: rest) tokens) := by
  refine ⟨fun run begun => ?_, fun run other left right => ?_, fun run other left right => ?_,
    fun run begun => ?_⟩
  · rw [evaluateAll_unknown kept unknown]
    exact later.stays _ begun
  · rw [evaluateAll_unknown kept unknown, evaluateAll_unknown kept unknown]
    exact later.result _ _ left right
  · rw [stationsOf_unknown kept unknown, stationsOf_unknown kept unknown]
    exact later.places _ _ left right
  · rw [evaluateAll_unknown kept unknown, stationsOf_unknown kept unknown,
      later.effects (run.note (.skipped child.name)) begun, Run.effects_note]

private theorem repeats_known (kept : consumed.contains child.name = false)
    (known : registry.lookup? child.name = some build)
    (first : Step.Repeats usual (evaluate setting registry build child tokens)
      (stations setting registry build child tokens))
    (later : ∀ scope, Step.Repeats usual (evaluateAll setting registry consumed rest scope)
      (stationsOf setting registry consumed (index + 1) rest scope)) :
    Step.Repeats usual (evaluateAll setting registry consumed (child :: rest) tokens)
      (stationsOf setting registry consumed index (child :: rest) tokens) := by
  refine ⟨fun run begun => ?_, fun run other left right => ?_, fun run other left right => ?_,
    fun run begun => ?_⟩
  · rw [evaluateAll_known kept known]
    dsimp only
    split
    · exact first.stays run begun
    · exact (later _).stays _ (first.stays run begun)
  · rw [evaluateAll_known kept known, evaluateAll_known kept known]
    dsimp only
    rw [first.result run other left right]
    split
    · exact first.result run other left right
    · exact (later _).result _ _ (first.stays run left) (first.stays other right)
  · rw [stationsOf_known kept known, stationsOf_known kept known,
      first.places run other left right]
    dsimp only
    rw [first.result run other left right]
    split
    · rfl
    · rw [(later _).places _ _ (first.stays run left) (first.stays other right)]
  · rw [evaluateAll_known kept known, stationsOf_known kept known, Station.effectsOf_append,
      Station.effectsOf_under, ← List.append_assoc, ← first.effects run begun]
    dsimp only
    split
    · exact (List.append_nil _).symm
    · exact (later _).effects _ (first.stays run begun)

end Children

/-- Where nothing changes in between, evaluating an element, or children in order, comes to the same
from every run on. -/
theorem repeats (settled : setting.Settled usual) :
    (∀ (build : Builder World) (element : Element) (tokens : Tokens),
      Registry.standard.lookup? element.name = some build →
        Step.Repeats usual (evaluate setting .standard build element tokens)
          (stations setting .standard build element tokens)) ∧
    (∀ (consumed : List String) (children : List Element) (tokens : Tokens) (index : Nat),
      Step.Repeats usual (evaluateAll setting .standard consumed children tokens)
        (stationsOf setting .standard consumed index children tokens)) := by
  apply evaluate.mutual_induct Registry.standard
  · intro build name attributes text children span tokens childrenRepeat known
    cases built : build ⟨name, attributes, text, children, span⟩ with
    | error error => exact repeats_unbuilt built
    | ok rule =>
        obtain ⟨filter, rfl⟩ | ⟨action, rfl, _⟩ := Registry.standard_built known built
        · exact repeats_filter built settled fun bindings => childrenRepeat filter bindings 0
        · exact repeats_act built rfl (Action.perform_agrees settled.agree tokens action)
  · exact fun consumed tokens index => repeats_nil consumed index
  · intro consumed child rest tokens taken restRepeat index
    exact repeats_consumed taken (restRepeat (index + 1))
  · intro consumed child rest tokens kept unknown restRepeat index
    have remains : consumed.contains child.name = false := by simpa using kept
    exact repeats_unknown remains unknown (restRepeat (index + 1))
  · intro consumed child rest tokens kept build known childRepeat restRepeat index
    have remains : consumed.contains child.name = false := by simpa using kept
    exact repeats_known remains known (childRepeat known) fun scope => restRepeat scope (index + 1)

end Evaluation

namespace Station

/-- The visit of the element that the path of the station leads to. -/
def visit? (root : Element) (station : Station) : Option Visit :=
  (root.at? station.path).map fun element => ⟨element, station.scope⟩

def visitBelow? (children : List Element) (station : Station) : Option Visit :=
  (Element.below? children station.path).map fun element => ⟨element, station.scope⟩

private theorem visitBelow?_under (before rest : List Element) (child : Element)
    (station : Station) :
    visitBelow? (before ++ child :: rest) (station.under before.length) = station.visit? child := by
  rw [visitBelow?, under, visit?, Element.below?, List.getElem?_append_right (Nat.le_refl _),
    Nat.sub_self]
  rfl

theorem map_visit? {element : Element} {stations : List Station} {visits : List Visit}
    (below : stations.map (visitBelow? element.children) = visits.map some) :
    stations.map (visit? element) = visits.map some := by
  rw [← below]
  refine List.map_congr_left fun station member => ?_
  have listed : station.visitBelow? element.children ∈ visits.map some := by
    rw [← below]
    exact List.mem_map_of_mem member
  obtain ⟨visit, _, same⟩ := List.mem_map.mp listed
  cases path : station.path with
  | nil =>
      rw [visitBelow?, path] at same
      cases same
  | cons index rest =>
      rw [visit?, visitBelow?, path]
      rfl

end Station

section Visits

variable {setting : Setting World} {registry : Registry World}

variable (setting registry) in
def Task.Stationed : Task World → Tokens → Run World → List Visit → Outcome → Tokens →
    Run World → Prop
  | .element build target, tokens, run, visits, outcome, final, after =>
    Evaluation.evaluate setting registry build target tokens run = ((outcome, final), after) ∧
      (Evaluation.stations setting registry build target tokens run).map (Station.visit? target) =
        visits.map some
  | .children consumed targets, tokens, run, visits, outcome, final, after =>
    Evaluation.evaluateAll setting registry consumed targets tokens run =
        ((outcome, final), after) ∧
      ∀ before : List Element,
        (Evaluation.stationsOf setting registry consumed before.length targets tokens run).map
          (Station.visitBelow? (before ++ targets)) = visits.map some
  | .items consumed targets chosen, tokens, run, visits, outcome, _, after =>
    Evaluation.inTurn (Evaluation.evaluateItem setting registry consumed targets tokens) chosen
        run = (outcome, after) ∧
      (Evaluation.stationsInTurn
        (Evaluation.evaluateItem setting registry consumed targets tokens)
        (fun bindings => Evaluation.stationsOf setting registry consumed 0 targets
          (tokens.setAll bindings)) chosen run).map (Station.visitBelow? targets) = visits.map some

private theorem Rule.act?_no_filter {build : Builder World} {element : Element}
    {rule : Rule World} {tokens : Tokens} {act : Act World (Outcome × Tokens)}
    (built : build element = .ok rule) (acts : rule.act? setting tokens = some act)
    (filter : Filter) : build element ≠ .ok (.filter filter) := by
  intro same
  rw [built] at same
  cases same
  cases acts

namespace Task.Stationed

private theorem single {build : Builder World} {element : Element} {tokens final : Tokens}
    {run after : Run World} {outcome : Outcome}
    (other : ∀ filter, build element ≠ .ok (.filter filter))
    (evaluated : Evaluation.evaluate setting registry build element tokens run =
      ((outcome, final), after)) :
    Task.Stationed setting registry (.element build element) tokens run [⟨element, tokens⟩]
      outcome final after := by
  refine ⟨evaluated, ?_⟩
  rw [Evaluation.stations_single other]
  rfl

variable {consumed : List String} {children : List Element} {tokens final : Tokens}
  {run after : Run World} {visits : List Visit} {outcome : Outcome}

private theorem behind
    (stationed : Task.Stationed setting registry (.children consumed children) tokens run visits
      outcome final after) (child : Element) (before : List Element) :
    (Evaluation.stationsOf setting registry consumed (before.length + 1) children tokens run).map
      (Station.visitBelow? (before ++ child :: children)) = visits.map some := by
  have later := stationed.2 (before ++ [child])
  rw [List.length_append, List.length_singleton, ← List.append_cons] at later
  exact later

private theorem item {bindings : Bindings}
    (stationed : Task.Stationed setting registry (.children consumed children)
      (tokens.setAll bindings) run visits outcome final after) :
    Evaluation.evaluateItem setting registry consumed children tokens bindings run =
      (outcome, after) := by
  rw [Evaluation.evaluateItem, Step.run_bind, stationed.1]
  rfl

end Task.Stationed

theorem Evaluates.stationed {task : Task World} {tokens final : Tokens} {run after : Run World}
    {visits : List Visit} {outcome : Outcome}
    (evaluation : Evaluates setting registry task tokens run visits outcome final after) :
    Task.Stationed setting registry task tokens run visits outcome final after := by
  induction evaluation with
  | unbuilt unbuilt =>
      exact .single (by rw [unbuilt]; nofun) (Evaluation.evaluate_unbuilt unbuilt _)
  | performed built acts performed =>
      exact .single (Rule.act?_no_filter built acts)
        (by rw [Evaluation.evaluate_act built acts, performed])
  | unperformed built acts performed =>
      exact .single (Rule.act?_no_filter built acts)
        (by rw [Evaluation.evaluate_act built acts, performed])
  | unselected built selected =>
      obtain ⟨evaluated, stationed⟩ := Evaluation.filter_unselected built selected
      exact ⟨evaluated, by rw [stationed]; rfl⟩
  | unmatched built selected =>
      obtain ⟨evaluated, stationed⟩ := Evaluation.filter_unmatched built selected
      exact ⟨evaluated, by rw [stationed]; rfl⟩
  | matched built some selected _ ih =>
      obtain ⟨evaluated, stationed⟩ := Evaluation.filter_matched built some selected
      obtain ⟨ended, visited⟩ := ih
      refine ⟨by rw [evaluated, ended], ?_⟩
      rw [stationed, List.map_cons, Station.map_visit? visited]
      rfl
  | noChildren =>
      refine ⟨by rw [Evaluation.evaluateAll.eq_1]; rfl, fun before => ?_⟩
      rw [Evaluation.stationsOf]
      rfl
  | consumed taken _ ih =>
      refine ⟨by rw [Evaluation.evaluateAll.eq_2, if_pos taken, ih.1], fun before => ?_⟩
      rw [Evaluation.stationsOf_consumed taken, ih.behind]
  | skipped kept unknown _ ih =>
      refine ⟨by rw [Evaluation.evaluateAll_unknown kept unknown, ih.1], fun before => ?_⟩
      rw [Evaluation.stationsOf_unknown kept unknown, ih.behind]
  | @childStops _ child rest _ _ _ _ _ _ _ kept known _ stops ih =>
      obtain ⟨ended, visited⟩ := ih
      refine ⟨by rw [Evaluation.evaluateAll_known kept known, ended]; exact if_pos stops,
        fun before => ?_⟩
      rw [Evaluation.stationsOf_known kept known, ended]
      dsimp only
      rw [if_pos stops, List.append_nil, List.map_map, ← visited]
      exact List.map_congr_left fun station _ => Station.visitBelow?_under before rest child station
  | @childPasses _ child rest _ _ _ _ _ _ _ _ _ _ _ kept known _ passes _ firstIH restIH =>
      obtain ⟨ended, visited⟩ := firstIH
      refine ⟨?_, fun before => ?_⟩
      · rw [Evaluation.evaluateAll_known kept known, ended]
        dsimp only
        rw [passes, restIH.1]
        rfl
      · rw [Evaluation.stationsOf_known kept known, ended]
        dsimp only
        rw [passes, List.map_append, List.map_append, List.map_map, ← visited,
          ← restIH.behind child before]
        refine congrArg₂ _ (List.map_congr_left fun station _ => ?_) rfl
        exact Station.visitBelow?_under before rest child station
  | noItems => exact ⟨rfl, rfl⟩
  | itemStops _ stops ih =>
      refine ⟨?_, ?_⟩
      · rw [Evaluation.inTurn_cons, ih.item]
        exact if_pos stops
      · rw [Evaluation.stationsInTurn, ih.item]
        dsimp only
        rw [if_pos stops, List.append_nil]
        exact ih.2 []
  | itemPasses _ passes _ firstIH restIH =>
      refine ⟨?_, ?_⟩
      · rw [Evaluation.inTurn_cons, firstIH.item]
        dsimp only
        rw [passes]
        exact restIH.1
      · rw [Evaluation.stationsInTurn, firstIH.item]
        dsimp only
        rw [passes, List.map_append, List.map_append]
        exact congrArg₂ _ (firstIH.2 []) restIH.2

theorem Evaluation.Visits.stationed {root : Element} {tokens : Tokens} {run : Run World}
    {visits : List Visit} (visited : Evaluation.Visits setting registry root tokens run visits) :
    (Evaluation.stationsAt setting registry root tokens run).map (Station.visit? root) =
      visits.map some := by
  unfold Evaluation.Visits at visited
  unfold Evaluation.stationsAt
  cases known : registry.lookup? root.name with
  | none =>
      rw [known] at visited
      rw [visited]
      rfl
  | some build =>
      rw [known] at visited
      exact visited.stationed.2

theorem Evaluates.executed {build : Builder World} {root : Element} {tokens final : Tokens}
    {run after : Run World} {visits : List Visit} {outcome : Outcome}
    (evaluation : Evaluates setting registry (.element build root) tokens run visits outcome final
      after) (known : registry.lookup? root.name = some build) :
    Evaluation.execute setting registry root tokens run = ((outcome, final), after) := by
  rw [Evaluation.execute_known known]
  exact evaluation.stationed.1

theorem Evaluates.visits_unique {build : Builder World} {root : Element} {tokens final : Tokens}
    {run after : Run World} {visits others : List Visit} {outcome : Outcome}
    (evaluation : Evaluates setting registry (.element build root) tokens run visits outcome final
      after) (known : registry.lookup? root.name = some build)
    (visited : Evaluation.Visits setting registry root tokens run others) : others = visits := by
  have stations := visited.stationed
  rw [Evaluation.stationsAt, known] at stations
  dsimp only at stations
  rw [evaluation.stationed.2] at stations
  exact (List.map_inj_right fun _ _ => Option.some.inj).mp stations.symm

end Visits

end HookRules

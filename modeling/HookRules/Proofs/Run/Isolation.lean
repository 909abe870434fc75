import HookRules.Proofs.Rule.Parameter
import HookRules.Proofs.Run.Station

/-!
What happens inside a filter stays there. Two documents that differ inside one filter come to the
same, as long as the filter lets both go on: every other element is evaluated with the same tokens
and has the same effects.
-/

set_option autoImplicit false

namespace HookRules

/-- Two documents that differ in what the path leads to, which is a filter in both. -/
def Element.DifferAt : List Nat → Element → Element → Prop
  | [], left, right => (Filter.build? left.name).isSome ∧ (Filter.build? right.name).isSome
  | index :: path, left, right => ∃ before first second after,
      left.children = before ++ first :: after ∧
        right = { left with children := before ++ second :: after } ∧
        before.length = index ∧ first.DifferAt path second

namespace Station

/-- The station is inside the element that the path leads to. -/
def isInside (path : List Nat) (station : Station) : Bool :=
  path.isPrefixOf station.path && decide (station.path ≠ path)

/-- The stations that are not inside an element. Its own are among them. -/
def outside (path : List Nat) (stations : List Station) : List Station :=
  stations.filter fun station => !station.isInside path

/-- Each time that the element was evaluated it let the evaluation go on. -/
def DoneAt (path : List Nat) (stations : List Station) : Prop :=
  ∀ station ∈ stations, station.path = path → station.outcome = .done

variable {path : List Nat} {first second : List Station}

private theorem outside_append (path : List Nat) (first second : List Station) :
    outside path (first ++ second) = outside path first ++ outside path second :=
  List.filter_append first second

private theorem doneAt_append :
    DoneAt path (first ++ second) ↔ DoneAt path first ∧ DoneAt path second :=
  List.forall_mem_append

private theorem isInside_under (index : Nat) (path : List Nat) (station : Station) :
    (station.under index).isInside (index :: path) = station.isInside path := by
  simp [isInside, under]

private theorem outside_under (index : Nat) (path : List Nat) (stations : List Station) :
    outside (index :: path) (stations.map (under index)) =
      (outside path stations).map (under index) := by
  rw [outside, List.filter_map, outside]
  congr 2
  funext station
  exact congrArg (!·) (isInside_under index path station)

private theorem doneAt_under (index : Nat) (path : List Nat) (stations : List Station) :
    DoneAt (index :: path) (stations.map (under index)) ↔ DoneAt path stations := by
  simp [DoneAt, under]

end Station

namespace Element

variable {path : List Nat} {first second : Element}

theorem DifferAt.isBuiltIn (differ : first.DifferAt path second) :
    first.head = second.head ∨
      Registry.isBuiltIn first.name = true ∧ Registry.isBuiltIn second.name = true := by
  cases path with
  | nil =>
      right
      simp [Registry.isBuiltIn, differ.1, differ.2]
  | cons index path =>
      obtain ⟨before, left, right, after, -, rfl, -⟩ := differ
      exact .inl rfl

theorem DifferAt.registered {World : Type} (differ : first.DifferAt path second) :
    ((Registry.standard : Registry World).lookup? second.name).isSome =
      ((Registry.standard : Registry World).lookup? first.name).isSome := by
  rw [Registry.standard_lookup?_isSome, Registry.standard_lookup?_isSome]
  rcases differ.isBuiltIn with heads | ⟨left, right⟩
  · exact congrArg (fun head => Registry.isBuiltIn head.name) heads.symm
  · rw [left, right]

private theorem pruned_of_differ (differ : first.DifferAt path second) (element : Element)
    (before after : List Element) :
    pruned { element with children := before ++ first :: after } =
      pruned { element with children := before ++ second :: after } := by
  have same : ([first].filter fun child => !Registry.isBuiltIn child.name).map head =
      ([second].filter fun child => !Registry.isBuiltIn child.name).map head := by
    rcases differ.isBuiltIn with heads | ⟨left, right⟩
    · have names : first.head.name = second.head.name := by rw [heads]
      change first.name = second.name at names
      simp only [List.filter_cons, names, List.filter_nil]
      split
      · exact congrArg (fun head => [head]) heads
      · rfl
    · simp [left, right]
  have split (child : Element) : (before ++ child :: after) = before ++ ([child] ++ after) := rfl
  simp only [pruned, split, List.filter_append, List.map_append, same]

theorem DifferAt.alike {index : Nat} {left right : Element}
    (differ : left.DifferAt (index :: path) right) :
    left.head = right.head ∧ left.pruned = right.pruned := by
  obtain ⟨before, first, second, after, holds, rfl, -, inner⟩ := differ
  refine ⟨rfl, ?_⟩
  rw [← pruned_of_differ inner left before after, ← holds]
  rfl

end Element

/-- Two evaluations that, in usual worlds, come to the same and were at the same stations outside an
element, as long as the element let them go on. -/
structure Step.SameOutside {World Answer : Type} (usual : World → Prop) (path : List Nat)
    (left right : Step World Answer) (leftStations rightStations : Run World → List Station) :
    Prop where
  leftStays : ∀ run, usual run.world → usual (left run).2.world
  rightStays : ∀ run, usual run.world → usual (right run).2.world
  same : ∀ run other, usual run.world → usual other.world →
    Station.DoneAt path (leftStations run) → Station.DoneAt path (rightStations other) →
      (left run).1 = (right other).1 ∧
        Station.outside path (leftStations run) = Station.outside path (rightStations other)

section SameOutside

variable {World Answer : Type} {setting : Setting World} {path : List Nat} {usual : World → Prop}

private theorem Step.Repeats.sameOutside {step : Step World Answer}
    {stations : Run World → List Station}
    (repeats : Step.Repeats usual step stations) (path : List Nat) :
    Step.SameOutside usual path step step stations stations where
  leftStays := repeats.stays
  rightStays := repeats.stays
  same := fun run other left right _ _ =>
    ⟨repeats.result run other left right, by rw [repeats.places run other left right]⟩

namespace Evaluation

private theorem inTurn_sameOutside {left right : Bindings → Step World Outcome}
    {leftStations rightStations : Bindings → Run World → List Station}
    (each : ∀ bindings, Step.SameOutside usual path (left bindings) (right bindings)
      (leftStations bindings) (rightStations bindings)) (items : List Bindings) :
    Step.SameOutside usual path (inTurn left items) (inTurn right items)
      (stationsInTurn left leftStations items) (stationsInTurn right rightStations items) := by
  induction items with
  | nil => exact ⟨fun _ begun => begun, fun _ begun => begun, fun _ _ _ _ _ _ => ⟨rfl, rfl⟩⟩
  | cons bindings rest ih =>
      have first := each bindings
      refine ⟨fun run begun => ?_, fun run begun => ?_, fun run other begun begunAgain => ?_⟩
      · rw [inTurn_cons]
        dsimp only
        split
        · exact first.leftStays run begun
        · exact ih.leftStays _ (first.leftStays run begun)
      · rw [inTurn_cons]
        dsimp only
        split
        · exact first.rightStays run begun
        · exact ih.rightStays _ (first.rightStays run begun)
      · intro leftDone rightDone
        rw [stationsInTurn, Station.doneAt_append] at leftDone rightDone
        obtain ⟨result, outside⟩ := first.same run other begun begunAgain leftDone.1 rightDone.1
        rw [inTurn_cons, inTurn_cons, stationsInTurn, stationsInTurn, Station.outside_append,
          Station.outside_append, outside]
        dsimp only at leftDone rightDone ⊢
        rw [result] at leftDone ⊢
        split at leftDone
        · rename_i stops
          rw [if_pos stops, if_pos stops, if_pos stops, if_pos stops]
          exact ⟨result, rfl⟩
        · rename_i passes
          rw [if_neg passes] at rightDone
          obtain ⟨same, later⟩ := ih.same _ _ (first.leftStays run begun)
            (first.rightStays other begunAgain) leftDone.2 rightDone.2
          rw [if_neg passes, if_neg passes, if_neg passes, if_neg passes, later]
          exact ⟨same, rfl⟩

private theorem stations_sameOutside_under {left right : Element}
    {leftBuild rightBuild : Builder World} {tokens : Tokens}
    (same : Step.SameOutside usual path (evaluate setting .standard leftBuild left tokens)
      (evaluate setting .standard rightBuild right tokens)
      (stations setting .standard leftBuild left tokens)
      (stations setting .standard rightBuild right tokens)) (index : Nat) :
    Step.SameOutside usual (index :: path) (evaluate setting .standard leftBuild left tokens)
      (evaluate setting .standard rightBuild right tokens)
      (fun run => (stations setting .standard leftBuild left tokens run).map (.under index))
      (fun run => (stations setting .standard rightBuild right tokens run).map (.under index)) := by
  refine ⟨same.leftStays, same.rightStays, fun run other begun begunAgain leftDone rightDone => ?_⟩
  obtain ⟨result, outside⟩ := same.same run other begun begunAgain
    ((Station.doneAt_under _ _ _).mp leftDone) ((Station.doneAt_under _ _ _).mp rightDone)
  rw [Station.outside_under, Station.outside_under, outside]
  exact ⟨result, rfl⟩

section Children

variable {consumed : List String} {index : Nat} {left right : Element}
  {leftRest rightRest : List Element} {tokens : Tokens}

private theorem consumed_sameOutside (leftTaken : consumed.contains left.name = true)
    (rightTaken : consumed.contains right.name = true)
    (later : Step.SameOutside usual path (evaluateAll setting .standard consumed leftRest tokens)
      (evaluateAll setting .standard consumed rightRest tokens)
      (stationsOf setting .standard consumed (index + 1) leftRest tokens)
      (stationsOf setting .standard consumed (index + 1) rightRest tokens)) :
    Step.SameOutside usual path (evaluateAll setting .standard consumed (left :: leftRest) tokens)
      (evaluateAll setting .standard consumed (right :: rightRest) tokens)
      (stationsOf setting .standard consumed index (left :: leftRest) tokens)
      (stationsOf setting .standard consumed index (right :: rightRest) tokens) := by
  have leftStations : stationsOf setting .standard consumed index (left :: leftRest) tokens =
      stationsOf setting .standard consumed (index + 1) leftRest tokens :=
    funext fun run => stationsOf_consumed leftTaken run
  have rightStations : stationsOf setting .standard consumed index (right :: rightRest) tokens =
      stationsOf setting .standard consumed (index + 1) rightRest tokens :=
    funext fun run => stationsOf_consumed rightTaken run
  rw [evaluateAll.eq_2, if_pos leftTaken, evaluateAll.eq_2, if_pos rightTaken, leftStations,
    rightStations]
  exact later

private theorem unknown_sameOutside (leftKept : consumed.contains left.name = false)
    (rightKept : consumed.contains right.name = false)
    (leftUnknown : (Registry.standard : Registry World).lookup? left.name = none)
    (rightUnknown : (Registry.standard : Registry World).lookup? right.name = none)
    (later : Step.SameOutside usual path (evaluateAll setting .standard consumed leftRest tokens)
      (evaluateAll setting .standard consumed rightRest tokens)
      (stationsOf setting .standard consumed (index + 1) leftRest tokens)
      (stationsOf setting .standard consumed (index + 1) rightRest tokens)) :
    Step.SameOutside usual path (evaluateAll setting .standard consumed (left :: leftRest) tokens)
      (evaluateAll setting .standard consumed (right :: rightRest) tokens)
      (stationsOf setting .standard consumed index (left :: leftRest) tokens)
      (stationsOf setting .standard consumed index (right :: rightRest) tokens) := by
  refine ⟨fun run begun => ?_, fun run begun => ?_, fun run other begun begunAgain => ?_⟩
  · rw [evaluateAll_unknown leftKept leftUnknown]
    exact later.leftStays _ begun
  · rw [evaluateAll_unknown rightKept rightUnknown]
    exact later.rightStays _ begun
  · rw [evaluateAll_unknown leftKept leftUnknown, evaluateAll_unknown rightKept rightUnknown,
      stationsOf_unknown leftKept leftUnknown, stationsOf_unknown rightKept rightUnknown]
    exact later.same _ _ begun begunAgain

private theorem known_sameOutside {leftBuild rightBuild : Builder World}
    (leftKept : consumed.contains left.name = false)
    (rightKept : consumed.contains right.name = false)
    (leftKnown : Registry.standard.lookup? left.name = some leftBuild)
    (rightKnown : Registry.standard.lookup? right.name = some rightBuild)
    (first : Step.SameOutside usual path (evaluate setting .standard leftBuild left tokens)
      (evaluate setting .standard rightBuild right tokens)
      (fun run => (stations setting .standard leftBuild left tokens run).map (.under index))
      (fun run => (stations setting .standard rightBuild right tokens run).map (.under index)))
    (later : ∀ scope, Step.SameOutside usual path
      (evaluateAll setting .standard consumed leftRest scope)
      (evaluateAll setting .standard consumed rightRest scope)
      (stationsOf setting .standard consumed (index + 1) leftRest scope)
      (stationsOf setting .standard consumed (index + 1) rightRest scope)) :
    Step.SameOutside usual path (evaluateAll setting .standard consumed (left :: leftRest) tokens)
      (evaluateAll setting .standard consumed (right :: rightRest) tokens)
      (stationsOf setting .standard consumed index (left :: leftRest) tokens)
      (stationsOf setting .standard consumed index (right :: rightRest) tokens) := by
  refine ⟨fun run begun => ?_, fun run begun => ?_, fun run other begun begunAgain => ?_⟩
  · rw [evaluateAll_known leftKept leftKnown]
    dsimp only
    split
    · exact first.leftStays run begun
    · exact (later _).leftStays _ (first.leftStays run begun)
  · rw [evaluateAll_known rightKept rightKnown]
    dsimp only
    split
    · exact first.rightStays run begun
    · exact (later _).rightStays _ (first.rightStays run begun)
  · intro leftDone rightDone
    rw [stationsOf_known leftKept leftKnown, Station.doneAt_append] at leftDone
    rw [stationsOf_known rightKept rightKnown, Station.doneAt_append] at rightDone
    obtain ⟨result, outside⟩ := first.same run other begun begunAgain leftDone.1 rightDone.1
    rw [evaluateAll_known leftKept leftKnown, evaluateAll_known rightKept rightKnown,
      stationsOf_known leftKept leftKnown, stationsOf_known rightKept rightKnown,
      Station.outside_append, Station.outside_append, outside]
    dsimp only at leftDone rightDone ⊢
    rw [result] at leftDone ⊢
    split at leftDone
    · rename_i stops
      rw [if_pos stops, if_pos stops, if_pos stops, if_pos stops]
      exact ⟨result, rfl⟩
    · rename_i passes
      rw [if_neg passes] at rightDone
      obtain ⟨same, outsideLater⟩ := (later _).same _ _ (first.leftStays run begun)
        (first.rightStays other begunAgain) leftDone.2 rightDone.2
      rw [if_neg passes, if_neg passes, if_neg passes, if_neg passes, outsideLater]
      exact ⟨same, rfl⟩

end Children

section Changed

variable {consumed : List String} {first second : Element} (settled : setting.Settled usual)
  (differ : first.DifferAt path second)
  (changed : ∀ (leftBuild rightBuild : Builder World) (tokens : Tokens),
    Registry.standard.lookup? first.name = some leftBuild →
      Registry.standard.lookup? second.name = some rightBuild →
        Step.SameOutside usual path (evaluate setting .standard leftBuild first tokens)
          (evaluate setting .standard rightBuild second tokens)
          (stations setting .standard leftBuild first tokens)
          (stations setting .standard rightBuild second tokens))
  (parameters : ∀ tag ∈ consumed, Registry.isBuiltIn tag = false)

include settled differ changed parameters

private theorem changed_first (rest : List Element) (tokens : Tokens) (index : Nat) :
    Step.SameOutside usual (index :: path)
      (evaluateAll setting .standard consumed (first :: rest) tokens)
      (evaluateAll setting .standard consumed (second :: rest) tokens)
      (stationsOf setting .standard consumed index (first :: rest) tokens)
      (stationsOf setting .standard consumed index (second :: rest) tokens) := by
  have later (scope : Tokens) := ((repeats settled).2 consumed rest scope (index + 1)).sameOutside
    (index :: path)
  have taken : consumed.contains second.name = consumed.contains first.name := by
    rcases differ.isBuiltIn with heads | ⟨left, right⟩
    · exact congrArg (fun head => consumed.contains head.name) heads.symm
    · rw [Registry.not_consumed parameters left, Registry.not_consumed parameters right]
  have registered : ((Registry.standard : Registry World).lookup? second.name).isSome =
      ((Registry.standard : Registry World).lookup? first.name).isSome := differ.registered
  cases consumes : consumed.contains first.name with
  | true => exact consumed_sameOutside consumes (taken.trans consumes) (later tokens)
  | false =>
      cases known : (Registry.standard : Registry World).lookup? first.name with
      | none =>
          rw [known, Option.isSome_none, Option.isSome_eq_false_iff, Option.isNone_iff_eq_none]
            at registered
          exact unknown_sameOutside consumes (taken.trans consumes) known registered (later tokens)
      | some build =>
          rw [known, Option.isSome_some, Option.isSome_iff_exists] at registered
          obtain ⟨again, knownAgain⟩ := registered
          exact known_sameOutside consumes (taken.trans consumes) known knownAgain
            (stations_sameOutside_under (changed build again tokens known knownAgain) index) later

private theorem changed_child (before after : List Element) (tokens : Tokens) (index : Nat) :
    Step.SameOutside usual ((index + before.length) :: path)
      (evaluateAll setting .standard consumed (before ++ first :: after) tokens)
      (evaluateAll setting .standard consumed (before ++ second :: after) tokens)
      (stationsOf setting .standard consumed index (before ++ first :: after) tokens)
      (stationsOf setting .standard consumed index (before ++ second :: after) tokens) := by
  induction before generalizing tokens index with
  | nil => exact changed_first settled differ changed parameters after tokens index
  | cons child rest ih =>
      have shift : index + (child :: rest).length = index + 1 + rest.length := by
        rw [List.length_cons]
        omega
      rw [shift, List.cons_append, List.cons_append]
      cases consumes : consumed.contains child.name with
      | true => exact consumed_sameOutside consumes consumes (ih tokens (index + 1))
      | false =>
          cases known : (Registry.standard : Registry World).lookup? child.name with
          | none => exact unknown_sameOutside consumes consumes known known (ih tokens (index + 1))
          | some build =>
              have same := (repeats settled).1 build child tokens known
              refine known_sameOutside consumes consumes known known
                ⟨same.stays, same.stays, fun run other left right _ _ => ?_⟩
                fun scope => ih scope (index + 1)
              exact ⟨same.result run other left right, by rw [same.places run other left right]⟩

end Changed

private theorem stationsOf_below (consumed : List String) (index : Nat) (children : List Element)
    (tokens : Tokens) (run : Run World) :
    ∀ station ∈ stationsOf setting .standard consumed index children tokens run,
      station.path ≠ [] := by
  induction children generalizing index tokens run with
  | nil =>
      rw [stationsOf]
      intro station member
      cases member
  | cons child rest ih =>
      cases consumes : consumed.contains child.name with
      | true =>
          rw [stationsOf_consumed consumes]
          exact ih _ _ _
      | false =>
          cases known : (Registry.standard : Registry World).lookup? child.name with
          | none =>
              rw [stationsOf_unknown consumes known]
              exact ih _ _ _
          | some build =>
              rw [stationsOf_known consumes known]
              intro station member
              rcases List.mem_append.mp member with first | later
              · obtain ⟨inner, _, rfl⟩ := List.mem_map.mp first
                exact List.cons_ne_nil _ _
              · split at later
                · cases later
                · exact ih _ _ _ station later

private theorem stationsInTurn_below {evaluate : Bindings → Step World Outcome}
    {stations : Bindings → Run World → List Station}
    (below : ∀ bindings run, ∀ station ∈ stations bindings run, station.path ≠ [])
    (items : List Bindings) (run : Run World) :
    ∀ station ∈ stationsInTurn evaluate stations items run, station.path ≠ [] := by
  induction items generalizing run with
  | nil => nofun
  | cons bindings rest ih =>
      rw [stationsInTurn]
      intro station member
      rcases List.mem_append.mp member with first | later
      · exact below bindings run station first
      · split at later
        · cases later
        · exact ih _ station later

section Elements

variable {left right : Element} {build : Builder World} {tokens : Tokens}

private theorem filter_done (filters : (Filter.build? left.name).isSome)
    (known : Registry.standard.lookup? left.name = some build) (run : Run World)
    (done : Station.DoneAt [] (stations setting .standard build left tokens run)) :
    (evaluate setting .standard build left tokens run).1 = (.done, tokens) ∧
      Station.outside [] (stations setting .standard build left tokens run) =
        [⟨[], tokens, .done, []⟩] := by
  cases built : build left with
  | error error =>
      rw [stations_single (by rw [built]; nofun), evaluate_unbuilt built] at done
      cases done _ List.mem_cons_self rfl
  | ok rule =>
      obtain ⟨filter, rfl⟩ := Registry.standard_filter filters known built
      rcases selected : (filter.condition.select setting tokens).run (left.enter run) with
        ⟨failure | _ | ⟨bindings, rest⟩, after⟩
      · rw [(filter_unselected built selected).2] at done
        cases done _ List.mem_cons_self rfl
      · rw [(filter_unmatched built selected).1, (filter_unmatched built selected).2]
        exact ⟨rfl, rfl⟩
      · have some := List.cons_ne_nil bindings rest
        rw [(filter_matched built some selected).2] at done
        have ended := done _ List.mem_cons_self rfl
        dsimp only at ended
        rw [(filter_matched built some selected).1, (filter_matched built some selected).2, ended]
        refine ⟨rfl, List.filter_cons_of_pos rfl |>.trans (congrArg _ ?_)⟩
        refine List.filter_eq_nil_iff.mpr fun station member => ?_
        have below := stationsInTurn_below
          (fun bindings => stationsOf_below filter.consumed 0 left.children _) _ _ station member
        simp [Station.isInside, below]

private theorem item_sameOutside {consumed : List String}
    {leftChildren rightChildren : List Element} (each : ∀ scope, Step.SameOutside usual path
      (evaluateAll setting .standard consumed leftChildren scope)
      (evaluateAll setting .standard consumed rightChildren scope)
      (stationsOf setting .standard consumed 0 leftChildren scope)
      (stationsOf setting .standard consumed 0 rightChildren scope)) (bindings : Bindings) :
    Step.SameOutside usual path
      (evaluateItem setting .standard consumed leftChildren tokens bindings)
      (evaluateItem setting .standard consumed rightChildren tokens bindings)
      (stationsOf setting .standard consumed 0 leftChildren (tokens.setAll bindings))
      (stationsOf setting .standard consumed 0 rightChildren (tokens.setAll bindings)) := by
  have item := each (tokens.setAll bindings)
  refine ⟨item.leftStays, item.rightStays,
    fun run other begun begunAgain leftDone rightDone => ?_⟩
  obtain ⟨result, outside⟩ := item.same run other begun begunAgain leftDone rightDone
  exact ⟨congrArg (fun ended => ended.1) result, outside⟩

theorem shallow (setting : Setting World) (tokens : Tokens) (heads : left.head = right.head)
    (same : build left = build right) (other : ∀ filter, build left ≠ .ok (.filter filter)) :
    evaluate setting .standard build left tokens = evaluate setting .standard build right tokens ∧
      stations setting .standard build left tokens =
        stations setting .standard build right tokens := by
  have evaluated : evaluate setting .standard build left tokens =
      evaluate setting .standard build right tokens := by
    obtain ⟨name, attributes, text, children, span⟩ := left
    obtain ⟨name', attributes', text', children', span'⟩ := right
    simp only [Element.head, Element.mk.injEq, true_and] at heads
    obtain ⟨rfl, rfl, rfl, rfl⟩ := heads
    rw [evaluate.eq_1, evaluate.eq_1, ← same]
    split <;> rename_i built
    · rfl
    · rfl
    · rfl
    · exact absurd built (other _)
  refine ⟨evaluated, funext fun run => ?_⟩
  rw [stations_single other, stations_single (same ▸ other), evaluated]

private theorem filter_sameOutside (settled : setting.Settled usual) {filter : Filter} {index : Nat}
    (leftKnown : Registry.standard.lookup? left.name = some build)
    (rightKnown : Registry.standard.lookup? right.name = some build)
    (leftBuilt : build left = .ok (.filter filter))
    (rightBuilt : build right = .ok (.filter filter))
    (each : ∀ scope, Step.SameOutside usual (index :: path)
      (evaluateAll setting .standard filter.consumed left.children scope)
      (evaluateAll setting .standard filter.consumed right.children scope)
      (stationsOf setting .standard filter.consumed 0 left.children scope)
      (stationsOf setting .standard filter.consumed 0 right.children scope)) :
    Step.SameOutside usual (index :: path) (evaluate setting .standard build left tokens)
      (evaluate setting .standard build right tokens)
      (stations setting .standard build left tokens)
      (stations setting .standard build right tokens) := by
  refine ⟨((repeats settled).1 build left tokens leftKnown).stays,
    ((repeats settled).1 build right tokens rightKnown).stays,
    fun run other begun begunAgain leftDone rightDone => ?_⟩
  have selects := settled.selects tokens filter.condition (left.enter run) (right.enter other)
    begun begunAgain
  rcases selected : (filter.condition.select setting tokens).run (left.enter run) with
    ⟨chosen, after⟩
  rcases again : (filter.condition.select setting tokens).run (right.enter other) with
    ⟨chosenAgain, later⟩
  rw [selected, again] at selects
  obtain ⟨same, stays, staysAgain⟩ := selects
  obtain rfl : chosen = chosenAgain := same
  rcases chosen with failure | _ | ⟨bindings, rest⟩
  · rw [(filter_unselected leftBuilt selected).1, (filter_unselected leftBuilt selected).2,
      (filter_unselected rightBuilt again).1, (filter_unselected rightBuilt again).2]
    exact ⟨rfl, rfl⟩
  · rw [(filter_unmatched leftBuilt selected).1, (filter_unmatched leftBuilt selected).2,
      (filter_unmatched rightBuilt again).1, (filter_unmatched rightBuilt again).2]
    exact ⟨rfl, rfl⟩
  · have some := List.cons_ne_nil bindings rest
    rw [(filter_matched leftBuilt some selected).2] at leftDone ⊢
    rw [(filter_matched rightBuilt some again).2] at rightDone ⊢
    rw [(filter_matched leftBuilt some selected).1, (filter_matched rightBuilt some again).1]
    obtain ⟨result, outside⟩ := (inTurn_sameOutside (item_sameOutside each)
      (filter.chosen (bindings :: rest))).same after later stays staysAgain
      (fun station member => leftDone station (List.mem_cons_of_mem _ member))
      (fun station member => rightDone station (List.mem_cons_of_mem _ member))
    dsimp only
    rw [result]
    refine ⟨rfl, ?_⟩
    refine (List.filter_cons_of_pos rfl).trans ((congrArg _ outside).trans ?_)
    exact (List.filter_cons_of_pos rfl).symm

end Elements

private theorem element_sameOutside (settled : setting.Settled usual) {path : List Nat}
    {left right : Element} (differ : left.DifferAt path right)
    {leftBuild rightBuild : Builder World} {tokens : Tokens}
    (leftKnown : Registry.standard.lookup? left.name = some leftBuild)
    (rightKnown : Registry.standard.lookup? right.name = some rightBuild) :
    Step.SameOutside usual path (evaluate setting .standard leftBuild left tokens)
      (evaluate setting .standard rightBuild right tokens)
      (stations setting .standard leftBuild left tokens)
      (stations setting .standard rightBuild right tokens) := by
  induction path generalizing left right leftBuild rightBuild tokens with
  | nil =>
      refine ⟨((repeats settled).1 _ _ _ leftKnown).stays,
        ((repeats settled).1 _ _ _ rightKnown).stays, fun run other _ _ leftDone rightDone => ?_⟩
      obtain ⟨leftResult, leftOutside⟩ := filter_done differ.1 leftKnown run leftDone
      obtain ⟨rightResult, rightOutside⟩ := filter_done differ.2 rightKnown other rightDone
      exact ⟨leftResult.trans rightResult.symm, leftOutside.trans rightOutside.symm⟩
  | cons index path ih =>
      obtain ⟨heads, pruned⟩ := differ.alike
      obtain ⟨before, first, second, after, holds, changed, rfl, inner⟩ := differ
      have named : right.name = left.name := by rw [changed]
      rw [named, leftKnown] at rightKnown
      cases rightKnown
      have same : leftBuild left = leftBuild right := by
        rw [← Registry.standard_pruned leftKnown left, ← Registry.standard_pruned leftKnown right,
          pruned]
      by_cases filters : ∃ filter, leftBuild left = .ok (.filter filter)
      · obtain ⟨filter, built⟩ := filters
        refine filter_sameOutside settled leftKnown (named ▸ leftKnown) built
          (same.symm.trans built) fun scope => ?_
        have child := changed_child settled inner
          (fun leftBuild rightBuild scope known knownAgain => ih inner known knownAgain)
          (Registry.standard_consumed leftKnown built) before after scope 0
        rw [Nat.zero_add] at child
        rw [holds, changed]
        exact child
      · obtain ⟨evaluated, stationed⟩ := shallow setting tokens heads same
          fun filter built => filters ⟨filter, built⟩
        rw [← evaluated, ← stationed]
        exact ((repeats settled).1 leftBuild left tokens leftKnown).sameOutside _

private theorem stationsInTurn_processed {evaluate : Bindings → Step World Outcome}
    {stations : Bindings → Run World → List Station} (items : List Bindings) (run : Run World) :
    ∃ processed : List (Bindings × Run World), processed.map Prod.fst <+: items ∧
      stationsInTurn evaluate stations items run =
        processed.flatMap fun item => stations item.1 item.2 := by
  induction items generalizing run with
  | nil => exact ⟨[], List.nil_prefix, rfl⟩
  | cons bindings rest ih =>
      rw [stationsInTurn]
      split
      · refine ⟨[(bindings, run)], ⟨rest, rfl⟩, ?_⟩
        rw [List.append_nil, List.flatMap_singleton]
      · obtain ⟨processed, listed, same⟩ := ih (evaluate bindings run).2
        refine ⟨(bindings, run) :: processed, List.cons_prefix_cons.mpr ⟨rfl, listed⟩, ?_⟩
        rw [same, List.flatMap_cons]

/-- What a run adds at its end that comes to an outcome. -/
def ending (setting : Setting World) (outcome : Outcome) : Journal :=
  match outcome, setting.channel with
  | .internal _, .working => [.told (internalMessage ++ "\n")]
  | _, _ => []

private theorem run_effects (setting : Setting World) (root : Element) (tokens : Tokens)
    (run : Run World) :
    Journal.effects (Evaluation.run setting .standard root tokens run).2.journal =
      Journal.effects (execute setting .standard root tokens run).2.journal ++
        ending setting (Evaluation.run setting .standard root tokens run).1.1 := by
  rw [run_result, Evaluation.run, Step.run_bind]
  rcases execute setting .standard root tokens run with ⟨⟨outcome, final⟩, after⟩
  cases outcome with
  | code value => exact (List.append_nil _).symm
  | internal failure =>
      change Journal.effects (tellInternal setting after).2.journal = _
      unfold tellInternal ending
      cases setting.channel with
      | working => exact Journal.effects_append _ _
      | broken cause => exact (after.effects_note _).trans (List.append_nil _).symm

private theorem stationsAt_known {root : Element} {build : Builder World} {tokens : Tokens}
    (known : Registry.standard.lookup? root.name = some build) (run : Run World) :
    stationsAt setting .standard root tokens run =
      stations setting .standard build root tokens run := by
  rw [stationsAt, known]

theorem run_effectsSince (settled : setting.Settled usual) (root : Element) (tokens : Tokens)
    {run : Run World} (begun : usual run.world) :
    run.effectsSince (Evaluation.run setting .standard root tokens run).2 =
      Station.effectsOf (stationsAt setting .standard root tokens run) ++
        ending setting (Evaluation.run setting .standard root tokens run).1.1 := by
  refine Run.effectsSince_eq ?_
  rw [run_effects, ← List.append_assoc]
  congr 1
  cases known : (Registry.standard : Registry World).lookup? root.name with
  | none =>
      rw [execute_unknown known, Run.effects_blame, stationsAt, known]
      exact (List.append_nil _).symm
  | some build =>
      rw [execute_known known, stationsAt_known known]
      exact ((repeats settled).1 build root tokens known).effects run begun

/-- Two runs of documents that differ at a place. They come to the same, and elsewhere the same
elements were evaluated with the same tokens and had the same effects. -/
structure Undisturbed (setting : Setting World) (path : List Nat) (left right : Element)
    (tokens : Tokens) (run : Run World) : Prop where
  visited : ∀ root ∈ [left, right], ∃ visits, Visits setting .standard root tokens run visits ∧
    (stationsAt setting .standard root tokens run).map (Station.visit? root) = visits.map some
  result : (Evaluation.run setting .standard left tokens run).1 =
    (Evaluation.run setting .standard right tokens run).1
  elsewhere : Station.outside path (stationsAt setting .standard left tokens run) =
    Station.outside path (stationsAt setting .standard right tokens run)
  effects : ∀ root ∈ [left, right],
    run.effectsSince (Evaluation.run setting .standard root tokens run).2 =
      Station.effectsOf (stationsAt setting .standard root tokens run) ++
        ending setting (Evaluation.run setting .standard left tokens run).1.1

/-- The items of a filter are evaluated apart from each other and from what comes after the filter:
each begins with the filter's own tokens, and where nothing else changes in between, it is as if it
were the only one. -/
structure ItemsApart (setting : Setting World) (build : Builder World) (element : Element)
    (filter : Filter) (tokens : Tokens) (run : Run World) : Prop where
  scope : (evaluate setting .standard build element tokens run).1.2 = tokens
  stations : ∃ processed : List (Bindings × Run World),
    (∀ items, ((filter.condition.select setting tokens).run (element.enter run)).1 = .ok items →
      processed.map Prod.fst <+: filter.chosen items) ∧
    stations setting .standard build element tokens run =
      ⟨[], tokens, (evaluate setting .standard build element tokens run).1.1, []⟩ ::
        processed.flatMap fun item => stationsOf setting .standard filter.consumed 0
          element.children (tokens.setAll item.1) item.2
  apart : ∀ usual, setting.Settled usual → usual run.world → ∀ bindings other, usual other.world →
    stationsOf setting .standard filter.consumed 0 element.children (tokens.setAll bindings) other =
      stationsOf setting .standard filter.consumed 0 element.children (tokens.setAll bindings) run

private theorem undisturbed (settled : setting.Settled usual) {left right : Element}
    (differ : left.DifferAt path right) {tokens : Tokens} {run : Run World}
    (begun : usual run.world)
    (leftDone : Station.DoneAt path (stationsAt setting .standard left tokens run))
    (rightDone : Station.DoneAt path (stationsAt setting .standard right tokens run)) :
    Undisturbed setting path left right tokens run := by
  have same : (Evaluation.run setting .standard left tokens run).1 =
        (Evaluation.run setting .standard right tokens run).1 ∧
      Station.outside path (stationsAt setting .standard left tokens run) =
        Station.outside path (stationsAt setting .standard right tokens run) := by
    rw [run_result, run_result]
    have registered : ((Registry.standard : Registry World).lookup? right.name).isSome =
        ((Registry.standard : Registry World).lookup? left.name).isSome := differ.registered
    cases known : (Registry.standard : Registry World).lookup? left.name with
    | none =>
        have heads : left.head = right.head := differ.isBuiltIn.resolve_right fun builtIn => by
          rw [← @Registry.standard_lookup?_isSome World, known] at builtIn
          cases builtIn.1
        have named : right.name = left.name := congrArg (fun head => head.name) heads.symm
        have placed : right.span = left.span := congrArg (fun head => head.span) heads.symm
        have unknown : (Registry.standard : Registry World).lookup? right.name = none :=
          named ▸ known
        rw [stationsAt, stationsAt, known, unknown, execute_unknown known, execute_unknown unknown,
          named, placed]
        exact ⟨rfl, rfl⟩
    | some build =>
        rw [known, Option.isSome_some, Option.isSome_iff_exists] at registered
        obtain ⟨again, knownAgain⟩ := registered
        rw [stationsAt_known known] at leftDone ⊢
        rw [stationsAt_known knownAgain] at rightDone ⊢
        rw [execute_known known, execute_known knownAgain]
        exact (element_sameOutside settled differ known knownAgain).same run run begun begun
          leftDone rightDone
  refine ⟨fun root _ => ?_, same.1, same.2, fun root member => ?_⟩
  · obtain ⟨visits, visited⟩ := visits_exist setting .standard root tokens run
    exact ⟨visits, visited, visited.stationed⟩
  · rcases List.mem_cons.mp member with rfl | member
    · exact run_effectsSince settled root tokens begun
    · rw [List.mem_singleton.mp member, same.1]
      exact run_effectsSince settled right tokens begun

private theorem itemsApart {build : Builder World} {element : Element} {filter : Filter}
    (built : build element = .ok (.filter filter)) (tokens : Tokens) (run : Run World) :
    ItemsApart setting build element filter tokens run := by
  refine ⟨?_, ?_, fun usual settled begun bindings other again =>
    ((repeats settled).2 filter.consumed element.children _ 0).places other run again begun⟩
  · rw [evaluate_filter built]
    rcases (filter.condition.select setting tokens).run (element.enter run) with
      ⟨failure | _ | ⟨bindings, rest⟩, after⟩ <;> rfl
  · rcases selected : (filter.condition.select setting tokens).run (element.enter run) with
      ⟨failure | _ | ⟨bindings, rest⟩, after⟩
    · rw [(filter_unselected built selected).1, (filter_unselected built selected).2]
      exact ⟨[], nofun, rfl⟩
    · rw [(filter_unmatched built selected).1, (filter_unmatched built selected).2]
      exact ⟨[], fun items _ => List.nil_prefix, rfl⟩
    · have some := List.cons_ne_nil bindings rest
      rw [(filter_matched built some selected).1, (filter_matched built some selected).2]
      obtain ⟨processed, listed, same⟩ :=
        stationsInTurn_processed (filter.chosen (bindings :: rest)) after
      refine ⟨processed, fun _ chosen => ?_, congrArg _ same⟩
      cases chosen
      exact listed

end Evaluation

end SameOutside

/-- A filter keeps what happens inside it to itself. Where a document is changed inside a filter
that lets the evaluation go on before and after, nothing else is different; the items of a filter do
not see each other's tokens, and what comes after it sees none of them. -/
theorem filters_isolate {World : Type} (setting : Setting World) :
    (∀ usual, setting.Settled usual → ∀ path left right tokens run, usual run.world →
      Element.DifferAt path left right →
      Station.DoneAt path (Evaluation.stationsAt setting .standard left tokens run) →
      Station.DoneAt path (Evaluation.stationsAt setting .standard right tokens run) →
      Evaluation.Undisturbed setting path left right tokens run) ∧
    ∀ build element filter tokens run, build element = .ok (.filter filter) →
      Evaluation.ItemsApart setting build element filter tokens run := by
  constructor
  · intro usual settled path left right tokens run begun differ leftDone rightDone
    exact Evaluation.undisturbed settled differ begun leftDone rightDone
  · intro build element filter tokens run built
    exact Evaluation.itemsApart built tokens run

theorem Setting.onPaper_settled (answers : Answers) (event : Event) :
    (Setting.onPaper answers event).Settled fun _ => True where
  asked question first second _ _ := by
    rw [Setting.onPaper, Answers.answer_facts]
    exact ⟨rfl, trivial⟩
  executed _ _ _ _ _ _ := ⟨rfl, trivial, trivial⟩
  wrote _ _ _ _ _ _ := ⟨rfl, trivial, trivial⟩
  mailed _ _ _ _ _ := ⟨rfl, trivial, trivial⟩

/-- Setting a token inside a filter makes no difference to what is written after the filter. -/
theorem written_path_undisturbed :
    let event : Event := { (default : Event) with subject := .revision 5, steal := some true }
    let setting := Setting.onPaper .none event
    let say (value : String) : Element := ⟨"SetToken", [("name", "Path")], some value, [], .nowhere⟩
    let root (children : List Element) : Element := ⟨"Actions", [], none,
      [say "kept", ⟨"FilterStealLock", [], none, [⟨"Actions", [], none, children, .nowhere⟩,
        ⟨"SetRevisionFile", [], some "${Path}", [], .nowhere⟩], .nowhere⟩], .nowhere⟩
    let left := root [say "lost"]
    let right := root []
    let ended := Evaluation.run setting .standard left .empty ⟨(), []⟩
    ended.1.1 = .done ∧ Journal.effects ended.2.journal = [.wrote "kept" "5\n"] ∧
      Evaluation.Undisturbed setting [1, 0] left right .empty ⟨(), []⟩ := by
  intro event setting say root left right ended
  have differ : left.DifferAt [1, 0] right :=
    ⟨[_], _, _, [], rfl, rfl, rfl, [], _, _, [_], rfl, rfl, rfl, rfl, rfl⟩
  have done (root : Element) (stationed : ∀ station ∈ Evaluation.stationsAt setting .standard root
      .empty ⟨(), []⟩, station.path = [1, 0] → station.outcome = .done) :
      Station.DoneAt [1, 0] (Evaluation.stationsAt setting .standard root .empty ⟨(), []⟩) :=
    stationed
  refine ⟨by decide +kernel, by decide +kernel, ?_⟩
  exact (filters_isolate setting).1 _ (Setting.onPaper_settled .none event) [1, 0] left right .empty
    ⟨(), []⟩ trivial differ (done left (by decide +kernel)) (done right (by decide +kernel))

end HookRules

import HookRules.Proofs.Run.Mirror

/-!
Children that belong to a rule are inert. A document without everything that no rule reads comes to
the same, so nothing that stands inside a parameter, an action or an unknown element is evaluated.
-/

set_option autoImplicit false

namespace HookRules

namespace Element

mutual

/-- The element without what no rule reads: a filter keeps the children that belong to it and those
that are rules, any other element the children that belong to it. -/
def erased : Element → Element
  | ⟨name, attributes, text, children, span⟩ =>
    ⟨name, attributes, text,
      erasedWithin (Registry.tags name) (Filter.build? name).isSome children, span⟩

/-- The children that are kept. Those of the tags lose all that they hold; others are kept if they
are rules and their parent evaluates rules. -/
def erasedWithin (tags : List String) (evaluates : Bool) : List Element → List Element
  | [] => []
  | child :: rest =>
    if tags.contains child.name then child.head :: erasedWithin tags evaluates rest
    else if evaluates && Registry.isBuiltIn child.name then
      erased child :: erasedWithin tags evaluates rest
    else erasedWithin tags evaluates rest

end

@[simp] theorem name_erased (element : Element) : element.erased.name = element.name := by
  obtain ⟨name, attributes, text, children, span⟩ := element
  rw [erased]

@[simp] theorem span_erased (element : Element) : element.erased.span = element.span := by
  obtain ⟨name, attributes, text, children, span⟩ := element
  rw [erased]

private theorem children_erased (element : Element) : element.erased.children =
    erasedWithin (Registry.tags element.name) (Filter.build? element.name).isSome
      element.children := by
  obtain ⟨name, attributes, text, children, span⟩ := element
  rw [erased]

private theorem tags_erasedWithin (tags : List String) (evaluates : Bool)
    (children : List Element) :
    ((erasedWithin tags evaluates children).filter fun child => tags.contains child.name).map head =
      (children.filter fun child => tags.contains child.name).map head := by
  induction children with
  | nil => rw [erasedWithin]
  | cons child rest ih =>
      rw [erasedWithin]
      split
      · rename_i taken
        have bare : tags.contains child.head.name = true := taken
        simp only [List.filter_cons, taken, bare, if_true, List.map_cons, ih]
        rfl
      · rename_i other
        split
        · simp only [List.filter_cons, name_erased, other, Bool.false_eq_true, if_false, ih]
        · simp only [List.filter_cons, other, Bool.false_eq_true, if_false, ih]

private theorem paredTo_erased (element : Element) :
    element.erased.paredTo (Registry.tags element.name).contains =
      element.paredTo (Registry.tags element.name).contains := by
  have children := tags_erasedWithin (Registry.tags element.name)
    (Filter.build? element.name).isSome element.children
  rw [← children_erased] at children
  obtain ⟨name, attributes, text, held, span⟩ := element
  rw [paredTo, children, erased]
  rfl

private theorem live_erasedWithin (tags : List String) (children : List Element) :
    (erasedWithin tags true children).filter (live tags) =
      (children.filter (live tags)).map erased := by
  induction children with
  | nil => rw [erasedWithin]; rfl
  | cons child rest ih =>
      rw [erasedWithin]
      split
      · rename_i taken
        have dead : child.live tags = false := dead_of_consumed taken
        have bare : child.head.live tags = false := dead
        rw [List.filter_cons_of_neg (by simp [bare]), List.filter_cons_of_neg (by simp [dead]), ih]
      · rename_i other
        split
        · rename_i builtIn
          have alive : child.live tags = true := by
            rw [live, Bool.eq_false_iff.mpr other]
            exact builtIn
          have image : child.erased.live tags = true := by
            rw [live, name_erased]
            exact alive
          rw [List.filter_cons_of_pos image, List.filter_cons_of_pos alive, List.map_cons, ih]
        · rename_i unknown
          have dead : child.live tags = false := by
            rw [live, Bool.eq_false_iff.mpr other]
            exact Bool.eq_false_iff.mpr unknown
          rw [List.filter_cons_of_neg (by simp [dead]), ih]

theorem mirror_erased : Mirror fun left right => right = left.erased where
  name := by
    rintro left _ rfl
    exact left.name_erased.symm
  span := by
    rintro left _ rfl
    exact left.span_erased.symm
  built := by
    rintro left _ World build rfl known
    have kept : ∀ tag ∈ Registry.tags left.name,
        (Registry.tags left.name).contains tag = true := by
      intro tag member
      exact List.contains_iff_mem.mpr member
    rw [← Registry.standard_paredTo known kept left, ← paredTo_erased,
      Registry.standard_paredTo known kept]
  inside := by
    rintro left _ filter rfl makes
    obtain ⟨build, known⟩ : ∃ build, (Registry.standard : Registry Unit).lookup? left.name =
        some build := makes.known
    have own : filter.consumed = Registry.tags left.name :=
      Registry.standard_tags known (makes.built known)
    obtain ⟨make, selected, _⟩ := makes
    rw [LiveAlike, children_erased, selected, own]
    rw [Option.isSome_some, live_erasedWithin, List.forall₂_map_right_iff]
    exact List.forall₂_same.mpr fun _ _ => rfl

/-- The path leads to a rule, by filters alone, and by no child that belongs to one of them. -/
inductive Descends : Element → List Nat → Prop
  | here {element} : Registry.isBuiltIn element.name = true → Descends element []
  | inside {element child : Element} {index path} :
      (Filter.build? element.name).isSome = true → element.children[index]? = some child →
      (Registry.tags element.name).contains child.name = false → Descends child path →
      Descends element (index :: path)

/-- The path leads by one of the children, of which the first one has the given number. -/
def DescendsBy (consumed : List String) (index : Nat) (children : List Element) (path : List Nat) :
    Prop :=
  ∃ offset child rest, path = (index + offset) :: rest ∧ children[offset]? = some child ∧
    consumed.contains child.name = false ∧ child.Descends rest

theorem DescendsBy.behind {consumed : List String} {index : Nat} {children : List Element}
    {path : List Nat} (descends : DescendsBy consumed (index + 1) children path) (child : Element) :
    DescendsBy consumed index (child :: children) path := by
  obtain ⟨offset, target, rest, rfl, found, kept, below⟩ := descends
  refine ⟨offset + 1, target, rest, ?_, found, kept, below⟩
  rw [Nat.add_assoc, Nat.add_comm 1]

end Element

namespace Evaluation

variable {World : Type}

private theorem mem_stationsInTurn {evaluate : Bindings → Step World Outcome}
    {stations : Bindings → Run World → List Station} {items : List Bindings} {run : Run World}
    {station : Station} (member : station ∈ stationsInTurn evaluate stations items run) :
    ∃ bindings middle, station ∈ stations bindings middle := by
  induction items generalizing run with
  | nil => cases member
  | cons bindings rest ih =>
      rw [stationsInTurn] at member
      rcases List.mem_append.mp member with first | later
      · exact ⟨bindings, run, first⟩
      · split at later
        · cases later
        · exact ih later

private theorem filter_descends {setting : Setting World} {build : Builder World}
    {element : Element} {filter : Filter} {tokens : Tokens}
    (known : Registry.standard.lookup? element.name = some build)
    (built : build element = .ok (.filter filter))
    (children : ∀ bindings run, ∀ station ∈ stationsOf setting .standard filter.consumed 0
      element.children (tokens.setAll bindings) run,
      Element.DescendsBy filter.consumed 0 element.children station.path)
    (run : Run World) :
    ∀ station ∈ stations setting .standard build element tokens run,
      element.Descends station.path := by
  have own : element.Descends [] := by
    apply Element.Descends.here
    rw [← @Registry.standard_lookup?_isSome World, known]
    rfl
  have filters : (Filter.build? element.name).isSome = true := by
    obtain ⟨make, selected, _⟩ := Registry.standard_makes known built
    rw [selected]
    rfl
  intro station member
  rcases selected : (filter.condition.select setting tokens).run (element.enter run) with
    ⟨failure | _ | ⟨bindings, rest⟩, after⟩
  · rw [(filter_unselected built selected).2] at member
    obtain rfl := List.mem_singleton.mp member
    exact own
  · rw [(filter_unmatched built selected).2] at member
    obtain rfl := List.mem_singleton.mp member
    exact own
  · rw [(filter_matched built (List.cons_ne_nil _ _) selected).2] at member
    rcases List.mem_cons.mp member with rfl | inner
    · exact own
    · obtain ⟨bindings, middle, found⟩ := mem_stationsInTurn inner
      obtain ⟨offset, child, path, leads, place, kept, below⟩ :=
        children bindings middle station found
      rw [Registry.standard_tags known built] at kept
      rw [leads, Nat.zero_add]
      exact .inside filters place kept below

theorem stations_descend (setting : Setting World) :
    (∀ (build : Builder World) (element : Element) (tokens : Tokens),
      Registry.standard.lookup? element.name = some build → ∀ run,
        ∀ station ∈ stations setting .standard build element tokens run,
          element.Descends station.path) ∧
    (∀ (consumed : List String) (children : List Element) (tokens : Tokens) (index : Nat) run,
      ∀ station ∈ stationsOf setting .standard consumed index children tokens run,
        Element.DescendsBy consumed index children station.path) := by
  apply evaluate.mutual_induct Registry.standard
  · intro build name attributes text children span tokens childrenDescend known run
    have registered : Registry.isBuiltIn name = true := by
      rw [← @Registry.standard_lookup?_isSome World, known]
      rfl
    by_cases filters :
        ∃ filter, build ⟨name, attributes, text, children, span⟩ = .ok (.filter filter)
    · obtain ⟨filter, built⟩ := filters
      exact filter_descends known built (fun bindings => childrenDescend filter bindings 0) run
    · have other (filter : Filter) :
          build ⟨name, attributes, text, children, span⟩ ≠ .ok (.filter filter) :=
        fun built => filters ⟨filter, built⟩
      intro station member
      rw [stations_single other] at member
      obtain rfl := List.mem_singleton.mp member
      exact .here registered
  · intro consumed tokens index run station member
    rw [stationsOf] at member
    cases member
  · intro consumed child rest tokens taken restDescend index run station member
    rw [stationsOf_consumed taken] at member
    exact (restDescend (index + 1) run station member).behind child
  · intro consumed child rest tokens kept unknown restDescend index run station member
    have remains : consumed.contains child.name = false := by simpa using kept
    rw [stationsOf_unknown remains unknown] at member
    exact (restDescend (index + 1) _ station member).behind child
  · intro consumed child rest tokens kept build known childDescend restDescend index run station
      member
    have remains : consumed.contains child.name = false := by simpa using kept
    rw [stationsOf_known remains known] at member
    rcases List.mem_append.mp member with first | later
    · obtain ⟨inner, found, rfl⟩ := List.mem_map.mp first
      exact ⟨0, child, inner.path, rfl, rfl, remains, childDescend known run inner found⟩
    · split at later
      · cases later
      · exact (restDescend _ (index + 1) _ station later).behind child

end Evaluation

variable {World : Type}

/-- Whether the entry is more than a notice that a child is passed over. -/
def Entry.lasting : Entry → Bool
  | .noted (.skipped _) => false
  | _ => true

/-- A document and its erasure come to the same: the outcome, the tokens that hold afterwards, the
world, and all that happens in order, but for notices that a child is passed over. What is evaluated
is a rule that only filters stand around, and never what belongs to one of them. -/
theorem erasure_runs_same (setting : Setting World) (root : Element) (tokens : Tokens)
    (run : Run World) (registered : Registry.isBuiltIn root.name = true) :
    let ended := Evaluation.run setting .standard root tokens run
    let bare := Evaluation.run setting .standard root.erased tokens run
    bare.1 = ended.1 ∧ bare.2.world = ended.2.world ∧
      bare.2.journal.filter Entry.lasting = ended.2.journal.filter Entry.lasting ∧
      ∀ station ∈ Evaluation.stationsAt setting .standard root tokens run,
        root.Descends station.path := by
  intro ended bare
  have unseen (name : String) : Entry.lasting (.noted (.skipped name)) = false := rfl
  obtain ⟨result, same⟩ :=
    Evaluation.run_mirrored Element.mirror_erased unseen registered rfl tokens run
  refine ⟨result, same.world.symm, same.journal.symm, ?_⟩
  intro station member
  rw [Evaluation.stationsAt] at member
  split at member
  · cases member
  · rename_i build known
    exact (Evaluation.stations_descend setting).1 build root tokens known run station member

/-- A refusal inside a pattern, one inside an action and one inside an unknown element are erased.
-/
theorem hidden_refusals_erased :
    let hidden : Element := ⟨"SendError", [], some "hidden", [], .nowhere⟩
    let root : Element := ⟨"Actions", [], none,
      [⟨"Remark", [], none, [hidden], .nowhere⟩,
        ⟨"SetToken", [("name", "Greeting")], some "Hello", [hidden], .nowhere⟩,
        ⟨"FilterPath", [], none, [⟨"PathRegex", [], some "txt", [hidden], .nowhere⟩,
          ⟨"SendError", [("exitCode", "3")], some "${Greeting} ${Path}", [], .nowhere⟩],
          .nowhere⟩], .nowhere⟩
    let setting := Setting.onPaper .none (.bare .postCommit "/srv/repo" (.revision 5))
    let tokens := Tokens.ofList [("Path", "a.txt")]
    root.elementCount = 9 ∧ root.erased.elementCount = 5 ∧
      (Evaluation.run setting .standard root.erased tokens ⟨(), []⟩).1.1 = .code 3 ∧
      (Evaluation.run setting .standard root tokens ⟨(), []⟩).1.1 = .code 3 := by
  intro hidden root setting tokens
  obtain ⟨same, -⟩ := erasure_runs_same setting root tokens ⟨(), []⟩ (by decide +kernel)
  have refused : (Evaluation.run setting .standard root tokens ⟨(), []⟩).1.1 = .code 3 := by
    decide +kernel
  refine ⟨by decide +kernel, by decide +kernel, ?_, refused⟩
  rw [same, refused]

end HookRules

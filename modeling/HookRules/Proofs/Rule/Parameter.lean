import HookRules.Proofs.Rule.Registry

/-!
What rules read of their elements. A rule that is built in is built from its own element and from
the children whose names belong to it, which are no rules themselves, and of these it reads nothing
that they hold.
-/

set_option autoImplicit false

namespace HookRules

/-- The name of a filter or of an action that is built in. -/
def Registry.isBuiltIn (name : String) : Bool :=
  (Filter.build? name).isSome || (Action.build? name).isSome

namespace Element

/-- The element without its children. -/
def head (element : Element) : Element := { element with children := [] }

/-- The element with no children but those of the kept names, and nothing in them. -/
def paredTo (keep : String → Bool) (element : Element) : Element :=
  { element with children := (element.children.filter fun child => keep child.name).map head }

/-- The element with nothing but parameters in it. -/
def pruned (element : Element) : Element :=
  { element with
    children := (element.children.filter fun child => !Registry.isBuiltIn child.name).map head }

section Pared

variable {keep : String → Bool} {tag : String} (element : Element)

@[simp] theorem name_paredTo : (element.paredTo keep).name = element.name := rfl

@[simp] theorem span_paredTo : (element.paredTo keep).span = element.span := rfl

@[simp] theorem text_paredTo : (element.paredTo keep).text = element.text := rfl

@[simp] theorem attribute?_paredTo (name : String) :
    (element.paredTo keep).attribute? name = element.attribute? name := rfl

@[simp] theorem requireText_paredTo :
    (element.paredTo keep).requireText = element.requireText := rfl

@[simp] theorem requireAttribute_paredTo (name : String) :
    (element.paredTo keep).requireAttribute name = element.requireAttribute name := rfl

@[simp] theorem number?_paredTo (name : String) (limit : Nat) :
    (element.paredTo keep).number? name limit = element.number? name limit := by
  rw [number?, number?, attribute?_paredTo, name_paredTo, span_paredTo]

@[simp] theorem switch_paredTo (name : String) (absent : Bool) :
    (element.paredTo keep).switch name absent = element.switch name absent := rfl

private theorem pruned_eq_paredTo :
    element.pruned = element.paredTo fun name => !Registry.isBuiltIn name := rfl

variable (kept : keep tag = true)

include kept

omit element in
private theorem kept_and_named (child : Element) :
    (keep child.name && child.name == tag) = (child.name == tag) := by
  by_cases same : child.name = tag
  · simp [same, kept]
  · simp [same]

private theorem child?_paredTo :
    (element.paredTo keep).child? tag = (element.child? tag).map head := by
  rw [child?, paredTo, List.find?_map, List.find?_filter]
  congr 2
  funext child
  rw [← kept_and_named kept child, Bool.eq_iff_iff, decide_eq_true_iff, Bool.and_eq_true]
  rfl

private theorem childrenNamed_paredTo :
    (element.paredTo keep).childrenNamed tag = (element.childrenNamed tag).map head := by
  rw [childrenNamed, paredTo, List.filter_map, List.filter_filter]
  congr 2
  funext child
  rw [Bool.and_comm]
  exact kept_and_named kept child

private theorem requireChildText_paredTo :
    (element.paredTo keep).requireChildText tag = element.requireChildText tag := by
  rw [requireChildText, element.child?_paredTo kept, requireChildText]
  cases element.child? tag with
  | none => rfl
  | some child => rfl

end Pared

end Element

namespace Gate

variable {keep : String → Bool} {tag : String} (element : Element)

private theorem find?_paredTo (kept : keep tag = true) (ignoreCase : Bool) :
    find? (element.paredTo keep) tag ignoreCase = find? element tag ignoreCase := by
  rw [find?, element.child?_paredTo kept, find?]
  cases element.child? tag with
  | none => rfl
  | some child => rfl

private theorem require_paredTo (kept : keep tag = true) (ignoreCase : Bool) :
    require (element.paredTo keep) tag ignoreCase = require element tag ignoreCase := by
  rw [require, find?_paredTo element kept]
  rfl

private theorem requireEither_paredTo {first second : String} (left : keep first = true)
    (right : keep second = true) (ignoreFirst ignoreSecond : Bool) :
    requireEither (element.paredTo keep) first second ignoreFirst ignoreSecond =
      requireEither element first second ignoreFirst ignoreSecond := by
  rw [requireEither, find?_paredTo element left, find?_paredTo element right]
  rfl

end Gate

namespace Filter

/-- The names of the children that belong to the filter of an element name. -/
def tags : String → List String
  | "FilterAuthor" => ["AuthorRegex"]
  | "FilterCapabilities" => ["CapabilitiesRegex"]
  | "FilterChanges" | "FilterCommitList" => ["PathRegex", "ChgTypeRegex"]
  | "FilterChgType" => ["ChgTypeRegex"]
  | "FilterComment" => ["CommentRegex"]
  | "FilterFileContent" => ["ContentRegex"]
  | "FilterLockToken" => ["LockTokenRegex"]
  | "FilterLogMsg" => ["LogMsgRegex"]
  | "FilterPath" | "FilterPathList" => ["PathRegex"]
  | "FilterPropList" | "FilterRevProp" => ["PropNameRegex", "PropValueRegex"]
  | "FilterUser" => ["UserRegex"]
  | _ => []

private theorem tags_parameters (name : String) :
    ∀ tag ∈ tags name, Registry.isBuiltIn tag = false := by
  unfold tags
  split <;> decide +kernel

/-- Building a filter reads the children of these names only, and the filter keeps just these from
being evaluated. -/
structure ReadsTags (tags : List String) (make : Element → Except RuleError Filter) : Prop where
  pared : ∀ keep : String → Bool, (∀ tag ∈ tags, keep tag = true) →
    ∀ element, make (element.paredTo keep) = make element
  consumed : ∀ element filter, make element = .ok filter → filter.consumed = tags

private theorem plain_reads {condition : Element → Condition}
    (reads : ∀ keep element, condition (element.paredTo keep) = condition element) :
    ReadsTags [] (plain condition) where
  pared keep _ element := by
    rw [plain, reads]
    rfl
  consumed := by
    intro element filter built
    cases built
    rfl

private theorem onGate_reads (condition : Gate → Condition) (tag : String) (ignoreCase : Bool) :
    ReadsTags [tag] (onGate condition tag ignoreCase) where
  pared keep kept element := by
    rw [onGate, Gate.require_paredTo element (kept tag List.mem_cons_self)]
    rfl
  consumed := by
    intro element filter built
    obtain ⟨gate, _, rfl⟩ := except_map_ok built
    rfl

private theorem onToken_reads (name tag : String) (ignoreCase : Bool) :
    ReadsTags [tag] (onToken name tag ignoreCase) :=
  onGate_reads (.token name) tag ignoreCase

private theorem onEither_reads (condition : Option Gate → Option Gate → Condition)
    (first second : String) (ignoreFirst ignoreSecond : Bool) :
    ReadsTags [first, second] (onEither condition first second ignoreFirst ignoreSecond) where
  pared keep kept element := by
    have left := kept first List.mem_cons_self
    have right := kept second (List.mem_cons_of_mem _ List.mem_cons_self)
    rw [onEither, Gate.requireEither_paredTo element left right]
    rfl
  consumed := by
    intro element filter built
    obtain ⟨gates, _, rfl⟩ := except_map_ok built
    rfl

theorem build?_reads {name : String} {make : Element → Except RuleError Filter}
    (known : build? name = some make) : ReadsTags (tags name) make := by
  unfold build? at known
  split at known <;> cases known
  all_goals first
    | exact plain_reads fun _ _ => rfl
    | exact onToken_reads _ _ _
    | exact onGate_reads _ _ _
    | exact onEither_reads _ _ _ _ _

end Filter

namespace Action

/-- The names of the children that belong to the action of an element name. -/
def tags : String → List String
  | "SendLogSmtp" | "SendSmtp" => ["FromAddress", "ToAddress", "Subject", "Message"]
  | _ => []

private theorem tags_parameters (name : String) :
    ∀ tag ∈ tags name, Registry.isBuiltIn tag = false := by
  unfold tags
  split <;> decide +kernel

variable {keep : String → Bool}

private theorem recipients_paredTo (kept : keep "ToAddress" = true) (element : Element) :
    ((element.paredTo keep).childrenNamed "ToAddress").filterMap Element.text =
      (element.childrenNamed "ToAddress").filterMap Element.text := by
  rw [element.childrenNamed_paredTo kept, List.filterMap_map]
  rfl

private theorem envelope_paredTo (kept : ∀ tag ∈ tags "SendSmtp", keep tag = true)
    (element : Element) :
    Envelope.ofElement (element.paredTo keep) = Envelope.ofElement element := by
  have sender := element.requireChildText_paredTo (kept "FromAddress" (by decide))
  have subject := element.requireChildText_paredTo (kept "Subject" (by decide))
  have recipients := recipients_paredTo (kept "ToAddress" (by decide)) element
  simp only [Envelope.ofElement, sender, subject, recipients, Element.requireAttribute_paredTo,
    Element.number?_paredTo, Element.span_paredTo]

private theorem build?_paredTo {name : String} {make : Element → Except RuleError Action}
    (known : build? name = some make) (kept : ∀ tag ∈ tags name, keep tag = true)
    (element : Element) : make (element.paredTo keep) = make element := by
  unfold build? at known
  split at known <;> cases known
  case h_3 => simp [envelope_paredTo kept]
  case h_4 =>
    simp [envelope_paredTo kept, element.requireChildText_paredTo (kept "Message" (by decide))]
  all_goals simp

end Action

namespace Registry

variable {World : Type}

/-- The names of the children that belong to the rule of an element name. -/
def tags (name : String) : List String :=
  if (Filter.build? name).isSome then Filter.tags name else Action.tags name

private theorem tags_parameters (name : String) : ∀ tag ∈ tags name, isBuiltIn tag = false := by
  rw [tags]
  split
  · exact Filter.tags_parameters name
  · exact Action.tags_parameters name

theorem standard_lookup?_isSome (name : String) :
    ((standard : Registry World).lookup? name).isSome = isBuiltIn name := by
  rw [isBuiltIn, lookup?, builtIn?]
  cases Filter.build? name <;> cases Action.build? name <;> rfl

theorem standard_paredTo {name : String} {build : Builder World} {keep : String → Bool}
    (known : standard.lookup? name = some build) (kept : ∀ tag ∈ tags name, keep tag = true)
    (element : Element) : build (element.paredTo keep) = build element := by
  have builtIn : builtIn? name = some build := by
    simpa [lookup?, standard] using known
  rw [tags] at kept
  unfold builtIn? at builtIn
  split at builtIn
  · rename_i make selected
    cases builtIn
    rw [selected] at kept
    dsimp only
    rw [(Filter.build?_reads selected).pared keep kept]
  · rename_i make unselected selected
    cases builtIn
    rw [unselected] at kept
    dsimp only
    rw [Action.build?_paredTo selected kept]
  · cases builtIn

theorem standard_pruned {name : String} {build : Builder World}
    (known : standard.lookup? name = some build) (element : Element) :
    build element.pruned = build element := by
  rw [element.pruned_eq_paredTo]
  apply standard_paredTo known
  intro tag member
  rw [tags_parameters name tag member]
  rfl

theorem standard_tags {name : String} {build : Builder World} {element : Element}
    {filter : Filter} (known : standard.lookup? name = some build)
    (built : build element = .ok (.filter filter)) : filter.consumed = tags name := by
  have builtIn : builtIn? name = some build := by
    simpa [lookup?, standard] using known
  unfold builtIn? at builtIn
  split at builtIn
  · rename_i make selected
    cases builtIn
    obtain ⟨found, made, same⟩ := except_map_ok built
    cases same
    rw [(Filter.build?_reads selected).consumed element filter made, tags, selected]
    rfl
  · cases builtIn
    obtain ⟨action, _, same⟩ := except_map_ok built
    cases same
  · cases builtIn

theorem standard_consumed {name : String} {build : Builder World} {element : Element}
    {filter : Filter} (known : standard.lookup? name = some build)
    (built : build element = .ok (.filter filter)) :
    ∀ tag ∈ filter.consumed, isBuiltIn tag = false := by
  rw [standard_tags known built]
  exact tags_parameters name

theorem standard_filter {name : String} {build : Builder World} {element : Element}
    {rule : Rule World} (filters : (Filter.build? name).isSome)
    (known : standard.lookup? name = some build) (built : build element = .ok rule) :
    ∃ filter, rule = .filter filter := by
  obtain ⟨make, selected⟩ := Option.isSome_iff_exists.mp filters
  have builtIn : builtIn? name = some build := by
    simpa [lookup?, standard] using known
  rw [builtIn?, selected] at builtIn
  cases builtIn
  obtain ⟨filter, _, rfl⟩ := except_map_ok built
  exact ⟨filter, rfl⟩

theorem not_consumed {consumed : List String}
    (parameters : ∀ tag ∈ consumed, isBuiltIn tag = false) {name : String}
    (builtIn : isBuiltIn name = true) : consumed.contains name = false := by
  rw [List.contains_eq_mem, decide_eq_false_iff_not]
  intro member
  rw [parameters name member] at builtIn
  cases builtIn

end Registry

end HookRules

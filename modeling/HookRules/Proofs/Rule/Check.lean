import Mathlib.Data.List.Forall2
import HookRules.Proofs.Document.Path
import HookRules.Rule.Check

/-!
What checking a document finds: in document order, one problem for each element whose rule can not
be built, wherever it stands.
-/

set_option autoImplicit false

namespace HookRules

private theorem forall₂_filter_filterMap {Place Item : Type} (item? : Place → Option Item)
    (places : List Place) :
    List.Forall₂ (fun place item => item? place = some item)
      (places.filter fun place => (item? place).isSome) (places.filterMap item?) := by
  induction places with
  | nil => exact .nil
  | cons place rest ih =>
      cases found : item? place with
      | none => simpa [found] using ih
      | some item =>
          rw [List.filter_cons_of_pos (by simp [found]), List.filterMap_cons_some found]
          exact .cons found ih

namespace Registry

variable {World : Type}

/-- An element is a rule, and it can not be built because of an error. -/
def Refuses (registry : Registry World) (element : Element) (error : RuleError) : Prop :=
  ∃ build, registry.lookup? element.name = some build ∧ build element = .error error

/-- A problem stands for a refused element. It is placed where the error is if that is known. -/
def Explains (registry : Registry World) (element : Element) (problem : Problem) : Prop :=
  ∃ error, registry.Refuses element error ∧
    problem = ⟨error.span?.getD element.span, element.name, error⟩

/-- The problems are those of the elements that paths lead to, in document order. No element that
is refused is left out, and none comes twice. -/
structure Lists (registry : Registry World) (root : Element) (paths : List (List Nat))
    (problems : List Problem) : Prop where
  ordered : paths.Pairwise (· < ·)
  complete : ∀ path, path ∈ paths ↔
    ∃ element error, root.at? path = some element ∧ registry.Refuses element error
  explained : List.Forall₂ (fun path problem =>
    ∃ element, root.at? path = some element ∧ registry.Explains element problem) paths problems

variable {registry : Registry World} {element : Element}

private theorem problemAt?_eq_some {problem : Problem} :
    registry.problemAt? element = some problem ↔ registry.Explains element problem := by
  unfold problemAt? Explains Refuses
  cases known : registry.lookup? element.name with
  | none => simp
  | some build =>
      cases built : build element with
      | ok rule => simp [built]
      | error error => simp [built, Problem.ofError, eq_comm]

private theorem problemAt?_isSome :
    (registry.problemAt? element).isSome ↔ ∃ error, registry.Refuses element error := by
  constructor
  · intro found
    obtain ⟨problem, found⟩ := Option.isSome_iff_exists.mp found
    obtain ⟨error, refused, _⟩ := problemAt?_eq_some.mp found
    exact ⟨error, refused⟩
  · rintro ⟨error, refused⟩
    exact Option.isSome_iff_exists.mpr ⟨_, problemAt?_eq_some.mpr ⟨error, refused, rfl⟩⟩

/-- The problem of the element that a path leads to. -/
def problemBelow? (registry : Registry World) (root : Element) (path : List Nat) : Option Problem :=
  (root.at? path).bind registry.problemAt?

private theorem nodes_filterMap_problemAt? (root : Element) :
    root.nodes.filterMap registry.problemAt? =
      root.paths.filterMap (registry.problemBelow? root) := by
  have located : root.nodes.filterMap registry.problemAt? =
      (root.nodes.map some).filterMap fun node? => node?.bind registry.problemAt? := by
    rw [List.filterMap_map]
    rfl
  rw [located, ← root.map_at?_paths, List.filterMap_map]
  rfl

theorem check_lists (registry : Registry World) (root : Element) :
    ∃ paths problems, registry.Lists root paths problems ∧
      registry.check root = (match registry.lookup? root.name with
        | none => [⟨root.span, root.name, .unknownRule root.name root.span⟩]
        | some _ => []) ++ problems := by
  refine ⟨root.paths.filter fun path => (registry.problemBelow? root path).isSome,
    root.paths.filterMap (registry.problemBelow? root), ⟨?_, ?_, ?_⟩, ?_⟩
  · exact root.paths_ordered.filter _
  · intro path
    rw [List.mem_filter, Element.mem_paths_iff, problemBelow?]
    constructor
    · rintro ⟨⟨node, found⟩, refused⟩
      rw [found] at refused
      obtain ⟨error, refuses⟩ := problemAt?_isSome.mp refused
      exact ⟨node, error, found, refuses⟩
    · rintro ⟨node, error, found, refuses⟩
      rw [found]
      exact ⟨⟨node, rfl⟩, problemAt?_isSome.mpr ⟨error, refuses⟩⟩
  · refine (forall₂_filter_filterMap (registry.problemBelow? root) root.paths).imp ?_
    intro path problem found
    obtain ⟨node, leads, explained⟩ := Option.bind_eq_some_iff.mp found
    exact ⟨node, leads, problemAt?_eq_some.mp explained⟩
  · rw [check, nodes_filterMap_problemAt?, rootProblem?, contains]
    cases registry.lookup? root.name <;> rfl

theorem mem_check_of_refused {root : Element} {error : RuleError} (member : element ∈ root.nodes)
    (refused : registry.Refuses element error) : .ofError element error ∈ registry.check root :=
  List.mem_append_right _
    (List.mem_filterMap.mpr ⟨element, member, problemAt?_eq_some.mpr ⟨error, refused, rfl⟩⟩)

theorem mem_check_of_unknown {root : Element} (unknown : registry.lookup? root.name = none) :
    .ofError root (.unknownRule root.name root.span) ∈ registry.check root := by
  have missing : registry.contains root.name = false := by
    rw [contains, unknown]
    rfl
  rw [check, rootProblem?, missing]
  exact List.mem_cons_self

end Registry

end HookRules

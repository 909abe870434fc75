import Mathlib.Data.List.Forall2
import HookRules.Document.Element

/-!
Where elements stand in a document. A path lists child numbers from the root on, and document
order is the lexicographic order of paths: a parent comes before its children, and children come
one after another.
-/

set_option autoImplicit false

namespace HookRules

namespace Element

/-- The element that a path leads to. -/
def at? : Element → List Nat → Option Element
  | element, [] => some element
  | element, index :: path => element.children[index]?.bind fun child => child.at? path

/-- The element that a path leads to from the parent of some elements. -/
def below? (children : List Element) : List Nat → Option Element
  | [] => none
  | index :: path => children[index]?.bind fun child => child.at? path

/-- The path from the parent once one more element stands in front of the others. -/
def nextPath : List Nat → List Nat
  | [] => []
  | index :: path => (index + 1) :: path

mutual

/-- The paths of the element and of everything below it, in the order of the nodes. -/
def paths : Element → List (List Nat)
  | ⟨_, _, _, children, _⟩ => [] :: pathsOf children

def pathsOf : List Element → List (List Nat)
  | [] => []
  | element :: rest => (paths element).map (0 :: ·) ++ (pathsOf rest).map nextPath

end

private theorem below?_nextPath (element : Element) (rest : List Element) (path : List Nat) :
    below? (element :: rest) (nextPath path) = below? rest path := by
  cases path <;> rfl

private theorem nextPath_lt {first second : List Nat} (before : first < second) :
    nextPath first < nextPath second := by
  cases second with
  | nil => cases List.not_lt_nil first before
  | cons index path =>
      cases first with
      | nil => exact List.nil_lt_cons _ _
      | cons earlier rest =>
          simpa [nextPath, List.cons_lt_cons_iff] using before

private theorem lt_nextPath (path : List Nat) {later : List Nat} (inside : later ≠ []) :
    0 :: path < nextPath later := by
  cases later with
  | nil => exact absurd rfl inside
  | cons index rest => simp [nextPath, List.cons_lt_cons_iff]

private theorem ne_nil_of_mem_pathsOf {children : List Element} {path : List Nat}
    (member : path ∈ pathsOf children) : path ≠ [] := by
  induction children generalizing path with
  | nil => cases member
  | cons element rest ih =>
      rw [pathsOf] at member
      rcases List.mem_append.mp member with first | later
      · obtain ⟨inner, _, rfl⟩ := List.mem_map.mp first
        exact List.cons_ne_nil 0 inner
      · obtain ⟨inner, listed, rfl⟩ := List.mem_map.mp later
        cases inner with
        | nil => exact absurd rfl (ih listed)
        | cons index rest => exact List.cons_ne_nil (index + 1) rest

mutual

theorem map_at?_paths (element : Element) :
    element.paths.map element.at? = element.nodes.map some := by
  obtain ⟨name, attributes, text, children, span⟩ := element
  rw [paths, nodes, List.map_cons, List.map_cons, ← map_below?_pathsOf children]
  congr 1
  refine List.map_congr_left fun path member => ?_
  cases path with
  | nil => exact absurd rfl (ne_nil_of_mem_pathsOf member)
  | cons index path => rfl

theorem map_below?_pathsOf (children : List Element) :
    (pathsOf children).map (below? children) = (nodesOf children).map some := by
  cases children with
  | nil => rfl
  | cons element rest =>
      rw [pathsOf, nodesOf, List.map_append, List.map_append, List.map_map, List.map_map]
      congr 1
      · exact map_at?_paths element
      · rw [← map_below?_pathsOf rest]
        exact List.map_congr_left fun path _ => below?_nextPath element rest path

end

mutual

theorem paths_ordered (element : Element) : element.paths.Pairwise (· < ·) := by
  obtain ⟨name, attributes, text, children, span⟩ := element
  rw [paths]
  refine List.pairwise_cons.mpr ⟨fun path member => ?_, pathsOf_ordered children⟩
  cases path with
  | nil => exact absurd rfl (ne_nil_of_mem_pathsOf member)
  | cons index path => exact List.nil_lt_cons index path

theorem pathsOf_ordered (children : List Element) : (pathsOf children).Pairwise (· < ·) := by
  cases children with
  | nil => exact List.Pairwise.nil
  | cons element rest =>
      rw [pathsOf]
      refine List.pairwise_append.mpr ⟨?_, ?_, ?_⟩
      · refine List.pairwise_map.mpr ((paths_ordered element).imp fun before => ?_)
        exact List.cons_lt_cons_iff.mpr (.inr ⟨rfl, before⟩)
      · exact List.pairwise_map.mpr ((pathsOf_ordered rest).imp nextPath_lt)
      · intro path first later second
        obtain ⟨inner, _, rfl⟩ := List.mem_map.mp first
        obtain ⟨outer, listed, rfl⟩ := List.mem_map.mp second
        exact lt_nextPath inner (ne_nil_of_mem_pathsOf listed)

end

mutual

private theorem mem_paths {element node : Element} {path : List Nat}
    (found : element.at? path = some node) : path ∈ element.paths := by
  obtain ⟨name, attributes, text, children, span⟩ := element
  rw [paths]
  cases path with
  | nil => exact List.mem_cons_self
  | cons index path => exact List.mem_cons_of_mem _ (mem_pathsOf found)

private theorem mem_pathsOf {children : List Element} {node : Element} {path : List Nat}
    (found : below? children path = some node) : path ∈ pathsOf children := by
  cases children with
  | nil => cases path <;> cases found
  | cons element rest =>
      rw [pathsOf]
      match path with
      | [] => cases found
      | 0 :: path => exact List.mem_append_left _ (List.mem_map_of_mem (mem_paths found))
      | (index + 1) :: path =>
          have listed : index :: path ∈ pathsOf rest := mem_pathsOf found
          exact List.mem_append_right _ (List.mem_map_of_mem (f := nextPath) listed)

end

theorem mem_paths_iff {element : Element} {path : List Nat} :
    path ∈ element.paths ↔ ∃ node, element.at? path = some node := by
  constructor
  · intro member
    have located : element.at? path ∈ element.nodes.map some := by
      rw [← map_at?_paths]
      exact List.mem_map_of_mem member
    obtain ⟨node, _, found⟩ := List.mem_map.mp located
    exact ⟨node, found.symm⟩
  · rintro ⟨node, found⟩
    exact mem_paths found

end Element

end HookRules

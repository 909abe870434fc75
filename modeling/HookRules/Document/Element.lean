import HookRules.Document.Span

/-!
The elements of a rule document, as a tree. Names, attributes and text are kept as they were
written; what they mean is decided where rules are built.
-/

set_option autoImplicit false

namespace HookRules

/-- One element of a document, with its attributes and children in document order. The text is
what precedes the first child, `none` where an element does not begin with text. -/
structure Element where
  name : String
  attributes : List (String × String)
  text : Option String
  children : List Element
  span : Span
  deriving Repr, Inhabited

namespace Element

def named (name : String) : Element := ⟨name, [], none, [], Span.nowhere⟩

def attribute? (element : Element) (name : String) : Option String :=
  (element.attributes.find? fun entry => entry.1 == name).map Prod.snd

def child? (element : Element) (name : String) : Option Element :=
  element.children.find? fun child => child.name == name

def childrenNamed (element : Element) (name : String) : List Element :=
  element.children.filter fun child => child.name == name

mutual

def nodes : Element → List Element
  | element@⟨_, _, _, children, _⟩ => element :: nodesOf children

def nodesOf : List Element → List Element
  | [] => []
  | element :: rest => nodes element ++ nodesOf rest

end

mutual

def elementCount : Element → Nat
  | ⟨_, _, _, children, _⟩ => countOf children + 1

def countOf : List Element → Nat
  | [] => 0
  | element :: rest => elementCount element + countOf rest

end

mutual

/-- The elements in document order, each with its distance from the element the listing starts
at plus `depth`. -/
def outline (depth : Nat) : Element → List (Nat × Element)
  | element@⟨_, _, _, children, _⟩ => (depth, element) :: outlineOf (depth + 1) children

def outlineOf (depth : Nat) : List Element → List (Nat × Element)
  | [] => []
  | element :: rest => outline depth element ++ outlineOf depth rest

end

def descend? (element : Element) : List Nat → Option Element
  | [] => some element
  | index :: path => (element.children[index]?).bind fun child => child.descend? path

end Element

end HookRules

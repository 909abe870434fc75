import HookRules.Proofs.Document.Syntax

/-!
The elements that a written document stands for, with the places they stand at. The text of an
element is the data that its content begins with.
-/

set_option autoImplicit false

namespace HookRules.Markup

/-- Data as it is read: up to the next markup, or up to the end of a literal section. -/
inductive Datum
  | run (raw : List Char)
  | literal (raw : List Char)

def runText (raw : List Char) : List Char := (textOf .first raw).toOption.getD []

def Datum.text : Datum → List Char
  | .run raw => runText raw
  | .literal raw => sectionText raw

/-- The text with data behind it. -/
def joined (text : Option (List Char)) (data : List Datum) : Option (List Char) :=
  if data.isEmpty then text else some (text.getD [] ++ data.flatMap Datum.text)

theorem joined_cons (text : Option (List Char)) (datum : Datum) (rest : List Datum) :
    joined text (datum :: rest) = joined (some (text.getD [] ++ datum.text)) rest := by
  cases rest <;> simp [joined]

namespace AttributeText

def value (text : AttributeText) : String := (attributeValue .first text.raw).toOption.getD ""

/-- Whether the attribute declares a name space. -/
def declares (text : AttributeText) : Bool :=
  text.name.space = "xmlns" || text.name.localName = "xmlns"

end AttributeText

/-- The attributes that an element keeps. -/
def keptOf (attributes : List AttributeText) : List (String × String) :=
  (attributes.filter fun text => !text.declares).map fun text => (text.name.localName, text.value)

namespace Items

/-- The data that a content begins with. -/
def data : Items → List Datum
  | character c _ rest =>
    match rest.data with
    | .run raw :: more => .run (c :: raw) :: more
    | data => .run [c] :: data
  | literal text rest => .literal text.body :: rest.data
  | _ => []

def text (items : Items) : Option String := (joined none items.data).map String.ofList

/-- The elements of a content that stands at a place. -/
def children (position : Position) : Items → List Element
  | nil => []
  | character c _ rest => rest.children (position.advance c)
  | literal text rest => rest.children (position.after text.source)
  | remark text rest => rest.children (position.after text.source)
  | empty tag rest =>
    let stop := position.after (tag.source ['/', '>'])
    ⟨tag.name.localName, keptOf tag.attributes, none, [], spanFrom position stop⟩ ::
      rest.children stop
  | element tag inside closing rest =>
    let inner := position.after (tag.source ['>'])
    let stop := (inner.after inside.source).after closing.source
    ⟨tag.name.localName, keptOf tag.attributes, inside.text, inside.children inner,
      spanFrom position stop⟩ :: rest.children stop

end Items

def DocumentText.children (document : DocumentText) : List Element :=
  document.items.children (Position.first.after document.lead)

end HookRules.Markup

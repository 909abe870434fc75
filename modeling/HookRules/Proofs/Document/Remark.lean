import HookRules.Proofs.Document.Reading

/-!
Comments and instructions. A document is read alike without one of them, but for the places of its
elements and for the text that it cuts: the text of an element ends at the first child, comment or
instruction, so data that comes behind a comment is lost.
-/

set_option autoImplicit false

namespace HookRules

namespace Element

mutual

/-- The tree without the places of its elements, and with as much of their texts as is kept. -/
def unplaced (keep : Option String → Option String) : Element → Element
  | ⟨name, attributes, text, children, _⟩ =>
    ⟨name, attributes, keep text, unplacedAll keep children, .nowhere⟩

def unplacedAll (keep : Option String → Option String) : List Element → List Element
  | [] => []
  | element :: rest => unplaced keep element :: unplacedAll keep rest

end

end Element

namespace Markup

namespace Items

/-- One comment or instruction is dropped, at any depth. -/
inductive Drops : Items → Items → Prop
  | here {text rest} : Drops (.remark text rest) rest
  | character {c data items shorter} :
      Drops items shorter → Drops (.character c data items) (.character c data shorter)
  | literal {text items shorter} :
      Drops items shorter → Drops (.literal text items) (.literal text shorter)
  | remark {text items shorter} :
      Drops items shorter → Drops (.remark text items) (.remark text shorter)
  | empty {tag items shorter} :
      Drops items shorter → Drops (.empty tag items) (.empty tag shorter)
  | inside {tag items shorter closing rest} :
      Drops items shorter →
      Drops (.element tag items closing rest) (.element tag shorter closing rest)
  | beyond {tag inside closing items shorter} :
      Drops items shorter →
      Drops (.element tag inside closing items) (.element tag inside closing shorter)

def BeginsData : Items → Prop
  | character .. => True
  | literal .. => True
  | _ => False

/-- What is dropped stands where the content has shown nothing but data, and data follows it. -/
inductive Trims : Items → Items → Prop
  | here {text rest} : rest.BeginsData → Trims (.remark text rest) rest
  | character {c data items shorter} :
      Trims items shorter → Trims (.character c data items) (.character c data shorter)
  | literal {text items shorter} :
      Trims items shorter → Trims (.literal text items) (.literal text shorter)

/-- What is dropped cuts the text of an element. -/
inductive Cuts : Items → Items → Prop
  | text {tag items shorter closing rest} :
      Trims items shorter →
      Cuts (.element tag items closing rest) (.element tag shorter closing rest)
  | character {c data items shorter} :
      Cuts items shorter → Cuts (.character c data items) (.character c data shorter)
  | literal {text items shorter} :
      Cuts items shorter → Cuts (.literal text items) (.literal text shorter)
  | remark {text items shorter} :
      Cuts items shorter → Cuts (.remark text items) (.remark text shorter)
  | empty {tag items shorter} :
      Cuts items shorter → Cuts (.empty tag items) (.empty tag shorter)
  | inside {tag items shorter closing rest} :
      Cuts items shorter →
      Cuts (.element tag items closing rest) (.element tag shorter closing rest)
  | beyond {tag inside closing items shorter} :
      Cuts items shorter →
      Cuts (.element tag inside closing items) (.element tag inside closing shorter)

variable {items shorter : Items}

theorem Drops.source (drops : Drops items shorter) :
    ∃ before text after, items.source = before ++ (RemarkText.source text ++ after) ∧
      shorter.source = before ++ after := by
  have within {part other : List Char} (front back : List Char)
      (dropped : ∃ before text after, part = before ++ (RemarkText.source text ++ after) ∧
        other = before ++ after) :
      ∃ before text after, front ++ (part ++ back) = before ++ (RemarkText.source text ++ after) ∧
        front ++ (other ++ back) = before ++ after := by
    obtain ⟨before, text, after, rfl, rfl⟩ := dropped
    exact ⟨front ++ before, text, after ++ back, by simp, by simp⟩
  induction drops with
  | @here text rest => exact ⟨[], text, rest.source, rfl, rfl⟩
  | @character c data items shorter _ ih => simpa [Items.source] using within [c] [] ih
  | @literal text items shorter _ ih => simpa [Items.source] using within text.source [] ih
  | @remark text items shorter _ ih => simpa [Items.source] using within text.source [] ih
  | @empty tag items shorter _ ih =>
      simpa [Items.source] using within (tag.source ['/', '>']) [] ih
  | @inside tag items shorter closing rest _ ih =>
      simpa [Items.source] using within (tag.source ['>']) (closing.source ++ rest.source) ih
  | @beyond tag inside closing items shorter _ ih =>
      simpa [Items.source] using
        within (tag.source ['>'] ++ (inside.source ++ closing.source)) [] ih

theorem Drops.outer (drops : Drops items shorter) (outer : items.Outer) : shorter.Outer := by
  induction drops with
  | here => exact outer
  | character _ ih => exact ⟨outer.1, ih outer.2⟩
  | literal => exact outer
  | remark _ ih => exact ih outer
  | empty _ ih => exact ih outer
  | inside => exact outer
  | beyond _ ih => exact ih outer

theorem Drops.data (drops : Drops items shorter) (whole : ¬ Trims items shorter) :
    shorter.data = items.data := by
  induction drops with
  | @here text rest =>
      cases rest with
      | character => exact absurd (.here trivial) whole
      | literal => exact absurd (.here trivial) whole
      | _ => rfl
  | character _ ih =>
      rw [Items.data, Items.data, ih fun trims => whole (.character trims)]
  | literal _ ih =>
      rw [Items.data, Items.data, ih fun trims => whole (.literal trims)]
  | remark => rfl
  | empty => rfl
  | inside => rfl
  | beyond => rfl

private theorem children_unplaced (keep : Option String → Option String) (items : Items)
    (first second : Position) :
    Element.unplacedAll keep (items.children first) =
      Element.unplacedAll keep (items.children second) := by
  induction items generalizing first second with
  | nil => rfl
  | character c data rest ih => exact ih _ _
  | literal text rest ih => exact ih _ _
  | remark text rest ih => exact ih _ _
  | empty tag rest ih =>
      simp only [children, Element.unplacedAll, Element.unplaced]
      rw [ih]
  | element tag inside closing rest insideIH restIH =>
      simp only [children, Element.unplacedAll, Element.unplaced]
      rw [insideIH, restIH]

theorem Drops.children {keep : Option String → Option String} (drops : Drops items shorter)
    (blind : Cuts items shorter → ∀ first second, keep first = keep second)
    (first second : Position) :
    Element.unplacedAll keep (shorter.children first) =
      Element.unplacedAll keep (items.children second) := by
  induction drops generalizing first second with
  | here => exact children_unplaced keep _ _ _
  | character _ ih => exact ih (fun cuts => blind (.character cuts)) _ _
  | literal _ ih => exact ih (fun cuts => blind (.literal cuts)) _ _
  | remark _ ih => exact ih (fun cuts => blind (.remark cuts)) _ _
  | empty _ ih =>
      simp only [Items.children, Element.unplacedAll, Element.unplaced]
      rw [ih fun cuts => blind (.empty cuts)]
  | @inside tag items shorter closing rest drops ih =>
      have text : keep shorter.text = keep items.text := by
        by_cases trims : Trims items shorter
        · exact blind (.text trims) _ _
        · rw [Items.text, Items.text, drops.data trims]
      simp only [Items.children, Element.unplacedAll, Element.unplaced]
      rw [text, ih fun cuts => blind (.inside cuts), children_unplaced keep rest]
  | @beyond tag inside closing items shorter _ ih =>
      simp only [Items.children, Element.unplacedAll, Element.unplaced]
      rw [children_unplaced keep inside, ih fun cuts => blind (.beyond cuts)]

/-- The contents of the elements, in document order. -/
def contents : Items → List Items
  | nil => []
  | character _ _ rest => rest.contents
  | literal _ rest => rest.contents
  | remark _ rest => rest.contents
  | empty _ rest => nil :: rest.contents
  | element _ inside _ rest => inside :: (inside.contents ++ rest.contents)

private theorem texts_contents (items : Items) (position : Position) :
    (Element.nodesOf (items.children position)).map Element.text =
      items.contents.map Items.text := by
  induction items generalizing position with
  | nil => rfl
  | character c data rest ih => exact ih _
  | literal text rest ih => exact ih _
  | remark text rest ih => exact ih _
  | empty tag rest ih =>
      simp only [children, contents, Element.nodesOf, Element.nodes, List.map_cons,
        List.map_append]
      rw [ih]
      rfl
  | element tag inside closing rest insideIH restIH =>
      simp only [children, contents, Element.nodesOf, Element.nodes, List.map_cons,
        List.map_append]
      rw [insideIH, restIH]
      rfl

/-- All data before the first child, with no remark in between. -/
def leading : Items → Items
  | character c data rest => character c data rest.leading
  | literal text rest => literal text rest.leading
  | remark _ rest => rest.leading
  | _ => nil

/-- Data follows a remark before the first child. -/
def Interrupted : Items → Prop
  | character _ _ rest => rest.Interrupted
  | literal _ rest => rest.Interrupted
  | remark _ rest => rest.leading.data ≠ []
  | _ => False

private theorem data_leading (items : Items) (whole : ¬ items.Interrupted) :
    items.data = items.leading.data := by
  induction items with
  | character c data rest ih => rw [Items.data, leading, Items.data, ih whole]
  | literal text rest ih => rw [Items.data, leading, Items.data, ih whole]
  | remark text rest => exact (Decidable.not_not.mp whole).symm
  | _ => rfl

end Items

namespace DocumentText

variable (document : DocumentText) {items : Items} (drops : document.items.Drops items)

/-- The document without one comment or instruction. -/
def without : DocumentText :=
  ⟨document.mark, document.declaration, items, drops.outer document.outer⟩

private theorem source_without :
    ∃ before text after, document.source = before ++ (RemarkText.source text ++ after) ∧
      (document.without drops).source = before ++ after := by
  obtain ⟨before, text, after, whole, rest⟩ := drops.source
  refine ⟨document.lead ++ before, text, after, ?_, ?_⟩
  · rw [source, whole, List.append_assoc]
  · exact (congrArg (document.lead ++ ·) rest).trans (List.append_assoc _ _ _).symm

variable {document}

private theorem children_of_parse {source : String} {root : Element}
    (written : document.source = source.toList) (parsed : Element.parse source = .ok root) :
    document.children = [root] := by
  obtain ⟨found, same, single⟩ := parse_ok parsed
  rwa [unique (written.trans same.symm)]

private theorem root_without {keep : Option String → Option String} {source other : String}
    {root shorn : Element}
    (blind : document.items.Cuts items → ∀ first second, keep first = keep second)
    (written : document.source = source.toList) (parsed : Element.parse source = .ok root)
    (remaining : (document.without drops).source = other.toList)
    (again : Element.parse other = .ok shorn) : shorn.unplaced keep = root.unplaced keep := by
  have same := drops.children blind (Position.first.after (document.without drops).lead)
    (Position.first.after document.lead)
  have before : document.items.children (Position.first.after document.lead) = [root] :=
    children_of_parse written parsed
  have after : items.children (Position.first.after (document.without drops).lead) = [shorn] :=
    children_of_parse remaining again
  rw [before, after] at same
  exact (List.cons.inj same).1

end DocumentText

private theorem comment_ends {body : List Char} (free : '-' ∉ body) :
    ∀ tail, tail ≠ [] → tail <:+ body → ¬ "-->".toList <+: tail ++ "-->".toList := by
  intro tail some behind ⟨rest, same⟩
  cases tail with
  | nil => exact some rfl
  | cons c more =>
      have dash : '-' = c := (List.cons.inj same).1
      exact free (dash ▸ behind.subset List.mem_cons_self)

end Markup

open Markup in
/-- The tree shows a comment or an instruction of its document only where that cuts a text. -/
structure Element.Unremarked (root : Element) (document : DocumentText) : Prop where
  /-- The elements are those of the document, with the texts that their contents begin with. -/
  texts : root.nodes.map Element.text = document.items.contents.map Items.text
  /-- A text is all data before the first child, where data follows no remark. -/
  leading : ∀ content ∈ document.items.contents, ¬ content.Interrupted →
    content.text = content.leading.text
  /-- A document without a remark is written as its source without that. -/
  shorter : ∀ {items} (drops : document.items.Drops items),
    ∃ before text after, document.source = before ++ (RemarkText.source text ++ after) ∧
      (document.without drops).source = before ++ after
  /-- Without a remark, names, attributes and children are the same, and so are texts it does not
  cut. -/
  transparent : ∀ {items} (drops : document.items.Drops items) {source : String} {other : Element},
    (document.without drops).source = source.toList → Element.parse source = .ok other →
      other.unplaced (fun _ => none) = root.unplaced (fun _ => none) ∧
        (¬ document.items.Cuts items → other.unplaced id = root.unplaced id)

open Markup in
/-- Every source that is accepted is written as one document, and the remarks of that document leave
no trace but the texts they cut. -/
theorem remarks_leave_no_trace {source : String} {root : Element}
    (parsed : Element.parse source = .ok root) :
    ∃ document : DocumentText,
      (∀ other : DocumentText, other.source = source.toList ↔ other = document) ∧
        root.Unremarked document := by
  obtain ⟨document, written, single⟩ := parse_ok parsed
  refine ⟨document, fun other => ⟨fun same => ?_, fun same => same ▸ written⟩, ?_, ?_, ?_, ?_⟩
  · exact DocumentText.unique (same.trans written.symm)
  · have texts := document.items.texts_contents (Position.first.after document.lead)
    have nodes : Element.nodesOf [root] = root.nodes := by
      simp [Element.nodesOf]
    rwa [show document.items.children _ = [root] from single, nodes] at texts
  · intro content _ whole
    rw [Items.text, Items.text, content.data_leading whole]
  · exact fun drops => document.source_without drops
  · intro items drops other shorn remaining again
    constructor
    · exact DocumentText.root_without drops (fun _ _ _ => rfl) written parsed remaining again
    · intro whole
      exact DocumentText.root_without drops (fun cuts => absurd cuts whole) written parsed remaining
        again

open Markup in
theorem remark_before_child_dropped :
    let source := "<a>no<!--c--><b/></a>"
    let shorter := "<a>no<b/></a>"
    ∃ root other, Element.parse source = .ok root ∧ Element.parse shorter = .ok other ∧
      root.nodes.map Element.text = [some "no", none] ∧ other.unplaced id = root.unplaced id := by
  intro source shorter
  let start : TagText :=
    ⟨['a'], ⟨"", "a"⟩, [], [], List.all_eq_true.mp (by decide +kernel), by decide +kernel,
      by simp [Spaces]⟩
  let child : TagText :=
    ⟨['b'], ⟨"", "b"⟩, [], [], List.all_eq_true.mp (by decide +kernel), by decide +kernel,
      by simp [Spaces]⟩
  let stop : ClosingText :=
    ⟨['a'], ⟨"", "a"⟩, [], List.all_eq_true.mp (by decide +kernel), by decide +kernel,
      by simp [Spaces]⟩
  let comment : RemarkText := .comment ⟨['c'], comment_ends (by decide)⟩
  let inside (rest : Items) : Items := .character 'n' (by decide) (.character 'o' (by decide) rest)
  let document : DocumentText :=
    ⟨false, none, .element start (inside (.remark comment (.empty child .nil))) stop .nil, trivial⟩
  have whole : ¬ document.items.Cuts (.element start (inside (.empty child .nil)) stop .nil) := by
    intro cuts
    cases cuts with
    | text trims =>
        cases trims with
        | character trims =>
            cases trims with
            | character trims =>
                cases trims with
                | here data => exact data
    | inside cuts =>
        cases cuts with
        | character cuts =>
            cases cuts with
            | character cuts => cases cuts
  have shown : (Element.parse source).toOption.map (fun root => root.nodes.map Element.text) =
      some [some "no", none] := by
    decide +kernel
  have accepted : (Element.parse shorter).toOption.map Element.name = some "a" := by
    decide +kernel
  obtain ⟨root, parsed, texts⟩ := Element.ok_of_shown shown
  obtain ⟨other, again, _⟩ := Element.ok_of_shown accepted
  obtain ⟨found, single, unremarked⟩ := remarks_leave_no_trace parsed
  obtain rfl : document = found := (single document).mp (by decide +kernel)
  have same := (unremarked.transparent (.inside (.character (.character .here)))
    (by decide +kernel) again).2 whole
  exact ⟨root, other, parsed, again, texts, same⟩

/-- A message ends at a comment in its midst, though it all stands before the first child. -/
theorem comment_cuts_message :
    ∃ root other,
      Element.parse "<SendError>no <!-- really -->way</SendError>" = .ok root ∧
      Element.parse "<SendError>no way</SendError>" = .ok other ∧
      root.text = some "no " ∧ other.text = some "no way" := by
  have cut : (Element.parse "<SendError>no <!-- really -->way</SendError>").toOption.map
      Element.text = some (some "no ") := by
    decide +kernel
  have whole : (Element.parse "<SendError>no way</SendError>").toOption.map Element.text =
      some (some "no way") := by
    decide +kernel
  obtain ⟨root, parsed, text⟩ := Element.ok_of_shown cut
  obtain ⟨other, again, uncut⟩ := Element.ok_of_shown whole
  exact ⟨root, other, parsed, again, text, uncut⟩

end HookRules

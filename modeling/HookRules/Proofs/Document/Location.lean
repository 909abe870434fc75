import HookRules.Proofs.Document.Reading
import HookRules.Text.Utf8

/-!
Where elements stand. The span of an element cuts its source from the less-than sign of its start
tag to the greater-than sign of its end; the spans of children lie strictly inside, one behind the
other.
-/

set_option autoImplicit false

namespace HookRules

namespace Text

private theorem length_encoded (text : List Char) :
    (text.flatMap String.utf8EncodeChar).length = byteCount text := by
  induction text with
  | nil => rfl
  | cons c rest ih =>
      rw [List.flatMap_cons, List.length_append, ih, String.length_utf8EncodeChar, byteCount]

private theorem bytes_eq (source : String) :
    source.toUTF8.data.toList = source.toList.flatMap String.utf8EncodeChar := by
  rw [String.toUTF8, ← String.utf8Encode_toList, List.utf8Encode, List.data_toByteArray]

private theorem utf8ByteSize_eq (source : String) :
    source.utf8ByteSize = byteCount source.toList := by
  rw [← length_encoded, ← bytes_eq, ← String.size_toByteArray]
  rfl

variable {source : String} {before after : List Char}

private theorem valid_byteCount (split : source.toList = before ++ after) :
    (⟨byteCount before⟩ : String.Pos.Raw).IsValid source := by
  refine String.Pos.Raw.isValid_iff_exists_append.mpr ⟨.ofList before, .ofList after, ?_, ?_⟩
  · rw [← String.ofList_append, ← split, String.ofList_toList]
  · apply String.Pos.Raw.ext
    rw [String.byteIdx_rawEndPos, utf8ByteSize_eq, String.toList_ofList]

private theorem byte_at {c : Char} {byte : UInt8} (encoded : String.utf8EncodeChar c = [byte])
    (split : source.toList = before ++ c :: after) :
    source.toUTF8.data.toList[byteCount before]? = some byte := by
  rw [bytes_eq, split, List.flatMap_append, List.flatMap_cons, encoded, ← length_encoded,
    List.getElem?_append_right (Nat.le_refl _), Nat.sub_self]
  rfl

end Text

/-- By induction on the text from its end. -/
theorem Position.after_first (text : List Char) :
    Position.first.after text = ⟨Text.byteCount text, 1 + text.count '\n',
      1 + (text.reverse.takeWhile (· ≠ '\n')).length⟩ := by
  have reversed (text : List Char) : Position.first.after text.reverse =
      ⟨Text.byteCount text.reverse, 1 + text.reverse.count '\n',
        1 + (text.takeWhile (· ≠ '\n')).length⟩ := by
    induction text with
    | nil => rfl
    | cons c rest ih =>
        rw [List.reverse_cons, after_append, ih, Text.byteCount_append]
        by_cases line : c = '\n'
        · subst line
          simp [advance, Text.byteCount]
          omega
        · simp [advance, Text.byteCount, line]
          omega
  have whole := reversed text.reverse
  rwa [List.reverse_reverse] at whole

/-- The span cuts a stretch of the source that begins with a less-than sign and ends with a
greater-than sign, and names the place where that begins. -/
structure Span.Cuts (span : Span) (source : String) : Prop where
  extent : span.start < span.stop ∧ span.stop ≤ source.utf8ByteSize
  startValid : (⟨span.start⟩ : String.Pos.Raw).IsValid source
  stopValid : (⟨span.stop⟩ : String.Pos.Raw).IsValid source
  opens : source.toUTF8.data.toList[span.start]? = some 0x3C
  closes : source.toUTF8.data.toList[span.stop - 1]? = some 0x3E
  place : ∃ before after, source = before ++ after ∧ before.utf8ByteSize = span.start ∧
    span.line = 1 + before.toList.count '\n' ∧
    span.column = 1 + (before.toList.reverse.takeWhile (· ≠ '\n')).length

theorem Span.cuts {source : String} {before inner after : List Char}
    (split : source.toList = before ++ (('<' :: inner ++ ['>']) ++ after)) :
    (Markup.spanFrom (Position.first.after before)
      (Position.first.after (before ++ ('<' :: inner ++ ['>'])))).Cuts source := by
  have whole :
      source = String.ofList before ++ String.ofList (('<' :: inner ++ ['>']) ++ after) := by
    rw [← String.ofList_append, ← split, String.ofList_toList]
  have stopped : source.toList = (before ++ ('<' :: inner ++ ['>'])) ++ after := by
    rw [split]
    simp
  have last : source.toList = (before ++ '<' :: inner) ++ '>' :: after := by
    rw [split]
    simp
  have length : Text.byteCount (before ++ ('<' :: inner ++ ['>'])) =
      Text.byteCount (before ++ '<' :: inner) + 1 := by
    rw [Text.byteCount_append, Text.byteCount_append, Text.byteCount_append]
    rfl
  have size : Text.byteCount source.toList =
      Text.byteCount (before ++ ('<' :: inner ++ ['>'])) + Text.byteCount after := by
    rw [stopped, Text.byteCount_append]
  simp only [Markup.spanFrom, Position.after_first]
  constructor
  · dsimp only
    rw [Text.utf8ByteSize_eq, size, Text.byteCount_append before]
    simp only [List.cons_append, Text.byteCount]
    have one : '<'.utf8Size = 1 := by decide
    omega
  · exact Text.valid_byteCount split
  · exact Text.valid_byteCount stopped
  · exact Text.byte_at (by decide) split
  · dsimp only
    rw [length, Nat.add_sub_cancel]
    exact Text.byte_at (by decide) last
  · refine ⟨_, _, whole, ?_, ?_, ?_⟩
    · rw [Text.utf8ByteSize_eq, String.toList_ofList]
    · rw [String.toList_ofList]
    · rw [String.toList_ofList]

/-- The children of the element lie strictly inside it, one behind the other. -/
structure Element.Encloses (element : Element) : Prop where
  inside : ∀ child ∈ element.children,
    element.span.start < child.span.start ∧ child.span.stop < element.span.stop
  apart : element.children.Pairwise fun child later => child.span.stop ≤ later.span.start

/-- Trees that lie in a stretch of the source, one behind the other. -/
structure Spread (source : String) (low high : Nat) (elements : List Element) : Prop where
  cuts : ∀ node ∈ Element.nodesOf elements, node.span.Cuts source
  encloses : ∀ node ∈ Element.nodesOf elements, node.Encloses
  within : ∀ node ∈ Element.nodesOf elements, low ≤ node.span.start ∧ node.span.stop ≤ high
  apart : elements.Pairwise fun child later => child.span.stop ≤ later.span.start
  ordered : ((Element.nodesOf elements).map fun node => node.span.start).Pairwise (· < ·)

namespace Spread

variable {source : String} {low high : Nat} {elements : List Element}

theorem nil : Spread source low high [] where
  cuts := by simp [Element.nodesOf]
  encloses := by simp [Element.nodesOf]
  within := by simp [Element.nodesOf]
  apart := .nil
  ordered := .nil

theorem widen {lower higher : Nat} (spread : Spread source low high elements) (below : lower ≤ low)
    (above : high ≤ higher) : Spread source lower higher elements :=
  { spread with
    within := fun node member =>
      ⟨Nat.le_trans below (spread.within node member).1,
        Nat.le_trans (spread.within node member).2 above⟩ }

private theorem mem_nodesOf {element : Element} (member : element ∈ elements) :
    element ∈ Element.nodesOf elements := by
  induction elements with
  | nil => cases member
  | cons first rest ih =>
      rw [Element.nodesOf]
      rcases List.mem_cons.mp member with rfl | later
      · obtain ⟨name, attributes, text, children, span⟩ := element
        rw [Element.nodes]
        exact List.mem_append_left _ List.mem_cons_self
      · exact List.mem_append_right _ (ih later)

private theorem nodesOf_cons (name : String) (attributes : List (String × String))
    (text : Option String) (children : List Element) (span : Span) (rest : List Element) :
    Element.nodesOf (⟨name, attributes, text, children, span⟩ :: rest) =
      ⟨name, attributes, text, children, span⟩ ::
        (Element.nodesOf children ++ Element.nodesOf rest) := by
  rw [Element.nodesOf, Element.nodes]
  rfl

/-- An element whose children are spread inside it, before what is spread behind it. -/
theorem cons {name : String} {attributes : List (String × String)} {text : Option String}
    {children : List Element} {span : Span} {start stop : Nat} (cut : span.Cuts source)
    (begins : low ≤ span.start) (inner : Spread source start stop children)
    (opened : span.start < start) (closed : stop < span.stop)
    (rest : Spread source span.stop high elements) (ends : span.stop ≤ high) :
    Spread source low high (⟨name, attributes, text, children, span⟩ :: elements) := by
  have extent := cut.extent
  have cases_node {holds : Element → Prop} (own : holds ⟨name, attributes, text, children, span⟩)
      (within : ∀ node ∈ Element.nodesOf children, holds node)
      (behind : ∀ node ∈ Element.nodesOf elements, holds node) :
      ∀ node ∈ Element.nodesOf (⟨name, attributes, text, children, span⟩ :: elements),
        holds node := by
    intro node member
    rw [nodesOf_cons] at member
    rcases List.mem_cons.mp member with rfl | others
    · exact own
    · rcases List.mem_append.mp others with inside | later
      · exact within node inside
      · exact behind node later
  constructor
  · exact cases_node cut inner.cuts rest.cuts
  · refine cases_node ⟨fun child member => ?_, inner.apart⟩ inner.encloses rest.encloses
    have placed := inner.within child (mem_nodesOf member)
    dsimp only
    omega
  · refine cases_node ⟨begins, ends⟩ (fun node member => ?_) (fun node member => ?_)
    · have placed := inner.within node member
      omega
    · have placed := rest.within node member
      omega
  · refine List.pairwise_cons.mpr ⟨fun later member => ?_, rest.apart⟩
    exact (rest.within later (mem_nodesOf member)).1
  · rw [nodesOf_cons, List.map_cons, List.map_append]
    refine List.pairwise_cons.mpr ⟨fun other member => ?_,
      List.pairwise_append.mpr ⟨inner.ordered, rest.ordered, fun first inside second behind => ?_⟩⟩
    · rcases List.mem_append.mp member with inside | behind
      · obtain ⟨node, listed, rfl⟩ := List.mem_map.mp inside
        have placed := inner.within node listed
        dsimp only
        omega
      · obtain ⟨node, listed, rfl⟩ := List.mem_map.mp behind
        have placed := rest.within node listed
        dsimp only
        omega
    · obtain ⟨node, listed, rfl⟩ := List.mem_map.mp inside
      obtain ⟨other, found, rfl⟩ := List.mem_map.mp behind
      have placed := inner.within node listed
      have later := rest.within other found
      have extended := (inner.cuts node listed).extent
      omega

end Spread

namespace Markup

open Text

private theorem TagText.source_empty (tag : TagText) :
    ∃ inner, tag.source ['/', '>'] = '<' :: inner ++ ['>'] :=
  ⟨tag.run ++ headingText tag.attributes tag.space ['/'], tag.source_append ['/'] ['>']⟩

private theorem element_source (tag : TagText) (inside : List Char) (closing : ClosingText) :
    ∃ inner, tag.source ['>'] ++ (inside ++ closing.source) = '<' :: inner ++ ['>'] :=
  ⟨tag.run ++ headingText tag.attributes tag.space ['>'] ++ inside ++
    '<' :: '/' :: (closing.run ++ closing.space), by
      simp [TagText.source, ClosingText.source, List.append_assoc]⟩

private theorem byteCount_tag (tag : TagText) (rest : List Char) :
    0 < byteCount (tag.source rest) := by
  have one : '<'.utf8Size = 1 := by decide
  rw [TagText.source, byteCount, one]
  omega

private theorem byteCount_closing (closing : ClosingText) : 0 < byteCount closing.source := by
  have one : '<'.utf8Size = 1 := by decide
  rw [ClosingText.source, byteCount, one]
  omega

theorem Spread.passed {source : String} {before : List Char} (part : List Char) {rest : Items}
    (spread : Spread source (byteCount (before ++ part))
      (byteCount ((before ++ part) ++ rest.source))
      (rest.children (Position.first.after (before ++ part)))) :
    Spread source (byteCount before) (byteCount (before ++ (part ++ rest.source)))
      (rest.children ((Position.first.after before).after part)) := by
  rw [← Position.after_append]
  refine spread.widen ?_ (Nat.le_of_eq (by rw [List.append_assoc]))
  rw [byteCount_append]
  omega

theorem Spread.node {source : String} {before inner part after : List Char} {rest : Items}
    {name : String} {attributes : List (String × String)} {text : Option String}
    {children : List Element} {start stop : Nat} (whole : part = '<' :: inner ++ ['>'])
    (split : source.toList = before ++ (part ++ (rest.source ++ after)))
    (within : Spread source start stop children) (opened : byteCount before < start)
    (closed : stop < byteCount (before ++ part))
    (tail : Spread source (byteCount (before ++ part)) (byteCount ((before ++ part) ++ rest.source))
      (rest.children (Position.first.after (before ++ part)))) :
    Spread source (byteCount before) (byteCount (before ++ (part ++ rest.source)))
      (⟨name, attributes, text, children,
          spanFrom (Position.first.after before) (Position.first.after (before ++ part))⟩ ::
        rest.children (Position.first.after (before ++ part))) := by
  have cut : (spanFrom (Position.first.after before) (Position.first.after (before ++ part))).Cuts
      source := by
    rw [whole] at split ⊢
    exact Span.cuts split
  have starts : (spanFrom (Position.first.after before)
      (Position.first.after (before ++ part))).start = byteCount before := by
    rw [spanFrom, Position.after_first before]
  have stops : (spanFrom (Position.first.after before)
      (Position.first.after (before ++ part))).stop = byteCount (before ++ part) := by
    rw [spanFrom, Position.after_first (before ++ part)]
  refine .cons cut (Nat.le_of_eq starts.symm) within (starts ▸ opened) (stops ▸ closed) ?_ ?_
  · rw [stops, ← List.append_assoc]
    exact tail
  · rw [stops, ← List.append_assoc, byteCount_append (before ++ part)]
    exact Nat.le_add_right _ _

/-- The elements of a content are spread where its written form stands. -/
theorem Items.spread {source : String} (items : Items) {before after : List Char}
    (split : source.toList = before ++ (items.source ++ after)) :
    Spread source (byteCount before) (byteCount (before ++ items.source))
      (items.children (Position.first.after before)) := by
  induction items generalizing before after with
  | nil => exact .nil
  | character c data rest ih =>
      have later : source.toList = (before ++ [c]) ++ (rest.source ++ after) := by
        rw [split, Items.source]
        simp
      exact Spread.passed [c] (ih later)
  | literal text rest ih =>
      have later : source.toList = (before ++ text.source) ++ (rest.source ++ after) := by
        rw [split, Items.source]
        simp
      exact Spread.passed text.source (ih later)
  | remark text rest ih =>
      have later : source.toList = (before ++ text.source) ++ (rest.source ++ after) := by
        rw [split, Items.source]
        simp
      exact Spread.passed text.source (ih later)
  | empty tag rest ih =>
      obtain ⟨inner, whole⟩ := tag.source_empty
      have here : source.toList = before ++ (tag.source ['/', '>'] ++ (rest.source ++ after)) := by
        rw [split, Items.source, List.append_assoc]
      have later : source.toList = (before ++ tag.source ['/', '>']) ++ (rest.source ++ after) := by
        rw [here, List.append_assoc]
      have size := byteCount_tag tag ['/', '>']
      rw [Items.children, Items.source]
      simp only [← Position.after_append]
      refine Spread.node whole here (@Spread.nil source (byteCount before + 1) (byteCount before))
        (Nat.lt_succ_self _) ?_ (ih later)
      rw [byteCount_append]
      omega
  | element tag inside closing rest insideIH restIH =>
      obtain ⟨inner, whole⟩ := element_source tag inside.source closing
      have here : source.toList = before ++
          ((tag.source ['>'] ++ (inside.source ++ closing.source)) ++ (rest.source ++ after)) := by
        rw [split, Items.source]
        simp only [List.append_assoc]
      have within : source.toList = (before ++ tag.source ['>']) ++
          (inside.source ++ (closing.source ++ (rest.source ++ after))) := by
        rw [here]
        simp only [List.append_assoc]
      have later : source.toList =
          (before ++ (tag.source ['>'] ++ (inside.source ++ closing.source))) ++
            (rest.source ++ after) := by
        rw [here]
        simp only [List.append_assoc]
      have opening := byteCount_tag tag ['>']
      have ending := byteCount_closing closing
      have opened : byteCount before < byteCount (before ++ tag.source ['>']) := by
        rw [byteCount_append]
        omega
      have closed : byteCount ((before ++ tag.source ['>']) ++ inside.source) <
          byteCount (before ++ (tag.source ['>'] ++ (inside.source ++ closing.source))) := by
        simp only [byteCount_append]
        omega
      have placed : Spread source _ _
          (⟨tag.name.localName, keptOf tag.attributes, inside.text, _, _⟩ :: _) :=
        Spread.node whole here (insideIH within) opened closed (restIH later)
      rw [Items.children, Items.source]
      simpa only [← Position.after_append, List.append_assoc] using placed

end Markup

/-- The span of every element of the tree cuts the source where the element stands, around those of
its children; in document order, elements begin one behind the other. -/
structure Element.Located (root : Element) (source : String) : Prop where
  cuts : ∀ node ∈ root.nodes, node.span.Cuts source
  encloses : ∀ node ∈ root.nodes, node.Encloses
  ordered : (root.nodes.map fun node => node.span.start).Pairwise (· < ·)

/-- Spans locate the elements of every source that is accepted. -/
theorem spans_locate_elements {source : String} {root : Element}
    (parsed : Element.parse source = .ok root) : root.Located source := by
  obtain ⟨document, written, single⟩ := Markup.parse_ok parsed
  have split : source.toList = document.lead ++ (document.items.source ++ []) := by
    rw [← written, List.append_nil]
    rfl
  have spread := document.items.spread split
  rw [← Markup.DocumentText.children, single] at spread
  have nodes : Element.nodesOf [root] = root.nodes := by
    simp [Element.nodesOf]
  exact ⟨nodes ▸ spread.cuts, nodes ▸ spread.encloses, nodes ▸ spread.ordered⟩

theorem marked_source_located :
    let source := "\ufeff<a>é\n <b c='>'/></a>"
    ∃ root, Element.parse source = .ok root ∧
      root.nodes.map Element.span = [⟨1, 2, 3, 24⟩, ⟨2, 2, 10, 20⟩] ∧ root.Located source := by
  intro source
  have shown : (Element.parse source).toOption.map (fun root => root.nodes.map Element.span) =
      some [⟨1, 2, 3, 24⟩, ⟨2, 2, 10, 20⟩] := by
    decide +kernel
  obtain ⟨root, parsed, spans⟩ := Element.ok_of_shown shown
  exact ⟨root, parsed, spans, spans_locate_elements parsed⟩

end HookRules

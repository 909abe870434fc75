import HookRules.Document.Reader

/-!
The written form of documents: a tree of what stands in a text, down to the single characters of its
data. A text is the written form of one tree at most. Elements follow from the tree by where their
parts stand; comments and instructions leave no trace but that data behind them is no text.
-/

set_option autoImplicit false

namespace HookRules

/-- The place after a text that is read from this one on. -/
def Position.after (position : Position) (text : List Char) : Position :=
  text.foldl Position.advance position

namespace Position

@[simp] theorem after_nil (position : Position) : position.after [] = position := rfl

@[simp] theorem after_cons (position : Position) (c : Char) (rest : List Char) :
    position.after (c :: rest) = (position.advance c).after rest := rfl

@[simp] theorem after_append (position : Position) (first second : List Char) :
    position.after (first ++ second) = (position.after first).after second :=
  List.foldl_append

end Position

namespace Markup

def Spaces (text : List Char) : Prop := ∀ c ∈ text, isSpace c = true

/-- The text does not begin with a character that passes the test. -/
def Stops (test : Char → Bool) (text : List Char) : Prop :=
  ∀ c rest, text = c :: rest → test c = false

section Stops

variable {test : Char → Bool}

private theorem stops_cons {c : Char} (fails : test c = false) (rest : List Char) :
    Stops test (c :: rest) := by
  intro found more same
  cases same
  exact fails

private theorem run_unique {first second before after : List Char}
    (firstPasses : ∀ c ∈ first, test c = true) (secondPasses : ∀ c ∈ second, test c = true)
    (firstStops : Stops test before) (secondStops : Stops test after)
    (same : first ++ before = second ++ after) : first = second ∧ before = after := by
  induction first generalizing second with
  | nil =>
      cases second with
      | nil => exact ⟨rfl, same⟩
      | cons c more =>
          have fails := firstStops c _ same
          rw [secondPasses c List.mem_cons_self] at fails
          cases fails
  | cons c rest ih =>
      cases second with
      | nil =>
          have fails := secondStops c _ same.symm
          rw [firstPasses c List.mem_cons_self] at fails
          cases fails
      | cons other more =>
          obtain ⟨rfl, remaining⟩ := List.cons.inj same
          obtain ⟨rfl, after⟩ := ih (fun d member => firstPasses d (List.mem_cons_of_mem _ member))
            (fun d member => secondPasses d (List.mem_cons_of_mem _ member)) remaining
          exact ⟨rfl, after⟩

end Stops

private theorem isNameChar_of_isSpace {c : Char} (space : isSpace c = true) :
    isNameChar c = false := by
  have blank : c = ' ' ∨ c = '\t' ∨ c = '\n' ∨ c = '\r' := by simpa [isSpace, or_assoc] using space
  rcases blank with rfl | rfl | rfl | rfl <;> decide +kernel

/-- The text goes on with neither a name nor white space. -/
structure Halts (text : List Char) : Prop where
  name : Stops isNameChar text
  space : Stops isSpace text

private theorem halts_mark {c : Char} (mark : c ∈ ['=', '>', '/', '?']) (rest : List Char) :
    Halts (c :: rest) := by
  have every : ['=', '>', '/', '?'].all (fun c => !isNameChar c && !isSpace c) = true := by
    decide +kernel
  have fails : isNameChar c = false ∧ isSpace c = false := by
    simpa using List.all_eq_true.mp every c mark
  exact ⟨stops_cons fails.1 rest, stops_cons fails.2 rest⟩

private theorem spaces_stop {space rest : List Char} (spaces : Spaces space)
    (stops : Stops isNameChar rest) : Stops isNameChar (space ++ rest) := by
  cases space with
  | nil => exact stops
  | cons c more => exact stops_cons (isNameChar_of_isSpace (spaces c List.mem_cons_self)) _

/-- What stands between two delimiters. The second one ends it wherever it comes first. -/
@[ext] structure Enclosed (opening ending : List Char) where
  body : List Char
  ends : ∀ tail, tail ≠ [] → tail <:+ body → ¬ ending <+: tail ++ ending

namespace Enclosed

variable {opening ending : List Char}

def source (enclosed : Enclosed opening ending) : List Char := opening ++ (enclosed.body ++ ending)

private theorem ends_early {enclosed : Enclosed opening ending} {part tail before after : List Char}
    (split : enclosed.body = part ++ tail) (same : ending ++ before = tail ++ (ending ++ after)) :
    tail = [] := by
  have within : ending <+: tail ++ ending := by
    apply List.prefix_of_prefix_length_le (List.prefix_append ending before)
    · rw [same, ← List.append_assoc]
      exact List.prefix_append _ _
    · simp
  cases tail with
  | nil => rfl
  | cons c more => exact absurd within (enclosed.ends _ (List.cons_ne_nil c more) ⟨part, split.symm⟩)

theorem unique {first second : Enclosed opening ending} {before after : List Char}
    (same : first.source ++ before = second.source ++ after) : first = second ∧ before = after := by
  simp only [source, List.append_assoc, List.append_cancel_left_eq] at same
  rcases List.append_eq_append_iff.mp same with ⟨tail, split, rest⟩ | ⟨tail, split, rest⟩
  · obtain rfl := ends_early split rest
    exact ⟨Enclosed.ext (by simpa using split.symm), by simpa using rest⟩
  · obtain rfl := ends_early split rest
    exact ⟨Enclosed.ext (by simpa using split), by simpa using rest.symm⟩

end Enclosed

abbrev CommentText := Enclosed "<!--".toList "-->".toList

abbrev LiteralText := Enclosed "<![CDATA[".toList "]]>".toList

/-- A processing instruction. It does not look like the declaration that may head a document. -/
@[ext] structure InstructionText extends Enclosed "<?".toList "?>".toList where
  undeclared : ¬ "xml ".toList <+: body

structure AttributeText where
  space : List Char
  run : List Char
  name : QualifiedName
  beforeEquals : List Char
  afterEquals : List Char
  quote : Char
  raw : List Char
  apart : space ≠ []
  spaces : Spaces space
  runs : ∀ c ∈ run, isNameChar c = true
  named : qualifiedName? run = some name
  spacesBefore : Spaces beforeEquals
  spacesAfter : Spaces afterEquals
  quotes : quote = '"' ∨ quote = '\''
  unquoted : quote ∉ raw

private theorem name_stops {run : List Char} {name : QualifiedName}
    (named : qualifiedName? run = some name)
    (runs : ∀ c ∈ run, isNameChar c = true) (rest : List Char) : Stops isSpace (run ++ rest) := by
  cases run with
  | nil => cases named
  | cons c more =>
      refine stops_cons (Bool.eq_false_iff.mpr fun space => ?_) _
      have passes := runs c List.mem_cons_self
      rw [isNameChar_of_isSpace space] at passes
      cases passes

namespace AttributeText

def source (text : AttributeText) : List Char :=
  text.space ++ (text.run ++ (text.beforeEquals ++ '=' :: (text.afterEquals ++
    text.quote :: (text.raw ++ [text.quote]))))

theorem unique {first second : AttributeText} {before after : List Char}
    (same : first.source ++ before = second.source ++ after) : first = second ∧ before = after := by
  obtain ⟨space, run, name, beforeEquals, afterEquals, quote, raw, _, spaces, runs, named,
    spacesBefore, spacesAfter, quotes, unquoted⟩ := first
  obtain ⟨space', run', name', beforeEquals', afterEquals', quote', raw', _, spaces', runs', named',
    spacesBefore', spacesAfter', quotes', unquoted'⟩ := second
  have quoteStops {quote : Char} (quotes : quote = '"' ∨ quote = '\'') (rest : List Char) :
      Stops isSpace (quote :: rest) := by
    rcases quotes with rfl | rfl <;> exact stops_cons (by decide) _
  have equalsHalts (rest : List Char) : Halts ('=' :: rest) := halts_mark (by decide) rest
  simp only [source, List.append_assoc, List.cons_append, List.nil_append] at same
  obtain ⟨rfl, names⟩ :=
    run_unique spaces spaces' (name_stops named runs _) (name_stops named' runs' _) same
  obtain ⟨rfl, equals⟩ := run_unique runs runs' (spaces_stop spacesBefore (equalsHalts _).name)
    (spaces_stop spacesBefore' (equalsHalts _).name) names
  obtain ⟨rfl, values⟩ :=
    run_unique spacesBefore spacesBefore' (equalsHalts _).space (equalsHalts _).space equals
  obtain ⟨rfl, quoted⟩ := run_unique spacesAfter spacesAfter' (quoteStops quotes _)
    (quoteStops quotes' _) (List.cons.inj values).2
  obtain ⟨rfl, inner⟩ := List.cons.inj quoted
  have others {raw : List Char} (unquoted : quote ∉ raw) : ∀ c ∈ raw, (c != quote) = true := by
    intro c member
    refine bne_iff_ne.mpr fun found => ?_
    rw [found] at member
    exact unquoted member
  have quoteEnds (rest : List Char) : Stops (fun c => c != quote) (quote :: rest) :=
    @stops_cons (fun c => c != quote) quote (bne_self_eq_false quote) rest
  obtain ⟨rfl, rest⟩ :=
    run_unique (others unquoted) (others unquoted') (quoteEnds _) (quoteEnds _) inner
  obtain rfl := Option.some.inj (named.symm.trans named')
  exact ⟨rfl, (List.cons.inj rest).2⟩

end AttributeText

def headingText (attributes : List AttributeText) (space rest : List Char) : List Char :=
  attributes.flatMap AttributeText.source ++ (space ++ rest)

section Heading

variable {attributes others : List AttributeText} {space blank before after : List Char}

private theorem headingText_stops (spaces : Spaces space) (stops : Stops isNameChar before) :
    Stops isNameChar (headingText attributes space before) := by
  cases attributes with
  | nil =>
      change Stops isNameChar (space ++ before)
      exact spaces_stop spaces stops
  | cons first rest =>
      obtain ⟨found, run, name, beforeEquals, afterEquals, quote, raw, apart, blanks, _⟩ := first
      cases found with
      | nil => exact absurd rfl apart
      | cons c more => exact stops_cons (isNameChar_of_isSpace (blanks c List.mem_cons_self)) _

private theorem headingText_unique (spaces : Spaces space) (blanks : Spaces blank)
    (halts : Halts before) (halts' : Halts after)
    (same : headingText attributes space before = headingText others blank after) :
    attributes = others ∧ space = blank ∧ before = after := by
  have apart (text : AttributeText) {space end' rest : List Char} (spaces : Spaces space)
      (halts : Halts end') : space ++ end' ≠ text.source ++ rest := by
    intro same
    simp only [AttributeText.source, List.append_assoc] at same
    obtain ⟨_, names⟩ :=
      run_unique spaces text.spaces halts.space (name_stops text.named text.runs _) same
    obtain ⟨_, run, name, _, _, _, _, _, _, runs, found, _⟩ := text
    cases run with
    | nil => cases found
    | cons c more =>
        have fails := halts.name c _ names
        rw [runs c List.mem_cons_self] at fails
        cases fails
  induction attributes generalizing others with
  | nil =>
      cases others with
      | nil => exact ⟨rfl, run_unique spaces blanks halts.space halts'.space same⟩
      | cons second more =>
          simp only [headingText, List.flatMap_nil, List.nil_append, List.flatMap_cons,
            List.append_assoc] at same
          exact absurd same (apart second spaces halts)
  | cons first rest ih =>
      cases others with
      | nil =>
          simp only [headingText, List.flatMap_nil, List.nil_append, List.flatMap_cons,
            List.append_assoc] at same
          exact absurd same.symm (apart first blanks halts')
      | cons second more =>
          simp only [headingText, List.flatMap_cons, List.append_assoc] at same
          obtain ⟨rfl, later⟩ := AttributeText.unique same
          obtain ⟨rfl, ended⟩ := ih later
          exact ⟨rfl, ended⟩

end Heading

/-- A start tag up to its last characters. -/
structure TagText where
  run : List Char
  name : QualifiedName
  attributes : List AttributeText
  space : List Char
  runs : ∀ c ∈ run, isNameChar c = true
  named : qualifiedName? run = some name
  spaces : Spaces space

namespace TagText

def source (tag : TagText) (rest : List Char) : List Char :=
  '<' :: (tag.run ++ headingText tag.attributes tag.space rest)

theorem source_append (tag : TagText) (first second : List Char) :
    tag.source (first ++ second) = tag.source first ++ second := by
  simp only [source, headingText, List.cons_append, List.append_assoc]

theorem unique {first second : TagText} {before after : List Char}
    (halts : Halts before) (halts' : Halts after)
    (same : first.source before = second.source after) : first = second ∧ before = after := by
  obtain ⟨run, name, attributes, space, runs, found, spaces⟩ := first
  obtain ⟨run', name', attributes', space', runs', found', spaces'⟩ := second
  obtain ⟨rfl, headings⟩ := run_unique runs runs' (headingText_stops spaces halts.name)
    (headingText_stops spaces' halts'.name) (List.cons.inj same).2
  obtain ⟨rfl, rfl, rest⟩ := headingText_unique spaces spaces' halts halts' headings
  obtain rfl := Option.some.inj (found.symm.trans found')
  exact ⟨rfl, rest⟩

end TagText

structure ClosingText where
  run : List Char
  name : QualifiedName
  space : List Char
  runs : ∀ c ∈ run, isNameChar c = true
  named : qualifiedName? run = some name
  spaces : Spaces space

namespace ClosingText

def source (closing : ClosingText) : List Char :=
  '<' :: '/' :: (closing.run ++ (closing.space ++ ['>']))

theorem unique {first second : ClosingText} {before after : List Char}
    (same : first.source ++ before = second.source ++ after) : first = second ∧ before = after := by
  obtain ⟨run, name, space, runs, found, spaces⟩ := first
  obtain ⟨run', name', space', runs', found', spaces'⟩ := second
  have endHalts (rest : List Char) : Halts ('>' :: rest) := halts_mark (by decide) rest
  simp only [source, List.cons_append, List.append_assoc, List.nil_append, List.cons.injEq,
    true_and] at same
  obtain ⟨rfl, spacing⟩ := run_unique runs runs' (spaces_stop spaces (endHalts _).name)
    (spaces_stop spaces' (endHalts _).name) same
  obtain ⟨rfl, ended⟩ := run_unique spaces spaces' (endHalts _).space (endHalts _).space spacing
  obtain rfl := Option.some.inj (found.symm.trans found')
  exact ⟨rfl, (List.cons.inj ended).2⟩

end ClosingText

/-- What a text begins with, by its first characters. -/
inductive Kind
  | none
  | character
  | literal
  | comment
  | instruction
  | tag

def kindOf : List Char → Kind
  | [] => .none
  | '<' :: '/' :: _ => .none
  | '<' :: '?' :: _ => .instruction
  | '<' :: '!' :: '-' :: _ => .comment
  | '<' :: '!' :: _ => .literal
  | '<' :: _ => .tag
  | _ :: _ => .character

/-- What leaves no trace in the tree. -/
inductive RemarkText
  | comment (text : CommentText)
  | instruction (text : InstructionText)

namespace RemarkText

def source : RemarkText → List Char
  | .comment text => text.source
  | .instruction text => text.source

def kind : RemarkText → Kind
  | .comment _ => .comment
  | .instruction _ => .instruction

private theorem kindOf_source (text : RemarkText) (rest : List Char) :
    kindOf (text.source ++ rest) = text.kind := by
  cases text <;> simp [source, kind, Enclosed.source, kindOf]

theorem unique {first second : RemarkText} {before after : List Char}
    (same : first.source ++ before = second.source ++ after) : first = second ∧ before = after := by
  have kinds : first.kind = second.kind := by
    rw [← first.kindOf_source before, ← second.kindOf_source after, same]
  cases first with
  | comment first =>
      cases second with
      | comment second =>
          obtain ⟨rfl, rest⟩ := Enclosed.unique same
          exact ⟨rfl, rest⟩
      | instruction second => cases kinds
  | instruction first =>
      cases second with
      | comment second => cases kinds
      | instruction second =>
          obtain ⟨enclosed, rest⟩ := Enclosed.unique same
          obtain rfl := InstructionText.ext (congrArg Enclosed.body enclosed)
          exact ⟨rfl, rest⟩

end RemarkText

/-- What stands inside an element, from the left. -/
inductive Items
  | nil
  | character (c : Char) (data : c ≠ '<') (rest : Items)
  | literal (text : LiteralText) (rest : Items)
  | remark (text : RemarkText) (rest : Items)
  | empty (tag : TagText) (rest : Items)
  | element (tag : TagText) (inside : Items) (closing : ClosingText) (rest : Items)

namespace Items

def source : Items → List Char
  | nil => []
  | character c _ rest => c :: rest.source
  | literal text rest => text.source ++ rest.source
  | remark text rest => text.source ++ rest.source
  | empty tag rest => tag.source ['/', '>'] ++ rest.source
  | element tag inside closing rest =>
    tag.source ['>'] ++ (inside.source ++ (closing.source ++ rest.source))

def kind : Items → Kind
  | nil => .none
  | character .. => .character
  | literal .. => .literal
  | remark text _ => text.kind
  | empty .. => .tag
  | element .. => .tag

/-- Nothing, or an end tag. -/
def Ends (text : List Char) : Prop := text = [] ∨ ∃ rest, text = '<' :: '/' :: rest

private theorem kindOf_tag (tag : TagText) (rest : List Char) :
    kindOf (tag.source rest) = .tag := by
  obtain ⟨run, name, attributes, space, runs, found, spaces⟩ := tag
  cases run with
  | nil => cases found
  | cons c more =>
      have named := runs c List.mem_cons_self
      have slash : c ≠ '/' := by
        rintro rfl
        exact absurd named (by decide +kernel)
      have question : c ≠ '?' := by
        rintro rfl
        exact absurd named (by decide +kernel)
      have exclamation : c ≠ '!' := by
        rintro rfl
        exact absurd named (by decide +kernel)
      simp only [TagText.source, List.cons_append]
      unfold kindOf
      split <;> grind

private theorem kindOf_source (items : Items) {rest : List Char} (ends : Ends rest) :
    kindOf (items.source ++ rest) = items.kind := by
  cases items with
  | nil => rcases ends with rfl | ⟨more, rfl⟩ <;> rfl
  | character c data more =>
      simp only [source, kind, List.cons_append]
      unfold kindOf
      split <;> simp_all
  | literal text more => simp [source, kind, Enclosed.source, kindOf]
  | remark text more =>
      rw [source, List.append_assoc]
      exact text.kindOf_source _
  | empty tag more =>
      rw [source, ← TagText.source_append, ← TagText.source_append]
      exact kindOf_tag tag _
  | element tag inside closing more =>
      rw [source, ← TagText.source_append, ← TagText.source_append]
      exact kindOf_tag tag _

private theorem ends_closing (closing : ClosingText) (rest : List Char) :
    Ends (closing.source ++ rest) :=
  .inr ⟨_, rfl⟩

private theorem kind_unique {items other : Items} {before after : List Char} (ends : Ends before)
    (ends' : Ends after) (same : items.source ++ before = other.source ++ after) :
    items.kind = other.kind := by
  rw [← kindOf_source items ends, ← kindOf_source other ends', same]

theorem unique {items other : Items} {before after : List Char} (ends : Ends before)
    (ends' : Ends after) (same : items.source ++ before = other.source ++ after) :
    items = other ∧ before = after := by
  have closes (rest : List Char) : Halts ('/' :: rest) := halts_mark (by decide) rest
  have opens (rest : List Char) : Halts ('>' :: rest) := halts_mark (by decide) rest
  induction items generalizing other before after with
  | nil =>
      have kinds := kind_unique ends ends' same
      cases other with
      | nil => exact ⟨rfl, same⟩
      | remark text rest => cases text <;> cases kinds
      | _ => cases kinds
  | character c data rest ih =>
      have kinds := kind_unique ends ends' same
      cases other with
      | character d data' more =>
          obtain ⟨rfl, later⟩ := List.cons.inj same
          obtain ⟨rfl, ended⟩ := ih ends ends' later
          exact ⟨rfl, ended⟩
      | remark text rest => cases text <;> cases kinds
      | _ => cases kinds
  | literal text rest ih =>
      have kinds := kind_unique ends ends' same
      cases other with
      | literal text' more =>
          simp only [source, List.append_assoc] at same
          obtain ⟨rfl, later⟩ := Enclosed.unique same
          obtain ⟨rfl, ended⟩ := ih ends ends' later
          exact ⟨rfl, ended⟩
      | remark text rest => cases text <;> cases kinds
      | _ => cases kinds
  | remark text rest ih =>
      have kinds := kind_unique ends ends' same
      cases other with
      | remark text' more =>
          simp only [source, List.append_assoc] at same
          obtain ⟨rfl, later⟩ := RemarkText.unique same
          obtain ⟨rfl, ended⟩ := ih ends ends' later
          exact ⟨rfl, ended⟩
      | _ => cases text <;> cases kinds
  | empty tag rest ih =>
      have kinds := kind_unique ends ends' same
      cases other with
      | empty tag' more =>
          simp only [source, ← TagText.source_append] at same
          obtain ⟨rfl, later⟩ := TagText.unique (closes _) (closes _) same
          have beyond : rest.source ++ before = more.source ++ after := by simpa using later
          obtain ⟨rfl, ended⟩ := ih ends ends' beyond
          exact ⟨rfl, ended⟩
      | element tag' inside closing more =>
          simp only [source, ← TagText.source_append] at same
          obtain ⟨_, later⟩ := TagText.unique (closes _) (opens _) same
          cases later
      | remark text rest => cases text <;> cases kinds
      | _ => cases kinds
  | element tag inside closing rest insideIH restIH =>
      have kinds := kind_unique ends ends' same
      cases other with
      | empty tag' more =>
          simp only [source, ← TagText.source_append] at same
          obtain ⟨_, later⟩ := TagText.unique (opens _) (closes _) same
          cases later
      | element tag' inside' closing' more =>
          simp only [source, ← TagText.source_append] at same
          obtain ⟨rfl, later⟩ := TagText.unique (opens _) (opens _) same
          have within : inside.source ++ (closing.source ++ (rest.source ++ before)) =
              inside'.source ++ (closing'.source ++ (more.source ++ after)) := by simpa using later
          obtain ⟨rfl, closed⟩ := insideIH (ends_closing closing _) (ends_closing closing' _) within
          obtain ⟨rfl, beyond⟩ := ClosingText.unique closed
          obtain ⟨rfl, ended⟩ := restIH ends ends' beyond
          exact ⟨rfl, ended⟩
      | remark text rest => cases text <;> cases kinds
      | _ => cases kinds

/-- What may stand outside the root: white space, comments, instructions and elements. -/
def Outer : Items → Prop
  | nil => True
  | character c _ rest => isSpace c = true ∧ rest.Outer
  | literal _ _ => False
  | remark _ rest => rest.Outer
  | empty _ rest => rest.Outer
  | element _ _ _ rest => rest.Outer

theorem Outer.begins {items : Items} (outer : items.Outer) {c : Char} {rest : List Char}
    (same : items.source = c :: rest) : isSpace c = true ∨ c = '<' := by
  cases items with
  | nil => cases same
  | character d data more =>
      cases same
      exact .inl outer.1
  | literal text more => exact outer.elim
  | remark text more =>
      cases text with
      | comment text => exact .inr (List.cons.inj same).1.symm
      | instruction text => exact .inr (List.cons.inj same).1.symm
  | empty tag more => exact .inr (List.cons.inj same).1.symm
  | element tag inside closing more => exact .inr (List.cons.inj same).1.symm

end Items

/-- The declaration that may head a document. It has a space behind its first word. -/
structure DeclarationText where
  attributes : List AttributeText
  space : List Char
  spaces : Spaces space
  begins : ∃ rest, headingText attributes space [] = ' ' :: rest

namespace DeclarationText

def source (declaration : DeclarationText) : List Char :=
  "<?xml".toList ++ headingText declaration.attributes declaration.space "?>".toList

private theorem begins_source (declaration : DeclarationText) (rest : List Char) :
    ∃ more, declaration.source ++ rest = "<?xml ".toList ++ more := by
  obtain ⟨more, begins⟩ := declaration.begins
  refine ⟨more ++ "?>".toList ++ rest, ?_⟩
  simp only [headingText, List.append_nil] at begins
  simp [source, headingText, ← List.append_assoc, begins]

theorem unique {first second : DeclarationText} {before after : List Char}
    (same : first.source ++ before = second.source ++ after) : first = second ∧ before = after := by
  obtain ⟨attributes, space, spaces, begins⟩ := first
  obtain ⟨attributes', space', spaces', begins'⟩ := second
  have halts (rest : List Char) : Halts ('?' :: rest) := halts_mark (by decide) rest
  have headings : headingText attributes space ('?' :: '>' :: before) =
      headingText attributes' space' ('?' :: '>' :: after) := by
    simpa [source, headingText] using same
  obtain ⟨rfl, rfl, ended⟩ := headingText_unique spaces spaces' (halts _) (halts _) headings
  exact ⟨rfl, by simpa using ended⟩

end DeclarationText

private theorem InstructionText.ne_declaration (text : InstructionText) (before after : List Char) :
    text.source ++ before ≠ "<?xml ".toList ++ after := by
  intro same
  have within : text.body ++ '?' :: '>' :: before = 'x' :: 'm' :: 'l' :: ' ' :: after := by
    simpa [Enclosed.source] using same
  have undeclared := text.undeclared
  generalize text.body = body at within undeclared
  rcases body with _ | ⟨a, _ | ⟨b, _ | ⟨c, _ | ⟨d, more⟩⟩⟩⟩ <;> simp_all

/-- A whole document: a byte order mark, a declaration, and what follows. -/
structure DocumentText where
  mark : Bool
  declaration : Option DeclarationText
  items : Items
  outer : items.Outer

namespace DocumentText

/-- What stands before the root and is none of the items. -/
def lead (document : DocumentText) : List Char :=
  (if document.mark then ['\ufeff'] else []) ++ document.declaration.elim [] (·.source)

def source (document : DocumentText) : List Char := document.lead ++ document.items.source

theorem unique {first second : DocumentText} (same : first.source = second.source) :
    first = second := by
  obtain ⟨mark, declaration, items, outer⟩ := first
  obtain ⟨mark', declaration', items', outer'⟩ := second
  have unmarked (declaration : Option DeclarationText) (items : Items) (outer : items.Outer)
      (rest : List Char) : declaration.elim [] (·.source) ++ items.source ≠ '\ufeff' :: rest := by
    intro marked
    cases declaration with
    | none =>
        rcases outer.begins marked with space | less
        · exact absurd space (by decide)
        · exact absurd less (by decide)
    | some declaration => cases marked
  have undeclared (declaration : DeclarationText) (items : Items) (rest : List Char) :
      items.source ≠ declaration.source ++ rest := by
    intro declared
    obtain ⟨more, begins⟩ := declaration.begins_source rest
    rw [begins] at declared
    have kinds := Items.kindOf_source items (.inl rfl : Items.Ends [])
    rw [List.append_nil, declared] at kinds
    cases items with
    | remark text after =>
        cases text with
        | comment text => cases kinds
        | instruction text => exact text.ne_declaration _ _ declared
    | _ => cases kinds
  have unheaded (declaration declaration' : Option DeclarationText)
      (same : declaration.elim [] (·.source) ++ items.source =
        declaration'.elim [] (·.source) ++ items'.source) :
      declaration = declaration' ∧ items = items' := by
    have ends : Items.Ends [] := .inl rfl
    cases declaration with
    | none =>
        cases declaration' with
        | none =>
            have bare : items.source ++ [] = items'.source ++ [] := by simpa using same
            exact ⟨rfl, (Items.unique ends ends bare).1⟩
        | some declaration' => exact absurd same (undeclared declaration' items _)
    | some declaration =>
        cases declaration' with
        | none => exact absurd same.symm (undeclared declaration items' _)
        | some declaration' =>
            obtain ⟨rfl, bare⟩ := DeclarationText.unique same
            have bare : items.source ++ [] = items'.source ++ [] := by simpa using bare
            exact ⟨rfl, (Items.unique ends ends bare).1⟩
  cases mark <;> cases mark' <;> simp only [source, lead, Bool.false_eq_true, if_false, if_true,
    List.nil_append, List.cons_append] at same
  · obtain ⟨rfl, rfl⟩ := unheaded _ _ same
    rfl
  · exact absurd same (unmarked declaration items outer _)
  · exact absurd same.symm (unmarked declaration' items' outer' _)
  · obtain ⟨rfl, rfl⟩ := unheaded _ _ (List.cons.inj same).2
    rfl

end DocumentText

end Markup

end HookRules

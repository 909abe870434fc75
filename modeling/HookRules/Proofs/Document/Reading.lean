import HookRules.Proofs.Document.Content

/-!
What is read of a whole document. A source that is accepted has a written form, and its root is the
only element of that.
-/

set_option autoImplicit false

namespace HookRules

namespace Markup

variable {cursor next : Cursor}

/-- The text may stand outside the root, before what else stands there. -/
def Leads (text : List Char) : Prop :=
  ∀ rest : Items, rest.Outer → ∃ items : Items, items.Outer ∧ items.source = text ++ rest.source ∧
    ∀ position, items.children position = rest.children (position.after text)

private theorem leads_nil : Leads [] := fun rest outer => ⟨rest, outer, rfl, fun _ => rfl⟩

theorem Leads.append {first second : List Char} (leads : Leads first) (later : Leads second) :
    Leads (first ++ second) := by
  intro rest outer
  obtain ⟨middle, inner, source, children⟩ := later rest outer
  obtain ⟨items, whole, before, places⟩ := leads middle inner
  refine ⟨items, whole, by rw [before, source, List.append_assoc], fun position => ?_⟩
  rw [places, children, Position.after_append]

private theorem leads_spaces {space : List Char} (spaces : Spaces space) : Leads space := by
  induction space with
  | nil => exact leads_nil
  | cons c more ih =>
      intro rest outer
      have blank := spaces c List.mem_cons_self
      have data : c ≠ '<' := by
        rintro rfl
        exact absurd blank (by decide)
      obtain ⟨items, inner, source, children⟩ :=
        ih (fun d member => spaces d (List.mem_cons_of_mem c member)) rest outer
      exact ⟨.character c data items, ⟨blank, inner⟩, congrArg (c :: ·) source,
        fun position => children _⟩

private theorem leads_remark (text : RemarkText) : Leads text.source :=
  fun rest outer => ⟨.remark text rest, outer, rfl, fun _ => rfl⟩

private theorem readMiscellany_ok {steps : Nat} {answer : Unit}
    (read : (readMiscellany steps).run cursor = .ok (answer, next)) :
    ∃ text, Leads text ∧ cursor.Over text next := by
  induction steps generalizing cursor with
  | zero =>
      obtain ⟨_, rfl⟩ := Reader.pure_ok.mp read
      exact ⟨[], leads_nil, .nothing _⟩
  | succ steps ih =>
      rw [readMiscellany] at read
      simp only [Reader.bind_ok, Reader.get_ok] at read
      obtain ⟨_, _, ⟨rfl, rfl⟩, read⟩ := read
      split at read
      · obtain ⟨_, rfl⟩ := Reader.pure_ok.mp read
        exact ⟨[], leads_nil, .nothing _⟩
      · simp only [Reader.bind_ok, Reader.get_ok] at read
        obtain ⟨_, spaced, blank, _, _, ⟨rfl, rfl⟩, read⟩ := read
        obtain ⟨space, spaces, along⟩ := skipSpaces_ok blank
        have remarked (text : RemarkText) {middle : Cursor}
            (passed : spaced.Over text.source middle)
            (later : (readMiscellany steps).run middle = .ok (answer, next)) :
            ∃ text, Leads text ∧ cursor.Over text next := by
          obtain ⟨rest, leads, onward⟩ := ih later
          exact ⟨space ++ (text.source ++ rest),
            (leads_spaces spaces).append ((leads_remark text).append leads),
            along.trans (passed.trans onward)⟩
        split at read
        · rename_i starts
          obtain ⟨_, middle, comment, later⟩ := Reader.bind_ok.mp read
          obtain ⟨rest, begins⟩ := Cursor.startsWith_iff.mp starts
          obtain ⟨text, passed⟩ := readComment_ok begins comment
          exact remarked (.comment text) passed later
        · simp only [Reader.bind_ok, Reader.get_ok] at read
          obtain ⟨_, _, ⟨rfl, rfl⟩, read⟩ := read
          split at read
          · rename_i starts
            obtain ⟨_, middle, instruction, later⟩ := Reader.bind_ok.mp read
            obtain ⟨rest, begins⟩ := Cursor.startsWith_iff.mp starts
            obtain ⟨text, passed⟩ := readInstruction_ok begins instruction
            exact remarked (.instruction text) passed later
          · obtain ⟨_, rfl⟩ := Reader.pure_ok.mp read
            exact ⟨space, leads_spaces spaces, along⟩

private theorem readDeclarationSpace_ok {answer : Unit}
    (read : readDeclarationSpace.run cursor = .ok (answer, next)) :
    ∃ space, Spaces space ∧ cursor.Over space next ∧
      ∀ c rest, next.rest = c :: rest → isSpace c = false → c ≠ '?' → space ≠ [] := by
  unfold readDeclarationSpace at read
  simp only [Reader.bind_ok, Reader.get_ok] at read
  obtain ⟨_, _, ⟨rfl, rfl⟩, read⟩ := read
  split at read
  · rename_i ended
    obtain ⟨_, rfl⟩ := Reader.pure_ok.mp read
    refine ⟨[], by simp [Spaces], .nothing _, fun c rest begins => ?_⟩
    rw [ended] at begins
    cases begins
  · rename_i d more begins
    split at read
    · rename_i blank
      obtain ⟨space, spaces, along⟩ := skipSpaces_ok read
      refine ⟨space, spaces, along, fun c rest follows dark _ => ?_⟩
      rintro rfl
      have same : d :: more = c :: rest := by rw [← begins, ← follows, along.rest]; rfl
      cases same
      rw [blank] at dark
      cases dark
    · split at read
      · rename_i starts
        obtain ⟨_, rfl⟩ := Reader.pure_ok.mp read
        obtain ⟨rest, question⟩ := Cursor.startsWith_iff.mp starts
        refine ⟨[], by simp [Spaces], .nothing _, fun c rest follows _ other => ?_⟩
        rw [question] at follows
        exact absurd (List.cons.inj follows).1.symm other
      · exact (Reader.fail_ok.mp read).elim

private theorem readDeclarationPart_ok {answer : Unit} {space : List Char} (spaces : Spaces space)
    (apart : space ≠ []) (read : readDeclarationPart.run cursor = .ok (answer, next)) :
    ∃ (text : AttributeText) (tail : List Char),
      text.source = space ++ tail ∧ cursor.Over tail next := by
  unfold readDeclarationPart at read
  simp only [Reader.bind_ok, Reader.pure_ok] at read
  obtain ⟨name, _, named, _, _, equals, ⟨_, raw⟩, _, quoted, _, rfl⟩ := read
  obtain ⟨run, runs, found, overName⟩ := readQualifiedName_ok named
  obtain ⟨beforeEquals, afterEquals, spacesBefore, spacesAfter, overEquals⟩ := readEquals_ok equals
  obtain ⟨quote, quotes, unquoted, overValue⟩ := readQuoted_ok quoted
  refine ⟨⟨space, run, name, beforeEquals, afterEquals, quote, raw, apart, spaces, runs, found,
    spacesBefore, spacesAfter, quotes, unquoted⟩, _, ?_, overName.trans (overEquals.trans overValue)⟩
  simp [AttributeText.source]

private theorem requireAhead_ok {answer : Unit} {text : String}
    (read : (requireAhead text).run cursor = .ok (answer, next)) :
    cursor = next ∧ ∃ rest, cursor.rest = text.toList ++ rest := by
  unfold requireAhead at read
  simp only [Reader.bind_ok, Reader.get_ok] at read
  obtain ⟨_, _, ⟨rfl, rfl⟩, read⟩ := read
  split at read
  · rename_i starts
    obtain ⟨_, rfl⟩ := Reader.pure_ok.mp read
    exact ⟨rfl, Cursor.startsWith_iff.mp starts⟩
  · rename_i other
    exact absurd (Cursor.startsWith_iff.mpr ⟨_, (expectText_ok read).rest⟩) other

/-- What is read of a declaration behind its version: parts, each with the white space before it,
and the white space that is left. -/
structure DeclarationRest (cursor : Cursor) (space : List Char) (next : Cursor)
    (parts : List AttributeText) (left tail : List Char) : Prop where
  spaces : Spaces left
  along : cursor.Over tail next
  source : headingText parts left [] = space ++ tail

private theorem readEncoding_ok {answer : Unit} {space : List Char} (spaces : Spaces space)
    (apart : ∀ c rest, cursor.rest = c :: rest → isSpace c = false → c ≠ '?' → space ≠ [])
    (read : readEncoding.run cursor = .ok (answer, next)) :
    ∃ parts left tail, DeclarationRest cursor space next parts left tail ∧
      ∀ c rest, next.rest = c :: rest → isSpace c = false → c ≠ '?' → left ≠ [] := by
  unfold readEncoding at read
  simp only [Reader.bind_ok, Reader.get_ok] at read
  obtain ⟨_, _, ⟨rfl, rfl⟩, read⟩ := read
  split at read
  · rename_i starts
    obtain ⟨_, middle, part, blank⟩ := Reader.bind_ok.mp read
    obtain ⟨rest, begins⟩ := Cursor.startsWith_iff.mp starts
    obtain ⟨text, tail, source, along⟩ :=
      readDeclarationPart_ok spaces (apart 'e' _ begins (by decide) (by decide)) part
    obtain ⟨left, spacesLeft, overLeft, due⟩ := readDeclarationSpace_ok blank
    exact ⟨[text], left, tail ++ left,
      ⟨spacesLeft, along.trans overLeft, by simp [headingText, source]⟩, due⟩
  · obtain ⟨_, rfl⟩ := Reader.pure_ok.mp read
    exact ⟨[], space, [], ⟨spaces, .nothing _, by simp [headingText]⟩, apart⟩

private theorem readStandalone_ok {answer : Unit} {space : List Char} (spaces : Spaces space)
    (apart : ∀ c rest, cursor.rest = c :: rest → isSpace c = false → c ≠ '?' → space ≠ [])
    (read : readStandalone.run cursor = .ok (answer, next)) :
    ∃ parts left tail, DeclarationRest cursor space next parts left tail := by
  unfold readStandalone at read
  simp only [Reader.bind_ok, Reader.get_ok] at read
  obtain ⟨_, _, ⟨rfl, rfl⟩, read⟩ := read
  split at read
  · rename_i starts
    obtain ⟨rest, begins⟩ := Cursor.startsWith_iff.mp starts
    obtain ⟨text, tail, source, along⟩ :=
      readDeclarationPart_ok spaces (apart 's' _ begins (by decide) (by decide)) read
    exact ⟨[text], [], tail, by simp [Spaces], along, by simp [headingText, source]⟩
  · obtain ⟨_, rfl⟩ := Reader.pure_ok.mp read
    exact ⟨[], space, [], spaces, .nothing _, by simp [headingText]⟩

private theorem readDeclaration_ok {answer : Unit} {more : List Char}
    (begins : cursor.rest = "<?xml ".toList ++ more)
    (read : readDeclaration.run cursor = .ok (answer, next)) :
    ∃ declaration : DeclarationText, cursor.Over declaration.source next := by
  unfold readDeclaration at read
  simp only [Reader.bind_ok, Reader.modify_ok] at read
  obtain ⟨_, _, rfl, _, _, blank, _, _, ahead, _, _, version, _, _, blank', _, _, encoding, _, _,
    standalone, _, _, spaced, ended⟩ := read
  have begun : cursor.rest = "<?xml".toList ++ ' ' :: more := begins
  have opened : cursor.Over "<?xml".toList (cursor.skip 5) := Cursor.skip_over begun
  obtain ⟨space, spaces, overSpace, due⟩ := readDeclarationSpace_ok blank
  obtain ⟨rfl, rest, first⟩ := requireAhead_ok ahead
  obtain ⟨text, tail, source, overText⟩ :=
    readDeclarationPart_ok spaces (due 'v' _ first (by decide) (by decide)) version
  obtain ⟨gap, gaps, overGap, dueGap⟩ := readDeclarationSpace_ok blank'
  obtain ⟨parts, left, tail', ⟨spacesLeft, overEncoding, sourceEncoding⟩, dueLeft⟩ :=
    readEncoding_ok gaps dueGap encoding
  obtain ⟨parts', left', tail'', spacesLeft', overStandalone, sourceStandalone⟩ :=
    readStandalone_ok spacesLeft dueLeft standalone
  obtain ⟨last, spacesLast, overLast⟩ := skipSpaces_ok spaced
  have whole := opened.trans (overSpace.trans (overText.trans (overGap.trans (overEncoding.trans
    (overStandalone.trans (overLast.trans (expectText_ok ended)))))))
  have same (rest : List Char) : headingText (text :: (parts ++ parts')) (left' ++ last) rest =
      space ++ (tail ++ (gap ++ (tail' ++ (tail'' ++ (last ++ rest))))) := by
    have first : parts.flatMap AttributeText.source ++ left = gap ++ tail' := by
      simpa [headingText] using sourceEncoding
    have second : parts'.flatMap AttributeText.source ++ left' = left ++ tail'' := by
      simpa [headingText] using sourceStandalone
    calc headingText (text :: (parts ++ parts')) (left' ++ last) rest
      _ = text.source ++ (parts.flatMap AttributeText.source ++
            ((parts'.flatMap AttributeText.source ++ left') ++ (last ++ rest))) := by
          simp [headingText]
      _ = text.source ++ ((parts.flatMap AttributeText.source ++ left) ++
            (tail'' ++ (last ++ rest))) := by
          rw [second]
          simp
      _ = space ++ (tail ++ (gap ++ (tail' ++ (tail'' ++ (last ++ rest))))) := by
          rw [first, source]
          simp
  have spacesEnd : Spaces (left' ++ last) := by
    intro c member
    rcases List.mem_append.mp member with inLeft | inLast
    · exact spacesLeft' c inLeft
    · exact spacesLast c inLast
  have beginsSpace : ∃ rest, headingText (text :: (parts ++ parts')) (left' ++ last) [] =
      ' ' :: rest := by
    have remaining := whole.rest
    rw [begun, List.append_assoc, List.append_cancel_left_eq] at remaining
    rw [same]
    cases space with
    | nil => exact absurd rfl (due 'v' _ first (by decide) (by decide))
    | cons c rest =>
        obtain ⟨rfl, _⟩ := List.cons.inj remaining
        exact ⟨_, rfl⟩
  refine ⟨⟨text :: (parts ++ parts'), left' ++ last, spacesEnd, beginsSpace⟩, ?_⟩
  rw [DeclarationText.source, same]
  exact whole

private theorem readMark_ok {answer : Unit} (read : readMark.run cursor = .ok (answer, next)) :
    ∃ mark : Bool, cursor.Over (if mark then ['\ufeff'] else []) next := by
  unfold readMark at read
  simp only [Reader.bind_ok, Reader.get_ok] at read
  obtain ⟨_, _, ⟨rfl, rfl⟩, read⟩ := read
  split at read
  · rename_i starts
    obtain rfl := Reader.modify_ok.mp read
    obtain ⟨rest, begins⟩ := Cursor.startsWith_iff.mp starts
    exact ⟨true, Cursor.skip_over begins⟩
  · obtain ⟨_, rfl⟩ := Reader.pure_ok.mp read
    exact ⟨false, .nothing _⟩

private theorem readHead_ok {answer : Unit} (read : readHead.run cursor = .ok (answer, next)) :
    ∃ declaration : Option DeclarationText, cursor.Over (declaration.elim [] (·.source)) next := by
  unfold readHead at read
  simp only [Reader.bind_ok, Reader.get_ok] at read
  obtain ⟨_, _, ⟨rfl, rfl⟩, read⟩ := read
  split at read
  · rename_i starts
    obtain ⟨rest, begins⟩ := Cursor.startsWith_iff.mp starts
    obtain ⟨declaration, along⟩ := readDeclaration_ok begins read
    exact ⟨some declaration, along⟩
  · obtain ⟨_, rfl⟩ := Reader.pure_ok.mp read
    exact ⟨none, .nothing _⟩

private theorem refuseDoctype_ok {answer : Unit}
    (read : refuseDoctype.run cursor = .ok (answer, next)) :
    cursor = next := by
  unfold refuseDoctype at read
  simp only [Reader.bind_ok, Reader.get_ok] at read
  obtain ⟨_, _, ⟨rfl, rfl⟩, read⟩ := read
  split at read
  · exact (Reader.throw_ok.mp read).elim
  · exact (Reader.pure_ok.mp read).2

private theorem readRoot_ok {steps : Nat} {root : Element}
    (read : (readRoot steps).run cursor = .ok (some root, next)) : Reads cursor root next := by
  unfold readRoot at read
  simp only [Reader.bind_ok, Reader.get_ok] at read
  obtain ⟨_, _, ⟨rfl, rfl⟩, read⟩ := read
  split at read
  · rename_i starts
    obtain ⟨rest, begins⟩ := Cursor.startsWith_iff.mp starts
    rw [map_eq_pure_bind] at read
    simp only [Reader.bind_ok, Reader.pure_ok] at read
    obtain ⟨_, _, element, same, rfl⟩ := read
    cases same
    exact (reads steps).1 begins element
  · obtain ⟨same, _⟩ := Reader.pure_ok.mp read
    cases same

private theorem endDocument_ok {found : Option Element} {root : Element}
    (read : (endDocument found).run cursor = .ok (root, next)) :
    found = some root ∧ cursor.rest = [] := by
  unfold endDocument at read
  simp only [Reader.bind_ok, Reader.get_ok] at read
  obtain ⟨_, _, ⟨rfl, rfl⟩, read⟩ := read
  split at read
  · exact absurd read Reader.not_fail_bind_ok
  · rename_i ended
    have empty : cursor.rest = [] := by simpa [Cursor.atEnd] using ended
    cases found with
    | none => exact (Reader.throw_ok.mp read).elim
    | some found =>
        obtain ⟨rfl, _⟩ := Reader.pure_ok.mp read
        exact ⟨rfl, empty⟩

theorem readDocument_ok {source : String} {root : Element} {final : Cursor}
    (read : readDocument.run (.ofText source) = .ok (root, final)) :
    ∃ document : DocumentText, document.source = source.toList ∧ document.children = [root] := by
  unfold readDocument at read
  simp only [Reader.bind_ok, Reader.get_ok] at read
  obtain ⟨_, _, ⟨rfl, rfl⟩, _, _, marked, _, headed, head, _, _, misc, _, start, blank, _, _, doctype,
    found, stop, element, _, last, misc', ended⟩ := read
  obtain ⟨rfl, finished⟩ := endDocument_ok ended
  obtain rfl := refuseDoctype_ok doctype
  obtain ⟨mark, overMark⟩ := readMark_ok marked
  obtain ⟨declaration, overHead⟩ := readHead_ok head
  obtain ⟨before, leads, overBefore⟩ := readMiscellany_ok misc
  obtain ⟨space, spaces, overSpace⟩ := skipSpaces_ok blank
  obtain ⟨behind, leadsBehind, overBehind⟩ := readMiscellany_ok misc'
  obtain ⟨rest, restOuter, restSource, restChildren⟩ := leadsBehind .nil trivial
  have overLead := overMark.trans overHead
  have overOuter := overBefore.trans overSpace
  have rooted : ∃ items : Items, items.Outer ∧ start.Over items.source last ∧
      items.children start.position = [root] := by
    have nothing : rest.children stop.position = [] := restChildren stop.position
    have overRest : stop.Over rest.source last := by
      rw [restSource, Items.source, List.append_nil]
      exact overBehind
    cases readRoot_ok element with
    | empty tag along children =>
        exact ⟨.empty tag rest, restOuter, along.trans overRest, by rw [children, nothing]⟩
    | element tag inside closing along children =>
        refine ⟨.element tag inside closing rest, restOuter, ?_, by rw [children, nothing]⟩
        have whole := along.trans overRest
        simpa only [Items.source, List.append_assoc] using whole
  obtain ⟨inner, innerOuter, overInner, children⟩ := rooted
  obtain ⟨items, outer, itemsSource, itemsChildren⟩ :=
    (leads.append (leads_spaces spaces)) inner innerOuter
  refine ⟨⟨mark, declaration, items, outer⟩, ?_, ?_⟩
  · have whole := (overLead.trans (overOuter.trans overInner)).rest
    rw [finished, List.append_nil] at whole
    rw [DocumentText.source, DocumentText.lead, itemsSource]
    exact whole.symm
  · have place : start.position = (Position.first.after (DocumentText.lead ⟨mark, declaration, items,
        outer⟩)).after (before ++ space) := by
      rw [overOuter.position, overLead.position]
      rfl
    rw [DocumentText.children, itemsChildren, ← place, children]

/-- A source that is accepted has a written form, whose only element is the root. -/
theorem parse_ok {source : String} {root : Element} (parsed : Element.parse source = .ok root) :
    ∃ document : DocumentText, document.source = source.toList ∧ document.children = [root] := by
  unfold Element.parse at parsed
  split at parsed
  · cases parsed
  · split at parsed
    · rename_i found final read
      cases parsed
      exact readDocument_ok read
    · cases parsed

end Markup

theorem Element.ok_of_shown {source : String} {β : Type} {shows : Element → β} {value : β}
    (shown : (Element.parse source).toOption.map shows = some value) :
    ∃ root, Element.parse source = .ok root ∧ shows root = value := by
  cases parsed : Element.parse source with
  | error error =>
      rw [parsed] at shown
      cases shown
  | ok root =>
      rw [parsed] at shown
      exact ⟨root, rfl, Option.some.inj shown⟩

end HookRules

import HookRules.Proofs.Document.Cursor

/-!
What is read of an element. Start tags, end tags, data, comments and instructions have a written
form, and so has an element with all that stands in it; the element follows from that form.
-/

set_option autoImplicit false

namespace HookRules.Markup

variable {cursor next : Cursor}

def Heading.kept (heading : Heading) : List (String × String) :=
  heading.attributes.map fun written => (written.name.localName, written.value)

private theorem Heading.declare_kept {heading after : Heading} {position : Position}
    {declared : Option String} {uri : String}
    (taken : heading.declare position declared uri = .ok after) : after.kept = heading.kept := by
  unfold declare at taken
  repeat' split at taken
  all_goals first
    | cases taken; rfl
    | cases taken

private theorem Heading.take_kept {heading after : Heading} {position : Position}
    {text : AttributeText} (taken : heading.take position text.name text.value = .ok after) :
    after.kept = heading.kept ++ keptOf [text] := by
  unfold take at taken
  split at taken
  · rename_i space
    rw [declare_kept taken]
    simp [keptOf, AttributeText.declares, space]
  · rename_i space
    split at taken
    · rename_i name
      rw [declare_kept taken]
      simp [keptOf, AttributeText.declares, name]
    · rename_i name
      cases taken
      simp [kept, keptOf, AttributeText.declares, space, name]

def TagEnd.source : TagEnd → List Char
  | .opened => ['>']
  | .closed => ['/', '>']
  | .cut => []

private theorem keptOf_cons (first : AttributeText) (rest : List AttributeText) :
    keptOf (first :: rest) = keptOf [first] ++ keptOf rest := by
  simp [keptOf, ← List.map_append, ← List.filter_append]

/-- A whole heading has the written form of attributes, white space and the end of the tag. -/
theorem readHeading_ok {steps : Nat} {heading after : Heading} {ending : TagEnd}
    (read : (readHeading steps heading).run cursor = .ok ((after, ending), next))
    (whole : ending ≠ .cut) :
    ∃ attributes space, Spaces space ∧
      cursor.Over (headingText attributes space ending.source) next ∧
      after.kept = heading.kept ++ keptOf attributes := by
  induction steps generalizing cursor heading with
  | zero =>
      obtain ⟨same, _⟩ := Reader.pure_ok.mp read
      exact absurd (Prod.mk.inj same).2.symm whole
  | succ steps ih =>
      rw [readHeading] at read
      simp only [Reader.bind_ok, Reader.get_ok] at read
      obtain ⟨_, _, ⟨rfl, rfl⟩, read⟩ := read
      split at read
      · obtain ⟨same, _⟩ := Reader.pure_ok.mp read
        exact absurd (Prod.mk.inj same).2.symm whole
      · simp only [Reader.bind_ok, Reader.get_ok] at read
        obtain ⟨_, _, ⟨rfl, rfl⟩, _, spaced, blank, _, _, ⟨rfl, rfl⟩, c, _, found, read⟩ := read
        obtain ⟨space, spaces, along⟩ := skipSpaces_ok blank
        obtain ⟨rfl, rest, begins⟩ := current_ok found
        have skipped : spaced.Over [c] (spaced.skip 1) := Cursor.skip_over begins
        have ended {stop : TagEnd} {last : Cursor}
            (rest : spaced.Over stop.source last) :
            ∃ attributes space, Spaces space ∧
              cursor.Over (headingText attributes space stop.source) last ∧
                heading.kept = heading.kept ++ keptOf attributes :=
          ⟨[], space, spaces, along.trans rest, (List.append_nil _).symm⟩
        split at read
        · rename_i slash
          simp only [Reader.bind_ok, Reader.modify_ok, Reader.pure_ok] at read
          obtain ⟨_, _, rfl, _, _, closing, same, rfl⟩ := read
          obtain ⟨rfl, rfl⟩ := Prod.mk.inj same
          subst slash
          exact ended (skipped.trans (expectChar_ok closing))
        · split at read
          · rename_i greater
            simp only [Reader.bind_ok, Reader.modify_ok, Reader.pure_ok] at read
            obtain ⟨_, _, rfl, same, rfl⟩ := read
            obtain ⟨rfl, rfl⟩ := Prod.mk.inj same
            subst greater
            exact ended skipped
          · split at read
            · exact absurd read Reader.not_fail_bind_ok
            · rename_i moved
              simp only [Reader.bind_ok, Reader.lift_ok] at read
              obtain ⟨name, _, named, _, _, equals, ⟨_, raw⟩, _, quoted, value, _, ⟨valued, rfl⟩,
                taken, _, ⟨takes, rfl⟩, later⟩ := read
              obtain ⟨run, runs, found, overName⟩ := readQualifiedName_ok named
              obtain ⟨beforeEquals, afterEquals, spacesBefore, spacesAfter, overEquals⟩ :=
                readEquals_ok equals
              obtain ⟨quote, quotes, unquoted, overValue⟩ := readQuoted_ok quoted
              have apart : space ≠ [] := by
                rintro rfl
                exact moved along.position.symm
              let first : AttributeText := ⟨space, run, name, beforeEquals, afterEquals, quote, raw,
                apart, spaces, runs, found, spacesBefore, spacesAfter, quotes, unquoted⟩
              have same : first.value = value := by
                rw [AttributeText.value, attributeValue_ok valued .first]
                rfl
              obtain ⟨attributes, last, blanks, overRest, kept⟩ := ih later
              refine ⟨first :: attributes, last, blanks, ?_, ?_⟩
              · have whole :=
                  along.trans (overName.trans (overEquals.trans (overValue.trans overRest)))
                simpa [headingText, AttributeText.source, first] using whole
              · have takes : heading.take spaced.position first.name first.value = .ok taken := by
                  rw [same]
                  exact takes
                rw [kept, Heading.take_kept takes, keptOf_cons first attributes, List.append_assoc]

private theorem readStartTag_ok {scope : Scope} {tag : StartTag} {more : List Char}
    (begins : cursor.rest = '<' :: more)
    (read : (readStartTag scope).run cursor = .ok (tag, next)) (whole : tag.ending ≠ .cut) :
    ∃ text : TagText, text.name = tag.name ∧ keptOf text.attributes = tag.attributes ∧
      cursor.Over (text.source tag.ending.source) next := by
  unfold readStartTag at read
  simp only [Reader.bind_ok, Reader.modify_ok, Reader.get_ok] at read
  obtain ⟨_, _, rfl, _, _, ⟨rfl, rfl⟩, name, _, named, read⟩ := read
  obtain ⟨run, runs, found, overName⟩ := readQualifiedName_ok named
  have opened : cursor.Over ['<'] (cursor.skip 1) := Cursor.skip_over begins
  split at read
  · exact absurd read Reader.not_fail_bind_ok
  · simp only [Reader.bind_ok, Reader.get_ok] at read
    obtain ⟨_, _, ⟨rfl, rfl⟩, ⟨heading, ending⟩, last, headed, read⟩ := read
    have checked : tag = ⟨name, heading.kept, heading.declared ++ scope, ending⟩ ∧ last = next := by
      split at read
      · obtain ⟨rfl, rfl⟩ := Reader.pure_ok.mp read
        exact ⟨rfl, rfl⟩
      · simp only [Reader.bind_ok, Reader.lift_ok, Reader.pure_ok] at read
        obtain ⟨_, _, ⟨_, rfl⟩, _, _, ⟨_, rfl⟩, rfl, rfl⟩ := read
        exact ⟨rfl, rfl⟩
    obtain ⟨rfl, rfl⟩ := checked
    obtain ⟨attributes, space, spaces, overHeading, kept⟩ := readHeading_ok headed whole
    exact ⟨⟨run, name, attributes, space, runs, found, spaces⟩, rfl, kept.symm,
      opened.trans (overName.trans overHeading)⟩

private theorem readEndTag_ok {name : QualifiedName} {more : List Char}
    (begins : cursor.rest = '<' :: '/' :: more) (read : readEndTag.run cursor = .ok (name, next)) :
    ∃ closing : ClosingText, closing.name = name ∧ cursor.Over closing.source next := by
  unfold readEndTag at read
  simp only [Reader.bind_ok, Reader.modify_ok, Reader.pure_ok] at read
  obtain ⟨_, _, rfl, found, _, named, _, _, blank, _, _, ended, rfl, rfl⟩ := read
  obtain ⟨run, runs, named, overName⟩ := readQualifiedName_ok named
  obtain ⟨space, spaces, overSpace⟩ := skipSpaces_ok blank
  have opened : cursor.Over ['<', '/'] (cursor.skip 2) := Cursor.skip_over begins
  exact ⟨⟨run, found, space, runs, named, spaces⟩, rfl,
    opened.trans (overName.trans (overSpace.trans (expectChar_ok ended)))⟩

private theorem enclosed_ends {ending body : List Char} {next last : Cursor}
    (free : ∀ tail, tail ≠ [] → tail <:+ body → ending.isPrefixOf (tail ++ next.rest) = false)
    (ended : next.Over ending last) (tail : List Char) (more : tail ≠ []) (within : tail <:+ body) :
    ¬ ending <+: tail ++ ending := by
  intro early
  have found := free tail more within
  rw [ended.rest, ← List.append_assoc] at found
  rw [List.isPrefixOf_iff_prefix.mpr (early.trans (List.prefix_append _ _))] at found
  cases found

theorem readComment_ok {answer : Unit} {more : List Char}
    (begins : cursor.rest = "<!--".toList ++ more)
    (read : readComment.run cursor = .ok (answer, next)) :
    ∃ text : CommentText, cursor.Over text.source next := by
  unfold readComment at read
  simp only [Reader.bind_ok, Reader.modify_ok, Reader.get_ok] at read
  obtain ⟨_, _, ⟨rfl, rfl⟩, _, _, rfl, body, _, inner, _, _, ended, checked⟩ := read
  obtain ⟨along, free, _⟩ := readUntil_ok inner
  have closes := expectText_ok ended
  have opened : cursor.Over "<!--".toList (cursor.skip 4) := Cursor.skip_over begins
  split at checked
  · exact (Reader.fail_ok.mp checked).elim
  · obtain ⟨_, rfl⟩ := Reader.pure_ok.mp checked
    exact ⟨⟨body, enclosed_ends free closes⟩, opened.trans (along.trans closes)⟩

private theorem readSection_ok {answer more : List Char}
    (begins : cursor.rest = "<![CDATA[".toList ++ more)
    (read : readSection.run cursor = .ok (answer, next)) :
    ∃ text : LiteralText, sectionText text.body = answer ∧ cursor.Over text.source next := by
  unfold readSection at read
  simp only [Reader.bind_ok, Reader.modify_ok, Reader.pure_ok] at read
  obtain ⟨_, _, rfl, body, _, inner, _, _, ended, rfl, rfl⟩ := read
  obtain ⟨along, free, _⟩ := readUntil_ok inner
  have closes := expectText_ok ended
  have opened : cursor.Over "<![CDATA[".toList (cursor.skip 9) := Cursor.skip_over begins
  exact ⟨⟨body, enclosed_ends free closes⟩, rfl, opened.trans (along.trans closes)⟩

private theorem readText_ok {answer more : List Char} {c : Char} (begins : cursor.rest = c :: more)
    (data : c ≠ '<') (read : readText.run cursor = .ok (answer, next)) :
    ∃ raw, raw ≠ [] ∧ '<' ∉ raw ∧ runText raw = answer ∧ cursor.Over raw next ∧
      ∀ d rest, next.rest = d :: rest → d = '<' := by
  unfold readText at read
  simp only [Reader.bind_ok, Reader.get_ok] at read
  obtain ⟨_, _, ⟨rfl, rfl⟩, raw, last, inner, read⟩ := read
  obtain ⟨along, free, stops⟩ := readUntil_ok inner
  split at read
  · obtain ⟨_, _, _, failed⟩ := Reader.bind_ok.mp read
    exact absurd failed Reader.not_fail_bind_ok
  · obtain ⟨text, rfl⟩ := Reader.lift_ok.mp read
    have ended : ∀ d rest, last.rest = d :: rest → d = '<' := by
      intro d rest follows
      rw [follows] at stops
      simpa using stops
    refine ⟨raw, ?_, ?_, textOf_ok text, along, ended⟩
    · rintro rfl
      exact data (ended c more (by rw [← begins, along.rest]; rfl))
    · intro member
      obtain ⟨before, after, split⟩ := List.append_of_mem member
      have goes := free ('<' :: after) (List.cons_ne_nil _ _) ⟨before, split.symm⟩
      simp at goes

theorem readInstruction_ok {answer : Unit} {more : List Char}
    (begins : cursor.rest = '<' :: '?' :: more)
    (read : readInstruction.run cursor = .ok (answer, next)) :
    ∃ text : InstructionText, cursor.Over text.source next := by
  unfold readInstruction at read
  simp only [Reader.bind_ok, Reader.get_ok] at read
  obtain ⟨_, _, ⟨rfl, rfl⟩, read⟩ := read
  split at read
  · exact absurd read Reader.not_fail_bind_ok
  · rename_i undeclared
    simp only [Reader.bind_ok, Reader.modify_ok] at read
    obtain ⟨_, _, rfl, _, _, named, _, _, blank, text, _, inner, ended⟩ := read
    obtain ⟨run, runs, overName⟩ := readName_ok named
    obtain ⟨space, spaces, overSpace⟩ := skipSpaces_ok blank
    obtain ⟨along, free, _⟩ := readUntil_ok inner
    have closes := expectText_ok ended
    have opened : cursor.Over "<?".toList (cursor.skip 2) := Cursor.skip_over begins
    have plain : '?' ∉ run ++ space := by
      intro member
      rcases List.mem_append.mp member with inRun | inSpace
      · exact absurd (runs _ inRun) (by decide +kernel)
      · exact absurd (spaces _ inSpace) (by decide)
    have whole := opened.trans (overName.trans (overSpace.trans (along.trans closes)))
    refine ⟨⟨⟨(run ++ space) ++ text, ?_⟩, ?_⟩, ?_⟩
    · rintro tail more ⟨before, same⟩
      rcases List.append_eq_append_iff.mp same with ⟨part, within, rest⟩ | ⟨part, _, inner⟩
      · cases part with
        | nil => exact enclosed_ends free closes tail more ⟨[], rest⟩
        | cons c part =>
            rintro ⟨after, early⟩
            have first : c = '?' := by
              rw [rest] at early
              exact (List.cons.inj early).1.symm
            exact plain (within ▸ first ▸ List.mem_append_right _ List.mem_cons_self)
      · exact enclosed_ends free closes tail more ⟨part, inner.symm⟩
    · rintro ⟨after, early⟩
      apply undeclared
      rw [Cursor.startsWith_iff, whole.rest]
      refine ⟨after ++ ("?>".toList ++ next.rest), ?_⟩
      have same := congrArg (· ++ ("?>".toList ++ next.rest)) early
      simpa using same.symm
    · simpa [Enclosed.source, List.append_assoc] using whole

/-- The element that is read has a written form, and stands where that begins. -/
inductive Reads (cursor : Cursor) (element : Element) (next : Cursor) : Prop
  | empty (tag : TagText) :
      cursor.Over (tag.source ['/', '>']) next →
      (∀ rest, (Items.empty tag rest).children cursor.position =
        element :: rest.children next.position) →
      Reads cursor element next
  | element (tag : TagText) (inside : Items) (closing : ClosingText) :
      cursor.Over (tag.source ['>'] ++ (inside.source ++ closing.source)) next →
      (∀ rest, (Items.element tag inside closing rest).children cursor.position =
        element :: rest.children next.position) →
      Reads cursor element next

/-- What the content of an element comes to behind what was seen of it before. -/
structure ReadsContent (cursor : Cursor) (before after : Content) (items : Items)
    (closing : ClosingText) (next : Cursor) : Prop where
  along : cursor.Over (items.source ++ closing.source) next
  children : after.children = before.children ++ items.children cursor.position
  text : after.text = if before.growing then joined before.text items.data else before.text

namespace Items

/-- Single characters before what follows. -/
def behind : (raw : List Char) → '<' ∉ raw → Items → Items
  | [], _, rest => rest
  | c :: raw, data, rest =>
    character c (fun same => data (same ▸ List.mem_cons_self))
      (behind raw (fun member => data (List.mem_cons_of_mem c member)) rest)

variable {raw : List Char} (data : '<' ∉ raw) (rest : Items)

private theorem source_behind : (behind raw data rest).source = raw ++ rest.source := by
  induction raw with
  | nil => rfl
  | cons c raw ih => exact congrArg (c :: ·) (ih _)

private theorem children_behind (position : Position) :
    (behind raw data rest).children position = rest.children (position.after raw) := by
  induction raw generalizing position with
  | nil => rfl
  | cons c raw ih => exact ih _ _

private theorem data_behind (more : raw ≠ [])
    (markup : ∀ c other items, rest ≠ character c other items) :
    (behind raw data rest).data = .run raw :: rest.data := by
  induction raw with
  | nil => exact absurd rfl more
  | cons c raw ih =>
      cases raw with
      | nil =>
          cases rest with
          | character d other items => exact absurd rfl (markup d other items)
          | _ => rfl
      | cons d raw => rw [behind, Items.data, ih _ (List.cons_ne_nil d raw)]

end Items

section ReadsContent

variable {middle : Cursor} {before after : Content} {items : Items} {closing : ClosingText}

theorem ReadsContent.ended (along : cursor.Over closing.source next) :
    ReadsContent cursor before before .nil closing next where
  along := along
  children := (List.append_nil _).symm
  text := (ite_self _).symm

theorem ReadsContent.remark {text : RemarkText} (along : cursor.Over text.source middle)
    (later : ReadsContent middle before.addOther after items closing next) :
    ReadsContent cursor before after (.remark text items) closing next where
  along := by
    rw [Items.source, List.append_assoc]
    exact along.trans later.along
  children := by rw [later.children, along.position, Items.children, Content.addOther]
  text := by
    rw [later.text]
    exact (ite_self _).symm

private theorem Content.addText_children (content : Content) (text : List Char) :
    (content.addText text).children = content.children := by
  rw [Content.addText]
  split <;> rfl

private theorem Content.addText_joined (content : Content) (datum : Datum) (data : List Datum) :
    (if (content.addText datum.text).growing then joined (content.addText datum.text).text data
      else (content.addText datum.text).text) =
      if content.growing then joined content.text (datum :: data) else content.text := by
  rw [Content.addText, joined_cons]
  split <;> rfl

theorem ReadsContent.literal {text : LiteralText} (along : cursor.Over text.source middle)
    (later :
      ReadsContent middle (before.addText (sectionText text.body)) after items closing next) :
    ReadsContent cursor before after (.literal text items) closing next where
  along := by
    rw [Items.source, List.append_assoc]
    exact along.trans later.along
  children := by
    rw [later.children, along.position, Items.children, Content.addText_children]
  text := by
    rw [later.text]
    exact before.addText_joined (.literal text.body) items.data

theorem ReadsContent.run {raw : List Char} (more : raw ≠ []) (data : '<' ∉ raw)
    (markup : ∀ c rest, middle.rest = c :: rest → c = '<') (along : cursor.Over raw middle)
    (later : ReadsContent middle (before.addText (runText raw)) after items closing next) :
    ReadsContent cursor before after (.behind raw data items) closing next where
  along := by
    rw [Items.source_behind, List.append_assoc]
    exact along.trans later.along
  children := by
    rw [later.children, along.position, Items.children_behind, Content.addText_children]
  text := by
    have apart : ∀ c other rest, items ≠ .character c other rest := by
      rintro c other rest rfl
      exact other (markup c _ later.along.rest)
    rw [later.text, Items.data_behind data items more apart]
    exact before.addText_joined (.run raw) items.data

theorem ReadsContent.child {child : Element} (reads : Reads cursor child middle)
    (later : ReadsContent middle (before.addChild child) after items closing next) :
    ∃ items, ReadsContent cursor before after items closing next := by
  cases reads with
  | empty tag along children =>
      refine ⟨.empty tag items, ?_, ?_, ?_⟩
      · rw [Items.source, List.append_assoc]
        exact along.trans later.along
      · rw [later.children, children, Content.addChild, List.append_assoc]
        rfl
      · rw [later.text]
        exact (ite_self _).symm
  | element tag inside closed along children =>
      refine ⟨.element tag inside closed items, ?_, ?_, ?_⟩
      · have whole := along.trans later.along
        simp only [List.append_assoc] at whole
        simpa only [Items.source, List.append_assoc] using whole
      · rw [later.children, children, Content.addChild, List.append_assoc]
        rfl
      · rw [later.text]
        exact (ite_self _).symm

end ReadsContent

/-- By induction on the steps: an element is read to the end of its end tag, and a content to the
end tag of its element. -/
theorem reads (steps : Nat) :
    (∀ {scope whenCut cursor next element more}, cursor.rest = '<' :: more →
      (readElement steps scope whenCut).run cursor = .ok (element, next) →
      Reads cursor element next) ∧
    (∀ {scope opened cursor next before after},
      (readContent steps scope opened before).run cursor = .ok (after, next) →
      ∃ items closing, ReadsContent cursor before after items closing next) := by
  induction steps with
  | zero =>
      constructor
      · intro scope whenCut cursor next element more _ read
        rw [readElement] at read
        exact (Reader.throw_ok.mp read).elim
      · intro scope opened cursor next before after read
        rw [readContent] at read
        exact (Reader.throw_ok.mp read).elim
  | succ steps ih =>
      obtain ⟨elementIH, contentIH⟩ := ih
      constructor
      · intro scope whenCut cursor next element more begins read
        rw [readElement] at read
        simp only [Reader.bind_ok, Reader.get_ok] at read
        obtain ⟨_, _, ⟨rfl, rfl⟩, tag, middle, tagged, read⟩ := read
        split at read
        · exact (Reader.throw_ok.mp read).elim
        · rename_i closed
          simp only [Reader.bind_ok, Reader.get_ok, Reader.pure_ok] at read
          obtain ⟨_, _, ⟨rfl, rfl⟩, rfl, rfl⟩ := read
          obtain ⟨text, named, kept, along⟩ := readStartTag_ok begins tagged (by simp [closed])
          rw [closed] at along
          refine .empty text along fun rest => ?_
          have stop := along.position
          simp only [TagEnd.source] at stop
          simp only [Items.children, named, kept, ← stop]
        · rename_i opened
          simp only [Reader.bind_ok, Reader.get_ok, Reader.pure_ok] at read
          obtain ⟨content, _, inner, _, _, ⟨rfl, rfl⟩, rfl, rfl⟩ := read
          obtain ⟨text, named, kept, along⟩ := readStartTag_ok begins tagged (by simp [opened])
          rw [opened] at along
          obtain ⟨items, closing, later⟩ := contentIH inner
          refine .element text items closing (along.trans later.along) fun rest => ?_
          have start := along.position
          have stop := later.along.position
          have children := later.children
          have found := later.text
          simp only [TagEnd.source] at start
          simp only [Position.after_append] at stop
          simp only [Items.children, named, kept, ← start, ← stop, Items.text, children, found,
            Content.start, List.nil_append, if_true]
      · intro scope opened cursor next before after read
        rw [readContent] at read
        simp only [Reader.bind_ok, Reader.get_ok] at read
        obtain ⟨_, _, ⟨rfl, rfl⟩, read⟩ := read
        split at read
        case h_1 => exact (Reader.throw_ok.mp read).elim
        case h_2 =>
          split at read
          · rename_i starts
            obtain ⟨_, middle, comment, later⟩ := Reader.bind_ok.mp read
            obtain ⟨rest, begins⟩ := Cursor.startsWith_iff.mp starts
            obtain ⟨text, along⟩ := readComment_ok begins comment
            obtain ⟨items, closing, content⟩ := contentIH later
            have remark : ReadsContent cursor before after (.remark (.comment text) items) closing
                next := content.remark along
            exact ⟨_, closing, remark⟩
          · split at read
            · rename_i starts
              obtain ⟨_, middle, literal, later⟩ := Reader.bind_ok.mp read
              obtain ⟨rest, begins⟩ := Cursor.startsWith_iff.mp starts
              obtain ⟨text, rfl, along⟩ := readSection_ok begins literal
              obtain ⟨items, closing, content⟩ := contentIH later
              exact ⟨_, closing, content.literal along⟩
            · exact (Reader.fail_ok.mp read).elim
        case h_3 begins =>
          obtain ⟨_, middle, instruction, later⟩ := Reader.bind_ok.mp read
          obtain ⟨text, along⟩ := readInstruction_ok begins instruction
          obtain ⟨items, closing, content⟩ := contentIH later
          have remark : ReadsContent cursor before after (.remark (.instruction text) items) closing
              next := content.remark along
          exact ⟨_, closing, remark⟩
        case h_4 begins =>
          obtain ⟨name, middle, ended, read⟩ := Reader.bind_ok.mp read
          obtain ⟨closing, _, along⟩ := readEndTag_ok begins ended
          split at read
          · obtain ⟨rfl, rfl⟩ := Reader.pure_ok.mp read
            exact ⟨.nil, closing, .ended along⟩
          · exact (Reader.fail_ok.mp read).elim
        case h_5 => exact (Reader.fail_ok.mp read).elim
        case h_6 begins =>
          obtain ⟨child, middle, element, later⟩ := Reader.bind_ok.mp read
          obtain ⟨items, closing, content⟩ := contentIH later
          obtain ⟨items, content⟩ := content.child (elementIH begins element)
          exact ⟨items, closing, content⟩
        case h_7 nonempty _ _ _ _ other =>
          obtain ⟨text, middle, data, later⟩ := Reader.bind_ok.mp read
          cases begins : cursor.rest with
          | nil => exact absurd begins nonempty
          | cons c more =>
              have markup : c ≠ '<' := by
                rintro rfl
                exact other more begins
              obtain ⟨raw, some, free, rfl, along, stops⟩ := readText_ok begins markup data
              obtain ⟨items, closing, content⟩ := contentIH later
              exact ⟨_, closing, content.run some free stops along⟩

end HookRules.Markup

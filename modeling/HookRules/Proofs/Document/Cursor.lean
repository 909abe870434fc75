import HookRules.Proofs.Document.Tree

/-!
What the parts of the reader move over. Each part that succeeds moves the cursor over the written
form of what it answers with; what references stand for does not depend on where they are read.
-/

set_option autoImplicit false

namespace HookRules

/-- The cursor moves over the text. -/
structure Cursor.Over (cursor : Cursor) (text : List Char) (next : Cursor) : Prop where
  rest : cursor.rest = text ++ next.rest
  position : next.position = cursor.position.after text

namespace Cursor.Over

variable {cursor middle next : Cursor} {first second : List Char}

theorem nothing (cursor : Cursor) : cursor.Over [] cursor := ⟨rfl, rfl⟩

theorem trans (along : cursor.Over first middle) (later : middle.Over second next) :
    cursor.Over (first ++ second) next where
  rest := by rw [along.rest, later.rest, List.append_assoc]
  position := by rw [later.position, along.position, Position.after_append]

end Cursor.Over

namespace Reader

variable {First Next : Type} {cursor final : Cursor}

theorem bind_ok {first : Reader First} {next : First → Reader Next} {answer : Next} :
    (first >>= next).run cursor = .ok (answer, final) ↔
      ∃ value middle, first.run cursor = .ok (value, middle) ∧
        (next value).run middle = .ok (answer, final) := by
  rw [StateT.run_bind]
  rcases first.run cursor with error | ⟨value, middle⟩
  · simp [bind, Except.bind]
  · constructor
    · exact fun read => ⟨value, middle, rfl, read⟩
    · rintro ⟨_, _, same, read⟩
      cases same
      exact read

theorem pure_ok {value answer : First} :
    (pure value : Reader First).run cursor = .ok (answer, final) ↔
      value = answer ∧ cursor = final := by
  rw [StateT.run_pure]
  simp [pure, Except.pure]

theorem get_ok {answer : Cursor} :
    (get : Reader Cursor).run cursor = .ok (answer, final) ↔ cursor = answer ∧ cursor = final := by
  simp [StateT.run_get, pure, Except.pure]

theorem modify_ok {move : Cursor → Cursor} {answer : Unit} :
    (modify move : Reader Unit).run cursor = .ok (answer, final) ↔ move cursor = final := by
  change (.ok ((), move cursor) : Except Malformed (Unit × Cursor)) = .ok (answer, final) ↔ _
  simp

private theorem set_ok {next : Cursor} {answer : Unit} :
    (set next : Reader Unit).run cursor = .ok (answer, final) ↔ next = final := by
  simp [StateT.run_set, pure, Except.pure]

theorem throw_ok {malformed : Malformed} {answer : First} :
    (throw malformed : Reader First).run cursor = .ok (answer, final) ↔ False := by
  simp [throw, throwThe, MonadExceptOf.throw, StateT.lift, StateT.run, bind, Except.bind]

theorem fail_ok {position : Position} {fault : Fault} {answer : First} :
    (Markup.fail position fault : Reader First).run cursor = .ok (answer, final) ↔ False :=
  throw_ok

theorem not_fail_bind_ok {position : Position} {fault : Fault} {next : First → Reader Next}
    {answer : Next} : (Markup.fail position fault >>= next).run cursor ≠ .ok (answer, final) := by
  intro read
  obtain ⟨_, _, failed, _⟩ := bind_ok.mp read
  exact fail_ok.mp failed

theorem lift_ok {value : Except Malformed First} {answer : First} :
    (liftM value : Reader First).run cursor = .ok (answer, final) ↔
      value = .ok answer ∧ cursor = final := by
  rcases value with error | value
  · simp [liftM, monadLift, MonadLift.monadLift, StateT.lift, StateT.run, bind, Except.bind]
  · simp [liftM, monadLift, MonadLift.monadLift, StateT.lift, StateT.run, bind, Except.bind, pure,
      Except.pure]

end Reader

namespace Cursor

private theorem skipRun_over (test : Char → Bool) (position : Position) (text : List Char) :
    ∃ run, (∀ c ∈ run, test c = true) ∧
      (⟨position, text⟩ : Cursor).Over run (skipRun test position text) := by
  induction text generalizing position with
  | nil => exact ⟨[], by simp, .nothing _⟩
  | cons c rest ih =>
      rw [skipRun]
      split
      · rename_i passes
        obtain ⟨run, passing, along⟩ := ih (position.advance c)
        refine ⟨c :: run, ?_, ?_⟩
        · intro d member
          rcases List.mem_cons.mp member with rfl | later
          · exact passes
          · exact passing d later
        · exact ⟨congrArg (c :: ·) along.rest, along.position⟩
      · exact ⟨[], by simp, .nothing _⟩

theorem skip_over {cursor : Cursor} {text rest : List Char} (begins : cursor.rest = text ++ rest) :
    cursor.Over text (cursor.skip text.length) := by
  obtain ⟨position, found⟩ := cursor
  obtain rfl : found = text ++ rest := begins
  induction text generalizing position with
  | nil => exact .nothing _
  | cons c more ih =>
      have along := ih (position.advance c)
      exact ⟨congrArg (c :: ·) along.rest, along.position⟩

theorem startsWith_iff {cursor : Cursor} {text : String} :
    cursor.startsWith text = true ↔ ∃ rest, cursor.rest = text.toList ++ rest := by
  rw [startsWith, List.isPrefixOf_iff_prefix]
  exact ⟨fun ⟨rest, same⟩ => ⟨rest, same.symm⟩, fun ⟨rest, same⟩ => ⟨rest, same.symm⟩⟩

end Cursor

namespace Markup

variable {cursor next : Cursor}

theorem skipSpaces_ok {answer : Unit} (read : skipSpaces.run cursor = .ok (answer, next)) :
    ∃ space, Spaces space ∧ cursor.Over space next := by
  obtain rfl := Reader.modify_ok.mp read
  exact Cursor.skipRun_over isSpace cursor.position cursor.rest

theorem current_ok {c : Char} (read : current.run cursor = .ok (c, next)) :
    cursor = next ∧ ∃ rest, cursor.rest = c :: rest := by
  unfold current at read
  simp only [Reader.bind_ok, Reader.get_ok] at read
  obtain ⟨_, _, ⟨rfl, rfl⟩, found⟩ := read
  split at found
  · exact (Reader.throw_ok.mp found).elim
  · rename_i d rest begins
    obtain ⟨rfl, rfl⟩ := Reader.pure_ok.mp found
    exact ⟨rfl, rest, begins⟩

theorem expectChar_ok {expected : Char} {answer : Unit}
    (read : (expectChar expected).run cursor = .ok (answer, next)) :
    cursor.Over [expected] next := by
  unfold expectChar at read
  simp only [Reader.bind_ok] at read
  obtain ⟨c, _, found, moved⟩ := read
  obtain ⟨rfl, rest, begins⟩ := current_ok found
  split at moved
  · rename_i same
    obtain rfl := Reader.modify_ok.mp moved
    subst same
    exact Cursor.skip_over begins
  · simp only [Reader.bind_ok, Reader.fail_ok] at moved
    obtain ⟨_, _, _, impossible⟩ := moved
    exact impossible.elim

theorem expectText_ok {expected : String} {answer : Unit}
    (read : (expectText expected).run cursor = .ok (answer, next)) :
    cursor.Over expected.toList next := by
  unfold expectText at read
  simp only [Reader.bind_ok, Reader.get_ok] at read
  obtain ⟨_, _, ⟨rfl, rfl⟩, moved⟩ := read
  split at moved
  · rename_i starts
    obtain rfl := Reader.set_ok.mp moved
    obtain ⟨rest, begins⟩ := Cursor.startsWith_iff.mp starts
    exact Cursor.skip_over begins
  · exact (Reader.fail_ok.mp moved).elim

/-- The text is read up to where the stop holds first, or up to the end. -/
structure Until (stop : List Char → Bool) (cursor : Cursor) (text : List Char) (next : Cursor) :
    Prop where
  along : cursor.Over text next
  free : ∀ tail, tail ≠ [] → tail <:+ text → stop (tail ++ next.rest) = false
  stops : next.rest = [] ∨ stop next.rest = true

private theorem readUntilFrom_ok {stop : List Char → Bool} {position : Position}
    {text found : List Char} (read : readUntilFrom stop position text = .ok (found, next)) :
    Until stop ⟨position, text⟩ found next := by
  induction text generalizing position found with
  | nil =>
      cases read
      exact ⟨.nothing _, fun tail more within => absurd (List.suffix_nil.mp within) more, .inl rfl⟩
  | cons c rest ih =>
      rw [readUntilFrom] at read
      split at read
      · cases read
      · split at read
        · rename_i stopped
          cases read
          exact ⟨.nothing _, fun tail more within => absurd (List.suffix_nil.mp within) more,
            .inr stopped⟩
        · rename_i goes
          cases later : readUntilFrom stop (position.advance c) rest with
          | error malformed =>
              rw [later] at read
              cases read
          | ok result =>
              obtain ⟨more, last⟩ := result
              rw [later] at read
              cases read
              obtain ⟨along, free, stops⟩ := ih later
              refine ⟨⟨congrArg (c :: ·) along.rest, along.position⟩, ?_, stops⟩
              intro tail nonempty within
              rcases List.suffix_cons_iff.mp within with rfl | inner
              · have remaining : rest = more ++ next.rest := along.rest
                rw [List.cons_append, ← remaining]
                simpa using goes
              · exact free tail nonempty inner

theorem readUntil_ok {stop : List Char → Bool} {found : List Char}
    (read : (readUntil stop).run cursor = .ok (found, next)) : Until stop cursor found next :=
  readUntilFrom_ok read

private theorem takeWhile_passes {test : Char → Bool} (text : List Char) :
    ∀ c ∈ text.takeWhile test, test c = true := List.all_eq_true.mp List.all_takeWhile

private theorem takeWhile_over {test : Char → Bool} (cursor : Cursor) :
    cursor.Over (cursor.rest.takeWhile test) (cursor.skip (cursor.rest.takeWhile test).length) :=
  Cursor.skip_over (List.takeWhile_append_dropWhile).symm

theorem readName_ok {name : String} (read : readName.run cursor = .ok (name, next)) :
    ∃ run, (∀ c ∈ run, isNameChar c = true) ∧ cursor.Over run next := by
  unfold readName at read
  simp only [Reader.bind_ok, Reader.get_ok] at read
  obtain ⟨_, _, ⟨rfl, rfl⟩, found⟩ := read
  refine ⟨cursor.rest.takeWhile isNameChar, takeWhile_passes _, ?_⟩
  split at found
  · exact (Reader.fail_ok.mp found).elim
  · split at found
    · simp only [Reader.bind_ok, Reader.set_ok, Reader.pure_ok] at found
      obtain ⟨_, _, rfl, _, rfl⟩ := found
      exact takeWhile_over cursor
    · exact (Reader.fail_ok.mp found).elim

theorem readQualifiedName_ok {name : QualifiedName}
    (read : readQualifiedName.run cursor = .ok (name, next)) :
    ∃ run, (∀ c ∈ run, isNameChar c = true) ∧ qualifiedName? run = some name ∧
      cursor.Over run next := by
  unfold readQualifiedName at read
  simp only [Reader.bind_ok, Reader.get_ok] at read
  obtain ⟨_, _, ⟨rfl, rfl⟩, found⟩ := read
  refine ⟨cursor.rest.takeWhile isNameChar, takeWhile_passes _, ?_⟩
  split at found
  · exact (Reader.fail_ok.mp found).elim
  · rename_i named
    simp only [Reader.bind_ok, Reader.set_ok, Reader.pure_ok] at found
    obtain ⟨_, _, rfl, rfl, rfl⟩ := found
    exact ⟨named, takeWhile_over cursor⟩

theorem readEquals_ok {answer : Unit} (read : readEquals.run cursor = .ok (answer, next)) :
    ∃ before after, Spaces before ∧ Spaces after ∧ cursor.Over (before ++ '=' :: after) next := by
  unfold readEquals at read
  simp only [Reader.bind_ok] at read
  obtain ⟨_, _, first, _, _, equals, last⟩ := read
  obtain ⟨before, spacesBefore, along⟩ := skipSpaces_ok first
  obtain ⟨after, spacesAfter, later⟩ := skipSpaces_ok last
  exact ⟨before, after, spacesBefore, spacesAfter, along.trans ((expectChar_ok equals).trans later)⟩

theorem readQuoted_ok {position : Position} {raw : List Char}
    (read : readQuoted.run cursor = .ok ((position, raw), next)) :
    ∃ quote, (quote = '"' ∨ quote = '\'') ∧ quote ∉ raw ∧
      cursor.Over (quote :: (raw ++ [quote])) next := by
  unfold readQuoted at read
  simp only [Reader.bind_ok] at read
  obtain ⟨quote, _, found, quoted⟩ := read
  obtain ⟨rfl, rest, begins⟩ := current_ok found
  split at quoted
  · rename_i quotes
    simp only [Reader.bind_ok, Reader.modify_ok, Reader.get_ok, Reader.pure_ok] at quoted
    obtain ⟨_, _, rfl, _, _, ⟨_, rfl⟩, value, _, inner, _, _, ended, same, rfl⟩ := quoted
    obtain ⟨rfl, rfl⟩ := Prod.mk.inj same
    obtain ⟨along, free, _⟩ := readUntil_ok inner
    refine ⟨quote, by simpa using quotes, ?_, ?_⟩
    · intro member
      obtain ⟨before, after, split⟩ := List.append_of_mem member
      have stopped := free (quote :: after) (List.cons_ne_nil _ _) ⟨before, split.symm⟩
      simp at stopped
    · have opened : cursor.Over [quote] (cursor.skip 1) := Cursor.skip_over begins
      exact opened.trans (along.trans (expectChar_ok ended))
  · simp only [Reader.bind_ok, Reader.get_ok] at quoted
    obtain ⟨_, _, _, failed⟩ := quoted
    exact (Reader.fail_ok.mp failed).elim

private theorem resolve_ok {covered : Nat} {position : Position} {raw : List Char}
    {written : List Written}
    (resolved : resolve covered position raw = .ok written) (other : Position) :
    resolve covered other raw = .ok written := by
  induction raw generalizing covered position other written with
  | nil => exact resolved
  | cons c rest ih =>
      cases covered with
      | succ covered => exact ih resolved _
      | zero =>
          rw [resolve] at resolved ⊢
          split at resolved
          · rename_i reference
            rw [if_pos reference]
            split at resolved
            · cases resolved
            · cases resolved
            · rename_i named used _
              cases later : resolve used (position.advance c) rest with
              | error malformed =>
                  rw [later] at resolved
                  cases resolved
              | ok more =>
                  rw [later] at resolved
                  rw [ih later]
                  exact resolved
          · rename_i plain
            rw [if_neg plain]
            cases later : resolve 0 (position.advance c) rest with
            | error malformed =>
                rw [later] at resolved
                cases resolved
            | ok more =>
                rw [later] at resolved
                rw [ih later]
                exact resolved

theorem attributeValue_ok {position : Position} {raw : List Char} {value : String}
    (valued : attributeValue position raw = .ok value) (other : Position) :
    attributeValue other raw = .ok value := by
  unfold attributeValue at valued ⊢
  cases resolved : resolve 0 position raw with
  | error malformed =>
      rw [resolved] at valued
      cases valued
  | ok written =>
      rw [resolved] at valued
      rw [resolve_ok resolved other]
      exact valued

theorem textOf_ok {position : Position} {raw text : List Char}
    (read : textOf position raw = .ok text) : runText raw = text := by
  unfold textOf at read
  unfold runText textOf
  cases resolved : resolve 0 position raw with
  | error malformed =>
      rw [resolved] at read
      cases read
  | ok written =>
      rw [resolved] at read
      rw [resolve_ok resolved .first]
      cases read
      rfl

end Markup

end HookRules

import HookRules.Text.Dedent

/-!
Texts and their lines. A text is cut into lines in one way only, each with a body and with all the
carriage returns and line feeds that follow it.
-/

set_option autoImplicit false

namespace HookRules.Text

structure Line where
  body : List Char
  ending : List Char

namespace Line

def whole (line : Line) : List Char := line.body ++ line.ending

/-- What stands on a line: a body, and the carriage returns that follow it. -/
structure Stands (body returns : List Char) : Prop where
  feedless : '\n' ∉ body
  bare : body.getLast? ≠ some '\r'
  returned : ∀ c ∈ returns, c = '\r'

/-- The lines of a text: each but the last ends with its line feed, and the last one is not empty.
-/
inductive Cut : List Line → Prop
  | nothing : Cut []
  | last {body returns : List Char} :
      Stands body returns → body ++ returns ≠ [] → Cut [⟨body, returns⟩]
  | next {body returns : List Char} {rest : List Line} :
      Stands body returns → Cut rest → Cut (⟨body, returns ++ ['\n']⟩ :: rest)

end Line

def join (lines : List Line) : List Char := lines.flatMap Line.whole

@[simp] theorem join_cons (line : Line) (rest : List Line) :
    join (line :: rest) = line.whole ++ join rest := rfl

namespace Line

variable {body returns : List Char} {lines : List Line}

private theorem stands_nil : Stands [] [] := ⟨by simp, by simp, by simp⟩

/-- A carriage return before others joins them; any other character is part of the body. -/
theorem Stands.cons (stands : Stands body returns) {c : Char} (feedless : c ≠ '\n') :
    ∃ longer more, Stands longer more ∧ longer ++ more = c :: (body ++ returns) := by
  cases body with
  | nil =>
      by_cases returned : c = '\r'
      · refine ⟨[], c :: returns, ⟨by simp, by simp, ?_⟩, rfl⟩
        simpa [returned] using stands.returned
      · refine ⟨[c], returns, ⟨?_, ?_, stands.returned⟩, rfl⟩
        · simpa using feedless.symm
        · simpa using returned
  | cons first body =>
      refine ⟨c :: first :: body, returns, ⟨?_, ?_, stands.returned⟩, rfl⟩
      · exact List.not_mem_cons_of_ne_of_not_mem feedless.symm stands.feedless
      · simpa [List.getLast?_cons_cons] using stands.bare

theorem exists_cut (text : List Char) : ∃ lines, Cut lines ∧ join lines = text := by
  induction text with
  | nil => exact ⟨[], .nothing, rfl⟩
  | cons c text ih =>
      obtain ⟨lines, cut, rfl⟩ := ih
      by_cases feed : c = '\n'
      · subst feed
        exact ⟨_, .next stands_nil cut, rfl⟩
      · cases cut with
        | nothing =>
            obtain ⟨longer, more, stands, same⟩ := stands_nil.cons feed
            exact ⟨_, .last stands (by simp [same]), by simpa [join, whole] using same⟩
        | last stood some =>
            obtain ⟨longer, more, stands, same⟩ := stood.cons feed
            exact ⟨_, .last stands (by simp [same]), by simpa [join, whole] using same⟩
        | @next body returns rest stood cut =>
            obtain ⟨longer, more, stands, same⟩ := stood.cons feed
            refine ⟨_, .next stands cut, ?_⟩
            have extended := congrArg (· ++ '\n' :: join rest) same
            simpa [whole] using extended

theorem Stands.suffix (stands : Stands body returns) {short : List Char} (suffix : short <:+ body) :
    Stands short returns := by
  obtain ⟨before, rfl⟩ := suffix
  refine ⟨fun member => stands.feedless (List.mem_append_right before member), ?_, stands.returned⟩
  cases short with
  | nil => simp
  | cons c short => simpa [List.getLast?_append] using stands.bare

private theorem Stands.feedless_append (stands : Stands body returns) : '\n' ∉ body ++ returns := by
  intro member
  rcases List.mem_append.mp member with inside | after
  · exact stands.feedless inside
  · cases stands.returned _ after

end Line

theorem pieces_feed {text : List Char} (feedless : '\n' ∉ text) (rest : List Char) :
    pieces (text ++ '\n' :: rest) = (text ++ ['\n']) :: pieces rest := by
  induction text with
  | nil => simp [pieces]
  | cons c text ih =>
      simp only [List.mem_cons, not_or] at feedless
      simp [pieces, Ne.symm feedless.1, ih feedless.2]

theorem pieces_feedless {text : List Char} (feedless : '\n' ∉ text) (some : text ≠ []) :
    pieces text = [text] := by
  induction text with
  | nil => exact absurd rfl some
  | cons c text ih =>
      simp only [List.mem_cons, not_or] at feedless
      cases text with
      | nil => simp [pieces, Ne.symm feedless.1]
      | cons d text =>
          rw [pieces, ih feedless.2 (by simp)]
          simp [Ne.symm feedless.1]

namespace Line

variable {lines : List Line}

theorem Cut.pieces_join (cut : Cut lines) : pieces (join lines) = lines.map whole := by
  induction cut with
  | nothing => rfl
  | last stands some => simpa [join, whole] using pieces_feedless stands.feedless_append some
  | @next body returns rest stands _ ih =>
      have found := pieces_feed stands.feedless_append (join rest)
      simpa [whole, ih] using found

theorem Cut.head {line : Line} (cut : Cut (line :: lines)) :
    ∃ returns, Stands line.body returns ∧
      (line.ending = returns ++ ['\n'] ∨ line.ending = returns ∧ line.whole ≠ []) := by
  cases cut with
  | last stands some => exact ⟨_, stands, .inr ⟨rfl, some⟩⟩
  | next stands _ => exact ⟨_, stands, .inl rfl⟩

theorem Cut.whole_ne_nil {line : Line} (cut : Cut (line :: lines)) : line.whole ≠ [] := by
  obtain ⟨returns, _, fed | ⟨_, some⟩⟩ := cut.head
  · simp [whole, fed]
  · exact some

theorem Cut.tail {line : Line} (cut : Cut (line :: lines)) : Cut lines := by
  cases cut with
  | last _ _ => exact .nothing
  | next _ rest => exact rest

theorem Cut.ending {line : Line} (cut : Cut (line :: lines)) :
    ∀ c ∈ line.ending, c = '\n' ∨ c = '\r' := by
  obtain ⟨returns, stands, same | ⟨same, _⟩⟩ := cut.head
  · rw [same]
    intro c member
    rcases List.mem_append.mp member with returned | feed
    · exact .inr (stands.returned c returned)
    · exact .inl (List.mem_singleton.mp feed)
  · rw [same]
    exact fun c member => .inr (stands.returned c member)

theorem Cut.parted (cut : Cut lines) {line : Line} (member : line ∈ lines) :
    dropEndWhile isLineEnding line.whole = line.body ∧
      takeEndWhile isLineEnding line.whole = line.ending := by
  induction lines with
  | nil => cases member
  | cons first rest ih =>
      rcases List.mem_cons.mp member with rfl | later
      · obtain ⟨returns, stands, _⟩ := cut.head
        have passes : ∀ c ∈ line.ending, isLineEnding c = true := by
          intro c after
          simpa [isLineEnding] using cut.ending c after
        have stays : ∀ c ∈ line.body.getLast?, isLineEnding c = false := by
          intro c last
          have other : c ≠ '\n' := fun same => stands.feedless (same ▸ List.mem_of_getLast? last)
          have bare : c ≠ '\r' := fun same => stands.bare (same ▸ last)
          simp [isLineEnding, other, bare]
        exact ⟨dropEndWhile_append passes stays, takeEndWhile_append passes stays⟩
      · exact ih cut.tail later

theorem Cut.unique {others : List Line} (cut : Cut lines) (again : Cut others)
    (same : join lines = join others) : lines = others := by
  have recovered {lines : List Line} (cut : Cut lines) :
      (pieces (join lines)).map (fun piece =>
        ⟨dropEndWhile isLineEnding piece, takeEndWhile isLineEnding piece⟩) = lines := by
    rw [cut.pieces_join, List.map_map]
    refine (List.map_congr_left fun line member => ?_).trans (List.map_id lines)
    obtain ⟨body, ending⟩ := cut.parted member
    simp only [Function.comp_apply, body, ending, id_eq]
  rw [← recovered cut, same, recovered again]

end Line

private theorem chomp_feedless {text : List Char} (feedless : '\n' ∉ text) : chomp text = text := by
  rw [chomp]
  split
  · rename_i rest reversed
    exact absurd (List.mem_reverse.mp (reversed ▸ List.mem_cons_self)) feedless
  · rename_i rest _ reversed
    exact absurd (List.mem_reverse.mp (reversed ▸ List.mem_cons_self)) feedless
  · rfl

private theorem chomp_feed (text : List Char) :
    chomp (text ++ ['\n']) = if text.getLast? = some '\r' then text.dropLast else text := by
  rw [chomp, List.reverse_append, ← List.head?_reverse]
  cases reversed : text.reverse with
  | nil => simpa using reversed
  | cons last before =>
      have whole : text = before.reverse ++ [last] := by
        rw [← List.reverse_cons, ← reversed, List.reverse_reverse]
      by_cases returned : last = '\r'
      · simp [whole, returned]
      · simp [whole, returned]

theorem lineChars_feed {text : List Char} (feedless : '\n' ∉ text)
    (bare : text.getLast? ≠ some '\r')
    (rest : List Char) : lineChars (text ++ '\n' :: rest) = text :: lineChars rest := by
  rw [lineChars, pieces_feed feedless, List.map_cons, chomp_feed, if_neg bare, lineChars]

theorem lineChars_feedless {text : List Char} (feedless : '\n' ∉ text) (some : text ≠ []) :
    lineChars text = [text] := by
  rw [lineChars, pieces_feedless feedless some, List.map_singleton, chomp_feedless feedless]

namespace Line

variable {lines : List Line}

theorem Cut.chomp (cut : Cut lines) {line : Line} (member : line ∈ lines) :
    ∃ returns, Stands line.body returns ∧ Text.chomp line.whole = line.body ++ returns := by
  induction cut with
  | nothing => cases member
  | @last body returns stands _ =>
      obtain rfl := List.mem_singleton.mp member
      exact ⟨returns, stands, chomp_feedless stands.feedless_append⟩
  | @next body returns rest stands _ ih =>
      rcases List.mem_cons.mp member with rfl | later
      · have chomped := chomp_feed (body ++ returns)
        rw [List.append_assoc] at chomped
        cases ends : returns.getLast? with
        | none =>
            obtain rfl := List.getLast?_eq_none_iff.mp ends
            refine ⟨[], stands, chomped.trans ?_⟩
            simp [stands.bare]
        | some c =>
            obtain ⟨before, rfl⟩ := List.getLast?_eq_some_iff.mp ends
            obtain rfl := stands.returned c (by simp)
            refine ⟨before, ⟨stands.feedless, stands.bare, ?_⟩, chomped.trans ?_⟩
            · intro c inside
              exact stands.returned c (List.mem_append_left _ inside)
            · simp [← List.append_assoc]
      · exact ih later

end Line

/-! ## Texts made of lines -/

theorem lineChars_returned {text : List Char} (feedless : '\n' ∉ text) (rest : List Char) :
    lineChars (text ++ '\r' :: '\n' :: rest) = text :: lineChars rest := by
  have returned : '\n' ∉ text ++ ['\r'] := by simp [feedless]
  have cut := pieces_feed returned rest
  rw [List.append_assoc, List.singleton_append] at cut
  rw [lineChars, cut, List.map_cons, chomp_feed, if_pos (by simp), List.dropLast_concat, lineChars]

theorem lines_feedless {text line : String} (member : line ∈ lines text) : '\n' ∉ line.toList := by
  obtain ⟨found, among, rfl⟩ := List.mem_map.mp member
  obtain ⟨cuts, cut, same⟩ := Line.exists_cut text.toList
  rw [← same, lineChars, cut.pieces_join, List.map_map] at among
  obtain ⟨piece, held, rfl⟩ := List.mem_map.mp among
  obtain ⟨returns, stands, chomped⟩ := cut.chomp held
  rw [String.toList_ofList, Function.comp_apply, chomped]
  exact stands.feedless_append

/-- The text of the lines. A line may end in a carriage return, so each gets one of its own. -/
def ofLines (lines : List String) : String :=
  String.ofList (lines.flatMap fun line => line.toList ++ ['\r', '\n'])

theorem lines_ofLines {text : List String} (feedless : ∀ line ∈ text, '\n' ∉ line.toList) :
    lines (ofLines text) = text := by
  rw [lines, ofLines, String.toList_ofList]
  induction text with
  | nil => rfl
  | cons line rest ih =>
      obtain ⟨first, others⟩ := List.forall_mem_cons.mp feedless
      have cut := lineChars_returned first
        (rest.flatMap fun line => line.toList ++ ['\r', '\n'])
      simp only [List.flatMap_cons, List.append_assoc, List.cons_append, List.nil_append] at cut ih ⊢
      rw [cut, List.map_cons, String.ofList_toList, ih others]

end HookRules.Text

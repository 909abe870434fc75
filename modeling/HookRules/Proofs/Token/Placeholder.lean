import HookRules.Token.Expansion

/-!
Placeholders where they stand in a text. Scanning finds every placeholder that the text contains,
since none overlaps another, and nothing else; texts that leave no dollar sign open are scanned
piece by piece.
-/

set_option autoImplicit false

namespace HookRules

/-- What a placeholder may name. -/
def IsName (name : List Char) : Prop := name ≠ [] ∧ ∀ c ∈ name, isNameChar c = true

/-- A placeholder of the name stands somewhere in the text. -/
def Occurs (name text : List Char) : Prop :=
  IsName name ∧ ∃ before after, text = before ++ (Fragment.placeholder name).source ++ after

def BeginsPlaceholder (text : List Char) : Prop :=
  ∃ name rest, IsName name ∧ text = (Fragment.placeholder name).source ++ rest

/-- Every dollar sign begins a placeholder, or is followed by a character that is neither a dollar
sign nor an opening brace. -/
def Guarded (text : List Char) : Prop :=
  ∀ before after, text = before ++ '$' :: after →
    BeginsPlaceholder ('$' :: after) ∨ ∃ c rest, after = c :: rest ∧ c ≠ '$' ∧ c ≠ '{'

private theorem source_placeholder_append (name rest : List Char) :
    (Fragment.placeholder name).source ++ rest = '$' :: '{' :: (name ++ '}' :: rest) := by
  simp [Fragment.source]

instance (name : List Char) : Decidable (IsName name) :=
  decidable_of_iff (name ≠ [] ∧ name.all isNameChar = true) (by rw [List.all_eq_true, IsName])

private theorem IsName.dollar_not_mem {name : List Char} (named : IsName name) : '$' ∉ name := by
  intro member
  exact absurd (named.2 '$' member) (by decide)

namespace Fragment

def written (fragments : List Fragment) : List Char := fragments.flatMap source

theorem written_append (first second : List Fragment) :
    written (first ++ second) = written first ++ written second := List.flatMap_append

private theorem takeWhile_name {name : List Char} (named : IsName name) (rest : List Char) :
    (name ++ '}' :: rest).takeWhile isNameChar = name := by
  have brace : isNameChar '}' = false := by decide
  rw [List.takeWhile_append_of_pos named.2, List.takeWhile_cons_of_neg (by simp [brace]),
    List.append_nil]

theorem name?_eq_some {text name : List Char} :
    name? text = some name ↔ IsName name ∧ ∃ rest, text = '{' :: (name ++ '}' :: rest) := by
  constructor
  · intro found
    unfold name? at found
    split at found
    · rename_i inside
      dsimp only at found
      obtain ⟨tail, parts⟩ := List.takeWhile_prefix isNameChar (l := inside)
      split at found
      · rename_i c more after taken dropped
        cases found
        refine ⟨⟨by rw [taken]; exact List.cons_ne_nil c more, ?_⟩, after, ?_⟩
        · intro d member
          exact List.all_eq_true.mp List.all_takeWhile d member
        · have left : (inside.takeWhile isNameChar ++ tail).drop
              (inside.takeWhile isNameChar).length = tail := List.drop_left
          rw [parts] at left
          rw [← dropped, left, parts]
      · cases found
    · cases found
  · rintro ⟨named, rest, rfl⟩
    rw [name?, takeWhile_name named, List.drop_left]
    cases name with
    | nil => exact absurd rfl named.1
    | cons c more => rfl

theorem name?_eq_none {text : List Char} (plain : ¬ BeginsPlaceholder ('$' :: text)) :
    name? text = none := by
  cases found : name? text with
  | none => rfl
  | some name =>
      obtain ⟨named, rest, rfl⟩ := name?_eq_some.mp found
      exact absurd ⟨name, rest, named, (source_placeholder_append name rest).symm⟩ plain

private theorem scan_drop (skip : Nat) (text : List Char) :
    scan skip text = ofText (text.drop skip) := by
  induction text generalizing skip with
  | nil => cases skip <;> rfl
  | cons c rest ih =>
      cases skip with
      | zero => rfl
      | succ more => exact ih more

theorem ofText_placeholder {name : List Char} (named : IsName name) (rest : List Char) :
    ofText ((placeholder name).source ++ rest) = .placeholder name :: ofText rest := by
  have found : name? ('{' :: (name ++ '}' :: rest)) = some name :=
    name?_eq_some.mpr ⟨named, rest, rfl⟩
  rw [source_placeholder_append, ofText, scan, if_pos rfl, found]
  dsimp only
  have skipped : ('{' :: (name ++ '}' :: rest)).drop (name.length + 2) = rest := by
    rw [List.drop_succ_cons, List.append_cons]
    exact List.drop_left' (by simp)
  rw [scan_drop, skipped]

theorem ofText_char {c : Char} {rest : List Char} (plain : ¬ BeginsPlaceholder (c :: rest)) :
    ofText (c :: rest) = .char c :: ofText rest := by
  rw [ofText, scan]
  by_cases dollar : c = '$'
  · subst dollar
    rw [if_pos rfl, name?_eq_none plain]
    rfl
  · rw [if_neg dollar]
    rfl

end Fragment

/-- How a text is read: as a placeholder where one begins, and else character by character. -/
inductive Reads : List Char → List Fragment → Prop
  | nil : Reads [] []
  | placeholder {name rest fragments} :
      IsName name → Reads rest fragments →
      Reads ((Fragment.placeholder name).source ++ rest) (.placeholder name :: fragments)
  | char {c rest fragments} :
      ¬ BeginsPlaceholder (c :: rest) → Reads rest fragments →
      Reads (c :: rest) (.char c :: fragments)

theorem Reads.fragments_eq {text : List Char} {fragments : List Fragment}
    (reads : Reads text fragments) : Fragment.ofText text = fragments := by
  induction reads with
  | nil => rfl
  | placeholder named _ ih => rw [Fragment.ofText_placeholder named, ih]
  | char plain _ ih => rw [Fragment.ofText_char plain, ih]

theorem reads_ofText (text : List Char) : Reads text (Fragment.ofText text) := by
  induction size : text.length using Nat.strongRecOn generalizing text with
  | ind size ih =>
      by_cases begins : BeginsPlaceholder text
      · obtain ⟨name, rest, named, rfl⟩ := begins
        rw [Fragment.ofText_placeholder named]
        refine .placeholder named (ih rest.length ?_ rest rfl)
        rw [← size, List.length_append]
        simp [Fragment.source]
      · cases text with
        | nil => exact .nil
        | cons c rest =>
            rw [Fragment.ofText_char begins]
            exact .char begins (ih rest.length (by rw [← size]; exact Nat.lt_succ_self _) rest rfl)

theorem written_ofText (text : List Char) : Fragment.written (Fragment.ofText text) = text := by
  have reads := reads_ofText text
  generalize Fragment.ofText text = fragments at reads
  induction reads with
  | nil => rfl
  | placeholder named _ ih => rw [Fragment.written, List.flatMap_cons, ← Fragment.written, ih]
  | char plain _ ih =>
      rw [Fragment.written, List.flatMap_cons, ← Fragment.written, ih]
      rfl

private theorem name_unique {name other after rest : List Char} (named : IsName name)
    (otherNamed : IsName other) (same : (Fragment.placeholder name).source ++ after =
      (Fragment.placeholder other).source ++ rest) : name = other := by
  rw [source_placeholder_append, source_placeholder_append, List.cons.injEq] at same
  have first := Fragment.name?_eq_some.mpr ⟨named, after, rfl⟩
  have second := Fragment.name?_eq_some.mpr ⟨otherNamed, rest, rfl⟩
  rw [same.2, second] at first
  exact (Option.some.inj first).symm

private theorem source_tail_no_dollar {name before after : List Char} {c : Char}
    (named : IsName name)
    (parts : (Fragment.placeholder name).source = c :: before ++ '$' :: after) : False := by
  have tail : '{' :: (name ++ ['}']) = before ++ '$' :: after := by
    have same := source_placeholder_append name []
    rw [List.append_nil, parts, List.cons_append, List.cons.injEq] at same
    exact same.2.symm
  have member : '$' ∈ '{' :: (name ++ ['}']) := by
    rw [tail]
    exact List.mem_append_right _ List.mem_cons_self
  simp [named.dollar_not_mem] at member

theorem Reads.finds {text name after : List Char} {fragments : List Fragment}
    (reads : Reads text fragments) (named : IsName name) (before : List Char)
    (parts : text = before ++ (Fragment.placeholder name).source ++ after) :
    .placeholder name ∈ fragments := by
  induction reads generalizing before with
  | nil =>
      rw [List.append_assoc, source_placeholder_append] at parts
      exact absurd parts.symm (List.append_ne_nil_of_right_ne_nil _ (List.cons_ne_nil _ _))
  | @placeholder held rest fragments heldNamed _ ih =>
      rw [List.append_assoc] at parts
      rcases List.append_eq_append_iff.mp parts with ⟨between, _, later⟩ | ⟨overlap, whole, later⟩
      · rw [← List.append_assoc] at later
        exact List.mem_cons_of_mem _ (ih between later)
      · cases before with
        | nil =>
            rw [List.nil_append] at whole parts
            rw [name_unique heldNamed named parts]
            exact List.mem_cons_self
        | cons c before =>
            cases overlap with
            | nil => exact List.mem_cons_of_mem _ (ih [] later.symm)
            | cons d overlap =>
                -- it would begin inside the one being read, with a dollar sign there
                rw [source_placeholder_append, List.cons_append, List.cons.injEq] at later
                rw [← later.1] at whole
                exact (source_tail_no_dollar heldNamed whole).elim
  | @char c rest fragments plain _ ih =>
      cases before with
      | nil => exact absurd ⟨name, after, named, parts⟩ plain
      | cons d before =>
          rw [List.cons_append, List.cons_append, List.cons.injEq] at parts
          exact List.mem_cons_of_mem _ (ih before parts.2)

theorem Reads.occurs {text name : List Char} {fragments : List Fragment}
    (reads : Reads text fragments) (member : .placeholder name ∈ fragments) : Occurs name text := by
  induction reads with
  | nil => cases member
  | @placeholder held rest fragments named _ ih =>
      rcases List.mem_cons.mp member with same | later
      · cases same
        exact ⟨named, [], rest, rfl⟩
      · obtain ⟨named, before, after, rfl⟩ := ih later
        refine ⟨named, (Fragment.placeholder held).source ++ before, after, ?_⟩
        simp only [List.append_assoc]
  | @char c rest fragments _ _ ih =>
      rcases List.mem_cons.mp member with same | later
      · cases same
      · obtain ⟨named, before, after, rfl⟩ := ih later
        exact ⟨named, c :: before, after, rfl⟩

theorem occurs_iff {name text : List Char} :
    Occurs name text ↔ .placeholder name ∈ Fragment.ofText text := by
  constructor
  · rintro ⟨named, before, after, parts⟩
    exact (reads_ofText text).finds named before parts
  · exact (reads_ofText text).occurs

theorem Occurs.infix {name inner outer : List Char} (occurs : Occurs name inner)
    (within : inner <:+: outer) : Occurs name outer := by
  obtain ⟨named, before, after, rfl⟩ := occurs
  obtain ⟨first, last, rfl⟩ := within
  exact ⟨named, first ++ before, after ++ last, by simp only [List.append_assoc]⟩

/-- Fragments that are read again as they are, whatever stands around the text they are written as:
no character that is a dollar sign comes last, or before something that could complete it. -/
inductive Safe : List Fragment → Prop
  | nil : Safe []
  | placeholder {name fragments} :
      IsName name → Safe fragments → Safe (.placeholder name :: fragments)
  | char {c fragments} : c ≠ '$' → Safe fragments → Safe (.char c :: fragments)
  | dollar {c fragments} :
      c ≠ '$' → c ≠ '{' → Safe (.char c :: fragments) → Safe (.char '$' :: .char c :: fragments)

theorem Safe.append {first second : List Fragment} (safe : Safe first) (rest : Safe second) :
    Safe (first ++ second) := by
  induction safe with
  | nil => exact rest
  | placeholder named _ ih => exact .placeholder named ih
  | char plain _ ih => exact .char plain ih
  | dollar other brace _ ih => exact .dollar other brace ih

private theorem not_begins_of_ne {c : Char} {rest : List Char} (plain : c ≠ '$') :
    ¬ BeginsPlaceholder (c :: rest) := by
  rintro ⟨name, after, _, parts⟩
  rw [source_placeholder_append, List.cons.injEq] at parts
  exact plain parts.1

private theorem not_begins_of_follower {c : Char} {rest : List Char} (brace : c ≠ '{') :
    ¬ BeginsPlaceholder ('$' :: c :: rest) := by
  rintro ⟨name, after, _, parts⟩
  rw [source_placeholder_append, List.cons.injEq, List.cons.injEq] at parts
  exact brace parts.2.1

theorem Safe.reads {fragments : List Fragment} (safe : Safe fragments) :
    Reads (Fragment.written fragments) fragments := by
  induction safe with
  | nil => exact .nil
  | placeholder named _ ih => exact .placeholder named ih
  | char plain _ ih => exact .char (not_begins_of_ne plain) ih
  | dollar other brace _ ih => exact .char (not_begins_of_follower brace) ih

theorem Guarded.tail {c : Char} {rest : List Char} (guarded : Guarded (c :: rest)) :
    Guarded rest := by
  intro before after parts
  exact guarded (c :: before) after (by rw [parts]; rfl)

theorem Guarded.suffix {first rest : List Char} (guarded : Guarded (first ++ rest)) :
    Guarded rest := by
  induction first with
  | nil => exact guarded
  | cons c first ih => exact ih guarded.tail

theorem Reads.safe {text : List Char} {fragments : List Fragment} (reads : Reads text fragments)
    (guarded : Guarded text) : Safe fragments := by
  induction reads with
  | nil => exact .nil
  | placeholder named _ ih => exact .placeholder named (ih guarded.suffix)
  | @char c rest fragments plain later ih =>
      have safe := ih guarded.tail
      by_cases dollar : c = '$'
      · subst dollar
        rcases guarded [] rest rfl with begins | ⟨d, after, rfl, other, brace⟩
        · exact absurd begins plain
        · cases later with
          | char _ _ => exact .dollar other brace safe
          | placeholder named _ => exact absurd rfl other
      · exact .char dollar safe

theorem Safe.guarded {fragments : List Fragment} (safe : Safe fragments) :
    Guarded (Fragment.written fragments) := by
  induction safe with
  | nil =>
      intro before after parts
      exact absurd parts.symm (List.append_ne_nil_of_right_ne_nil _ (List.cons_ne_nil _ _))
  | @placeholder name fragments named _ ih =>
      intro before after parts
      rcases List.append_eq_append_iff.mp parts with ⟨between, _, later⟩ | ⟨overlap, whole, later⟩
      · exact ih between after later
      · cases before with
        | nil =>
            rw [List.nil_append] at whole
            rw [← whole] at later
            exact .inl ⟨name, _, named, later⟩
        | cons c before =>
            cases overlap with
            | nil => exact ih [] after later.symm
            | cons d overlap =>
                rw [List.cons_append, List.cons.injEq] at later
                rw [← later.1] at whole
                exact (source_tail_no_dollar named whole).elim
  | char plain _ ih =>
      intro before after parts
      cases before with
      | nil => exact absurd (List.cons.inj parts).1 plain
      | cons d before => exact ih before after (List.cons.inj parts).2
  | dollar other brace _ ih =>
      intro before after parts
      cases before with
      | nil => exact .inr ⟨_, _, (List.cons.inj parts).2.symm, other, brace⟩
      | cons d before => exact ih before after (List.cons.inj parts).2

theorem guarded_iff {text : List Char} : Guarded text ↔ Safe (Fragment.ofText text) := by
  constructor
  · exact (reads_ofText text).safe
  · intro safe
    rw [← written_ofText text]
    exact safe.guarded

def Fragment.closes : List Fragment → Bool
  | .char c :: _ => c ≠ '$' && c ≠ '{'
  | _ => false

private theorem safe_placeholder_iff {name : List Char} {fragments : List Fragment} :
    Safe (.placeholder name :: fragments) ↔ IsName name ∧ Safe fragments := by
  constructor
  · intro safe
    cases safe with
    | placeholder named rest => exact ⟨named, rest⟩
  · rintro ⟨named, rest⟩
    exact .placeholder named rest

private theorem safe_char_iff {c : Char} {fragments : List Fragment} :
    Safe (.char c :: fragments) ↔
      (c ≠ '$' ∨ Fragment.closes fragments = true) ∧ Safe fragments := by
  constructor
  · intro safe
    cases safe with
    | char plain rest => exact ⟨.inl plain, rest⟩
    | dollar other brace rest => exact ⟨.inr (by simp [Fragment.closes, other, brace]), rest⟩
  · rintro ⟨closed, rest⟩
    by_cases dollar : c = '$'
    · subst dollar
      cases fragments with
      | nil => simp [Fragment.closes] at closed
      | cons fragment later =>
          cases fragment with
          | placeholder name => simp [Fragment.closes] at closed
          | char d =>
              have ends : d ≠ '$' ∧ d ≠ '{' := by simpa [Fragment.closes] using closed
              exact .dollar ends.1 ends.2 rest
    · exact .char dollar rest

instance decidableSafe : (fragments : List Fragment) → Decidable (Safe fragments)
  | [] => .isTrue .nil
  | .placeholder _ :: rest =>
    have := decidableSafe rest
    decidable_of_iff _ safe_placeholder_iff.symm
  | .char _ :: rest =>
    have := decidableSafe rest
    decidable_of_iff _ safe_char_iff.symm

instance (text : List Char) : Decidable (Guarded text) := decidable_of_iff _ guarded_iff.symm

example : Guarded "$1 for ${Author}".toList := by decide +kernel

end HookRules

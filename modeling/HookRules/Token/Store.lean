import HookRules.Text.Case

/-!
Named values that rules read and set. Names ignore case: every name is kept in upper case.
Entries are kept in order of their names and each name has one, so two stores that answer every
look-up alike are equal.
-/

set_option autoImplicit false

namespace HookRules

def Tokens.place (key value : String) : List (String × String) → List (String × String)
  | [] => [(key, value)]
  | (name, held) :: rest =>
    if key = name then (key, value) :: rest
    else if key < name then (key, value) :: (name, held) :: rest
    else (name, held) :: place key value rest

private theorem Tokens.mem_of_mem_place {key value : String} {entry : String × String}
    {entries : List (String × String)} (member : entry ∈ place key value entries) :
    entry = (key, value) ∨ entry ∈ entries := by
  induction entries with
  | nil => exact .inl (List.mem_singleton.mp member)
  | cons first rest ih =>
      rw [place] at member
      split at member
      · exact (List.mem_cons.mp member).imp_right (List.mem_cons_of_mem first)
      · split at member
        · exact List.mem_cons.mp member
        · cases List.mem_cons.mp member with
          | inl same => exact .inr (List.mem_cons.mpr (.inl same))
          | inr later => exact (ih later).imp_right (List.mem_cons_of_mem first)

private theorem Tokens.ordered_place (key value : String) {entries : List (String × String)}
    (ordered : entries.Pairwise fun entry later => entry.1 < later.1) :
    (place key value entries).Pairwise fun entry later => entry.1 < later.1 := by
  induction entries with
  | nil => exact List.pairwise_singleton _ _
  | cons first rest ih =>
      obtain ⟨above, inner⟩ := List.pairwise_cons.mp ordered
      rw [place]
      split
      case isTrue same =>
        exact List.pairwise_cons.mpr ⟨fun later member => same ▸ above later member, inner⟩
      case isFalse differs =>
        split
        case isTrue less =>
          refine List.pairwise_cons.mpr ⟨fun later member => ?_, ordered⟩
          cases List.mem_cons.mp member with
          | inl same => exact same ▸ less
          | inr after => exact String.lt_trans less (above later after)
        case isFalse least =>
          refine List.pairwise_cons.mpr ⟨fun later member => ?_, ih inner⟩
          cases mem_of_mem_place member with
          | inl placed =>
              have below : first.1 ≤ key := String.not_lt.mp least
              exact placed ▸ String.not_le.mp fun above => differs (String.le_antisymm above below)
          | inr after => exact above later after

/-- The values visible to one rule and what it encloses. -/
@[ext]
structure Tokens where
  entries : List (String × String)
  ordered : entries.Pairwise fun entry later => entry.1 < later.1
  named : ∀ entry ∈ entries, ∃ name, Text.toUpper name = entry.1
  deriving Repr, DecidableEq

inductive TokenError
  | notFound (name : String)
  | tooDeep (text : String)
  deriving Repr, DecidableEq

namespace Tokens

def empty : Tokens := ⟨[], List.Pairwise.nil, List.forall_mem_nil _⟩

instance : Inhabited Tokens := ⟨empty⟩

/-- Sets a token. The name is taken without regard to case. -/
def set (tokens : Tokens) (name value : String) : Tokens where
  entries := place (Text.toUpper name) value tokens.entries
  ordered := ordered_place _ _ tokens.ordered
  named entry member :=
    (mem_of_mem_place member).elim (fun placed => ⟨name, placed ▸ rfl⟩) (tokens.named entry)

def lookup? (tokens : Tokens) (name : String) : Option String :=
  let key := Text.toUpper name
  (tokens.entries.find? fun entry => entry.1 == key).map Prod.snd

def get (tokens : Tokens) (name : String) : Except TokenError String :=
  match tokens.lookup? name with
  | some value => .ok value
  | none => .error (.notFound name)

def contains (tokens : Tokens) (name : String) : Bool := (tokens.lookup? name).isSome

/-- Sets every token of the list in turn, so a later pair wins. -/
def setAll (tokens : Tokens) (pairs : List (String × String)) : Tokens :=
  pairs.foldl (fun store pair => store.set pair.1 pair.2) tokens

def ofList (pairs : List (String × String)) : Tokens := empty.setAll pairs

end Tokens

end HookRules

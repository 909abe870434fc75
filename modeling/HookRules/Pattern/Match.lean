import HookRules.Pattern.Basic

/-!
Whether a pattern occurs in a text. The places of a text are numbered from its beginning, and a
set of places is the number whose binary digits are set at them; a pattern then takes a set of
places to the set of all places that its stretches can lead to.
-/

set_option autoImplicit false

namespace HookRules

/-- A set of places in a text. -/
abbrev Places := Nat

namespace Places

def whereChar (test : Char → Bool) (place : Nat) : List Char → Places
  | [] => 0
  | c :: rest =>
    let others := whereChar test (place + 1) rest
    if test c then others ||| (1 <<< place) else others

def whereBetween (test : Option Char → Option Char → Bool) (place : Nat) (before : Option Char) :
    List Char → Places
  | [] => if test before none then 1 <<< place else 0
  | c :: rest =>
    let others := whereBetween test (place + 1) (some c) rest
    if test before (some c) then others ||| (1 <<< place) else others

def all (text : List Char) : Places := (1 <<< (text.length + 1)) - 1

end Places

/-- A pattern over one text: characters and assertions have become the places at which they
stand. -/
inductive Track
  | stay (places : Places)
  | step (places : Places)
  | sequence (first second : Track)
  | choice (first second : Track)
  | repeated (least : Nat) (most : Option Nat) (body : Track)
  deriving Inhabited

def Pattern.over (text : List Char) : Pattern → Track
  | .empty => .stay (Places.all text)
  | .oneOf set => .step (Places.whereChar set.contains 0 text)
  | .assertion condition =>
    .stay (Places.whereBetween (fun before after => condition.holds before after) 0 none text)
  | .sequence first second => .sequence (first.over text) (second.over text)
  | .choice first second => .choice (first.over text) (second.over text)
  | .repeated least most body => .repeated least most (body.over text)

namespace Track

/-- Goes on for `count` rounds, or until a round leads nowhere new. -/
def rounds (round : Places → Places) : Nat → Places → Places
  | 0, places => places
  | count + 1, places =>
    let next := round places
    if next = places then places else rounds round count next

def reach (size : Nat) : Track → Places → Places
  | .stay places, start => start &&& places
  | .step places, start => (start &&& places) <<< 1
  | .sequence first second, start => second.reach size (first.reach size start)
  | .choice first second, start => first.reach size start ||| second.reach size start
  | .repeated least most body, start =>
    let atLeast := rounds (body.reach size) least start
    let further := match most with
      | none => size
      | some most => min size (most - least)
    rounds (fun places => places ||| body.reach size places) further atLeast

end Track

def Pattern.occursIn (pattern : Pattern) (text : String) : Bool :=
  let text := text.toList
  (pattern.over text).reach (text.length + 1) (Places.all text) ≠ 0

end HookRules

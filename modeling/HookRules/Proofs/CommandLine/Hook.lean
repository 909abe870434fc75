import HookRules.Proofs.CommandLine.Log
import HookRules.Proofs.Text.Numeral
import Mathlib.Algebra.Group.Nat.Defs

/-!
What answering a hook comes to. Whatever goes wrong before or in an evaluation, the code is the one
that stands for a failure, and the client is told that something failed and nothing more.
-/

set_option autoImplicit false

namespace HookRules

namespace CommandLine

section Course

variable {World : Type} [Scribe World]

namespace Course

end Course

end Course

section Closed

variable {World : Type}

/-- Every line is taken, whenever it is to be written. -/
def Log.Takes (log : Log World) : Prop :=
  ∀ line before, (log.extend line before).1 = .ok ()

/-- Standard error shows texts, and beside them only what is said of lines that the log did not
take; where the log takes every line, they are all there is. -/
structure Shows (log : Log World) (texts : List String) (stderr : String) : Prop where
  shown : ∃ shown : List Shown, stderr = String.join (shown.map Shown.text) ∧
    shown.filterMap Shown.told? = texts ∧ ∀ cause, .unlogged cause ∈ shown → log.Refuses cause
  exact : log.Takes → stderr = String.join texts

theorem Logged.shows {log : Log World} (state : Logged log) :
    Shows log (state.shown.filterMap Shown.told?) (String.join (state.shown.map Shown.text)) where
  shown := ⟨state.shown, rfl, rfl, state.refused⟩
  exact := by
    intro takes
    obtain ⟨world, shown, refused⟩ := state
    congr 1
    induction shown with
    | nil => rfl
    | cons first rest ih =>
        have later := ih fun cause member => refused cause (List.mem_cons_of_mem _ member)
        cases first with
        | told text => exact congrArg _ later
        | unlogged cause =>
            obtain ⟨line, before, failed⟩ := refused cause List.mem_cons_self
            rw [takes] at failed
            cases failed

/-- The run in which a log was opened, and in which what had to be noted first was noted. -/
def begin (log : Log World) (warning : Option Notice) (world : World) : Run (Logged log) :=
  (warn warning ⟨Logged.start world, []⟩).2

end Closed

end CommandLine

end HookRules

import HookRules.CommandLine.Run
import HookRules.Proofs.Fact.Memory
import HookRules.Proofs.Run.Client
import HookRules.Proofs.Run.Upkeep

/-!
What standard error shows of a run. A text is shown as soon as the client is told it, and beside
the texts there is nothing but what is said of lines that the log did not take.
-/

set_option autoImplicit false

namespace HookRules

namespace Evaluation

variable {World : Type} [Scribe World]

end Evaluation

namespace CommandLine

variable {World : Type} {log : Log World}

def Shown.told? : Shown → Option String
  | .told text => some text
  | .unlogged _ => none

/-- The texts that are shown are those that the client was told. -/
def Logged.Discloses (state : Logged log) (journal : Journal) : Prop :=
  state.shown.filterMap Shown.told? = journal.filterMap Entry.text?

private theorem Shown.told?_ofAttempt (result : Except String Unit) :
    (ofAttempt result).filterMap told? = [] := by
  cases result <;> rfl

theorem Logged.Discloses.keep {state : Logged log} {journal : Journal}
    (discloses : state.Discloses journal) (entry : Entry) :
    (state.keep entry).Discloses (journal ++ [entry]) := by
  have untold {other : Entry} (silent : other.text? = none) :
      state.Discloses (journal ++ [other]) := by
    rw [Discloses, List.filterMap_append, List.filterMap_cons_none silent, List.filterMap_nil,
      List.append_nil]
    exact discloses
  have noticed {other : Entry} (silent : other.text? = none) (notice : Notice) :
      (if log.admits notice then state.write notice.logLine else state).Discloses
        (journal ++ [other]) := by
    split
    · change (state.shown ++ Shown.ofAttempt _).filterMap Shown.told? = _
      rw [List.filterMap_append, Shown.told?_ofAttempt, List.append_nil]
      exact untold silent
    · exact untold silent
  cases entry with
  | noted notice => exact noticed rfl notice
  | asked query => exact noticed rfl (.querying query)
  | told text =>
      change (state.shown ++ [Shown.told text]).filterMap Shown.told? = _
      rw [List.filterMap_append, List.filterMap_append, discloses]
      rfl
  | mailed mail => exact untold rfl
  | started program arguments => exact untold rfl
  | wrote path text => exact untold rfl

/-- What the rules for an event are evaluated with while a log is kept. -/
def Log.setting (log : Log World) (mailer : Mailer World) (host : Host World) (event : Event)
    (settings : Settings) : Setting (Remembering (Logged log)) :=
  settingFor (mailer.lift Logged.within) (host.lift Logged.within) event settings

variable (mailer : Mailer World) (host : Host World)

end CommandLine

end HookRules

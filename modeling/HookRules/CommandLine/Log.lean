import HookRules.Machine.Host
import HookRules.Report.Log

/-!
The log of a hook, and what standard error shows meanwhile. A line is in the log before anything
else is done, so that a document or a command that reads the log finds it there.
-/

set_option autoImplicit false

namespace HookRules.CommandLine

variable {World : Type}

/-- Where notices are written down. -/
structure Log (World : Type) where
  threshold : Option Level
  extend : (line : String) → StateM World (Except String Unit)

def Log.none : Log World := ⟨Option.none, fun _ => return .ok ()⟩

/-- Opens the log of a path, which makes its file. Where that is not possible there is no log. -/
def Log.open (host : Host World) (path : String) (threshold : Level) :
    StateM World (Log World) := do
  match ← host.append path with
  | .ok extend => return ⟨some threshold, extend⟩
  | .error _ => return .none

def Log.admits (log : Log World) (notice : Notice) : Bool :=
  log.threshold.any notice.level.passes

/-- At some time the log does not take a line, for a cause. -/
def Log.Refuses (log : Log World) (cause : String) : Prop :=
  ∃ line before, (log.extend line before).1 = .error cause

inductive Shown
  | told (text : String)
  | unlogged (cause : String)
  deriving Repr, DecidableEq

namespace Shown

def text : Shown → String
  | .told text => text
  | .unlogged cause => Notice.unloggedText cause

def ofAttempt : Except String Unit → List Shown
  | .ok () => []
  | .error cause => [.unlogged cause]

private theorem unlogged_mem_ofAttempt {cause : String} {result : Except String Unit} :
    .unlogged cause ∈ ofAttempt result ↔ result = .error cause := by
  cases result with
  | ok _ => simp [ofAttempt]
  | error other => simp [ofAttempt, eq_comm]

end Shown

/-- A world in which a log is kept, and what standard error shows so far. -/
structure Logged (log : Log World) where
  world : World
  shown : List Shown
  refused : ∀ cause, .unlogged cause ∈ shown → log.Refuses cause

namespace Logged

variable {log : Log World} {Answer : Type}

def tell (text : String) (state : Logged log) : Logged log where
  world := state.world
  shown := state.shown ++ [.told text]
  refused cause member := by
    rcases List.mem_append.mp member with earlier | last
    · exact state.refused cause earlier
    · cases List.mem_singleton.mp last

def write (line : String) (state : Logged log) : Logged log where
  world := (log.extend line state.world).2
  shown := state.shown ++ Shown.ofAttempt (log.extend line state.world).1
  refused cause member := by
    rcases List.mem_append.mp member with earlier | last
    · exact state.refused cause earlier
    · exact ⟨line, state.world, Shown.unlogged_mem_ofAttempt.mp last⟩

/-- What was told is shown, and what was noted is written down if it belongs in the log. -/
def keep (entry : Entry) (state : Logged log) : Logged log :=
  match entry.text?, entry.notice? with
  | some text, _ => state.tell text
  | none, some notice => if log.admits notice then state.write notice.logLine else state
  | none, none => state

instance : Scribe (Logged log) := ⟨keep⟩

def within (step : StateM World Answer) : StateM (Logged log) Answer := fun state =>
  let (answer, world) := step state.world
  (answer, { state with world := world })

def start (world : World) : Logged log := ⟨world, [], nofun⟩

def run (log : Log World) (step : Step (Logged log) Answer) : StateM World (Answer × List Shown) :=
  fun world =>
    let (answer, ended) := step ⟨start world, []⟩
    ((answer, ended.world.shown), ended.world.world)

end Logged

end HookRules.CommandLine

import HookRules.Rule.Registry

/-!
Evaluating a document. A rule is built from its element just before it is evaluated. Children are
evaluated in document order until one of them stops the evaluation; those that are no rules
belong to their parent and are passed over. Each item that a filter selects starts from the
filter's own tokens, and what is set inside a filter is not seen outside it.
-/

set_option autoImplicit false

namespace HookRules

/-- What the client is told when an evaluation fails, and nothing more. -/
def internalMessage : String := "Internal hook error. Please notify administrator."

namespace Evaluation

variable {World : Type}

def inTurn (evaluate : Bindings → Step World Outcome) : List Bindings → Step World Outcome
  | [] => pure .done
  | bindings :: rest => do
    let outcome ← evaluate bindings
    if outcome.stops then return outcome else inTurn evaluate rest

variable [Scribe World]

def failAt (name : String) (span : Span) (failure : Failure) : Step World Outcome := do
  Step.note (.failed failure name span.line span.column)
  return .internal failure

/-- Performs something at an element; where it fails, the tokens stay as they were. -/
def performAt (name : String) (span : Span) (tokens : Tokens) (act : Act World (Outcome × Tokens)) :
    Step World (Outcome × Tokens) := do
  match ← act.run with
  | .ok result => return result
  | .error failure => return (← failAt name span failure, tokens)

variable (setting : Setting World) (registry : Registry World)

mutual

def evaluate (build : Builder World) : Element → Tokens → Step World (Outcome × Tokens)
  | element@⟨name, _, _, children, span⟩, tokens => do
    Step.note (.evaluating name span.line)
    match build element with
    | .error error => return (← failAt name span (.rule error), tokens)
    | .ok (.action action) => performAt name span tokens (action.perform setting tokens)
    | .ok (.custom perform) => performAt name span tokens (perform setting tokens)
    | .ok (.filter filter) =>
      match ← (filter.condition.select setting tokens).run with
      | .error failure => return (← failAt name span failure, tokens)
      | .ok [] =>
        Step.note (.unmatched name)
        return (.done, tokens)
      | .ok items =>
        let outcome ← inTurn
          (fun bindings => do
            return (← evaluateAll filter.consumed children (tokens.setAll bindings)).1)
          (filter.chosen items)
        return (outcome, tokens)

/-- Evaluates children in order, without those that are consumed. -/
def evaluateAll (consumed : List String) : List Element → Tokens → Step World (Outcome × Tokens)
  | [], tokens => return (.done, tokens)
  | child :: rest, tokens => do
    if consumed.contains child.name then evaluateAll consumed rest tokens
    else match registry.lookup? child.name with
      | none =>
        Step.note (.skipped child.name)
        evaluateAll consumed rest tokens
      | some build =>
        let (outcome, tokens) ← evaluate build child tokens
        if outcome.stops then return (outcome, tokens) else evaluateAll consumed rest tokens

end

def execute (element : Element) (tokens : Tokens) : Step World (Outcome × Tokens) :=
  match registry.lookup? element.name with
  | some build => evaluate setting registry build element tokens
  | none => do
    let failure := .rule (.unknownRule element.name element.span)
    return (← failAt element.name element.span failure, tokens)

def tellInternal : Step World Unit := do
  match ← (Act.tell setting.channel (internalMessage ++ "\n")).run with
  | .ok () => pure ()
  | .error failure => Step.note (.untold failure)

def run (root : Element) (tokens : Tokens) : Step World (Outcome × Tokens) := do
  let (outcome, tokens) ← execute setting registry root tokens
  if outcome.isInternal then tellInternal setting
  return (outcome, tokens)

end Evaluation

end HookRules

import HookRules.Run.Act

/-!
Work on a machine that can only be asked from outside. The work is done again from the beginning
whenever one more answer is known: it uses up the answers in order, and where they end it leaves
the errand that has to be done next.
-/

set_option autoImplicit false

namespace HookRules

inductive Errand
  | execute (program : String) (arguments : List String)
  | read (path : String)
  | isFile (path : String)
  | write (path text : String)
  | attach (path : String)
  | extend (path text : String)
  deriving Repr, DecidableEq

inductive Finding
  | output (result : Except String Output)
  | text (result : Except String String)
  | answer (yes : Bool)
  | done (result : Except String Unit)

/-- Findings that are still to be used, and the first errand for which there was none. -/
structure Transcript where
  findings : List Finding
  next : Option Errand

namespace Transcript

/-- Uses the next finding. Without one, or with one of another kind, the errand is left to be
done, and what is computed from then on does not count. -/
def take {Answer : Type} (errand : Errand) (use : Finding → Option Answer) (idle : Answer) :
    StateM Transcript Answer := fun transcript =>
  match transcript.next, transcript.findings with
  | none, finding :: rest =>
    match use finding with
    | some answer => (answer, ⟨rest, none⟩)
    | none => (idle, ⟨[], some errand⟩)
  | none, [] => (idle, ⟨[], some errand⟩)
  | some _, _ => (idle, transcript)

def unknown : String := "not known yet"

def useDone : Finding → Option (Except String Unit)
  | .done result => some result
  | _ => none

/-- The machine that a transcript stands for. -/
def host : Host Transcript where
  execute := fun program arguments =>
    take (.execute program arguments)
      (fun finding => match finding with
        | .output result => some result
        | _ => none) (.error unknown)
  read := fun path =>
    take (.read path)
      (fun finding => match finding with
        | .text result => some result
        | _ => none) (.error unknown)
  isFile := fun path =>
    take (.isFile path)
      (fun finding => match finding with
        | .answer yes => some yes
        | _ => none) false
  write := fun path text => take (.write path text) useDone (.error unknown)
  append := fun path => do
    return (← take (.attach path) useDone (.error unknown)).map fun () text =>
      take (.extend path text) useDone (.error unknown)

end Transcript

end HookRules

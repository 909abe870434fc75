import HookRules.CommandLine.Run
import HookRules.Proofs.Fact.Transparency
import HookRules.Proofs.Run.Isolation
import HookRules.Proofs.Run.Refinement

/-!
What a hook evaluates rules with. The facts are remembered, so that asking changes the world; where
queries always come to the same, this makes no difference to the answers.
-/

set_option autoImplicit false

namespace HookRules

variable {World : Type} {host : Host World} {mailer : Mailer World} {did : Entry → Prop}
  {same : World → World → Prop}

/-- What is remembered makes no difference to deeds, and deeds none to what is remembered. -/
theorem DeedsAgree.remembering (deeds : DeedsAgree did same host host mailer mailer)
    (kept : Memo → Memo → Prop) :
    DeedsAgree did (fun first second => kept first.memo second.memo ∧ same first.world second.world)
      host.remembering host.remembering mailer.remembering mailer.remembering where
  executed := by
    rintro program arguments counts first second ⟨memos, worlds⟩
    obtain ⟨result, after⟩ := deeds.executed program arguments counts _ _ worlds
    exact ⟨result, memos, after⟩
  wrote := by
    rintro path text counts first second ⟨memos, worlds⟩
    obtain ⟨result, after⟩ := deeds.wrote path text counts _ _ worlds
    exact ⟨result, memos, after⟩
  mailed := by
    rintro mail counts first second ⟨memos, worlds⟩
    obtain ⟨result, after⟩ := deeds.mailed mail counts _ _ worlds
    exact ⟨result, memos, after⟩

theorem DeedsAgree.runner_constant
    (deeds : DeedsAgree (fun _ => True) (fun _ _ => True) host host mailer mailer) :
    host.runner.Constant := by
  intro query world other
  rw [Host.runner_eq, Host.runner_eq]
  exact congrArg (Except.mapError (FactError.notStarted query.program))
    (deeds.executed _ _ trivial _ _ trivial).1

namespace CommandLine

variable (event : Event) (settings : Settings)

/-- Where every deed always comes to the same, a hook evaluates rules with a settled setting: worlds
are usual in which nothing wrong is remembered, and so is that in which nothing is. -/
theorem settingFor_settled
    (deeds : DeedsAgree (fun _ => True) (fun _ _ => True) host host mailer mailer) :
    ∃ usual, (settingFor mailer host event settings).Settled usual ∧
      ∀ world, usual ⟨Memo.blank, world⟩ := by
  let recalls (memo : Memo) : Prop := (event.place settings).Recalls host.runner memo
  refine ⟨fun state => recalls state.memo, ⟨?deeds, ?asked⟩, fun world =>
    Repository.recalls_blank _ _⟩
  case deeds =>
    have remembered := deeds.remembering fun left right => recalls left ∧ recalls right
    simp only [and_true] at remembered
    exact remembered
  case asked =>
    intro question first second left right
    obtain ⟨result, after⟩ := Repository.Recalls.answer left deeds.runner_constant question
      first.world first.world
    obtain ⟨again, -⟩ := Repository.Recalls.answer right deeds.runner_constant question
      second.world first.world
    exact ⟨result.trans again.symm, after⟩

/-- Where queries always come to the same and make no difference to the deeds that count, a hook
evaluates rules with a steady setting, whatever those deeds do to the world. The answers are those
of inquiries in any world. -/
theorem settingFor_steady (constant : host.runner.Constant)
    (queried : ∀ query first second, same first second → same (host.runner query first).2 second)
    (deeds : DeedsAgree did same host host mailer mailer) (somewhere : World) :
    let answers : Answers := fun question =>
      ((event.place settings).inquire host.runner question somewhere).result
    ∃ alike, (settingFor mailer host event settings).Steady answers did alike ∧
      ∀ world, same world world → alike ⟨Memo.blank, world⟩ ⟨Memo.blank, world⟩ := by
  intro answers
  let recalls (memo : Memo) : Prop := (event.place settings).Recalls host.runner memo
  refine ⟨fun first second => recalls first.memo ∧ same first.world second.world,
    ⟨?deeds, ?asked⟩, fun world alike => ⟨Repository.recalls_blank _ _, alike⟩⟩
  case deeds => exact deeds.remembering fun memo _ => recalls memo
  case asked =>
    rintro question first second ⟨recalled, worlds⟩
    obtain ⟨result, after⟩ := Repository.Recalls.answer recalled constant question first.world
      somewhere
    let beside (world : World) : Prop := same world second.world
    have kept (query : Query) (world : World) (related : beside world) :
        beside (host.runner query world).2 := queried query world _ related
    exact ⟨result, after, Repository.answer_keeps kept question first worlds⟩

end CommandLine

end HookRules

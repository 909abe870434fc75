import HookRules.Rule.Registry

/-!
What the rules that are built in are built from. Each action comes from an element of its own
name, whose parameters it has.
-/

set_option autoImplicit false

namespace HookRules

theorem except_bind_ok {Error Value Result : Type} {source : Except Error Value}
    {continuation : Value → Except Error Result} {result : Result}
    (success : source >>= continuation = .ok result) :
    ∃ value, source = .ok value ∧ continuation value = .ok result := by
  cases source with
  | error error => cases success
  | ok value => exact ⟨value, rfl, success⟩

theorem except_map_ok {Error Value Result : Type} {source : Except Error Value}
    {change : Value → Result} {result : Result} (success : source.map change = .ok result) :
    ∃ value, source = .ok value ∧ change value = result := by
  cases source with
  | error error => cases success
  | ok value => exact ⟨value, rfl, Except.ok.inj success⟩

private theorem Element.requireText_ok {element : Element} {text : String}
    (required : element.requireText = .ok text) :
    element.text = some text ∧ Text.isBlankText text = false := by
  rw [Element.requireText] at required
  split at required
  · rename_i source found
    split at required
    · cases required
    · rename_i visible
      cases required
      exact ⟨found, by simpa using visible⟩
  · cases required

namespace Action

/-- The action that an element of some name stands for. -/
inductive MadeFrom (element : Element) : String → Action → Prop
  | execute {source level} :
      element.text = some source → Text.isBlankText source = false →
      element.number? "errorLevel" Text.maxInt32 = .ok level →
      MadeFrom element "ExecuteCmd" (.execute source (level.getD 1))
  | sendError {source code} :
      element.text = some source → Text.isBlankText source = false →
      element.number? "exitCode" maxCode = .ok code →
      MadeFrom element "SendError" (.sendError (code.getD 1) (Text.dedent source))
  | sendLog {envelope} :
      Envelope.ofElement element = .ok envelope →
      MadeFrom element "SendLogSmtp" (.sendLog envelope (element.switch "verbose" true))
  | sendMail {envelope source} :
      Envelope.ofElement element = .ok envelope → element.requireChildText "Message" = .ok source →
      MadeFrom element "SendSmtp" (.sendMail envelope (Text.dedent source))
  | recordRevision {source} :
      element.text = some source → Text.isBlankText source = false →
      MadeFrom element "SetRevisionFile" (.recordRevision source)
  | setToken {token} :
      element.requireAttribute "name" = .ok token →
      MadeFrom element "SetToken" (.setToken token (element.text.getD ""))

theorem build?_madeFrom {name : String} {make : Element → Except RuleError Action}
    {element : Element} {action : Action} (known : build? name = some make)
    (built : make element = .ok action) : MadeFrom element name action := by
  unfold build? at known
  split at known <;> cases known
  · obtain ⟨source, required, built⟩ := except_bind_ok built
    obtain ⟨level, numbered, built⟩ := except_bind_ok built
    cases built
    obtain ⟨found, visible⟩ := Element.requireText_ok required
    exact .execute found visible numbered
  · obtain ⟨code, numbered, built⟩ := except_bind_ok built
    obtain ⟨source, required, built⟩ := except_bind_ok built
    cases built
    obtain ⟨found, visible⟩ := Element.requireText_ok required
    exact .sendError found visible numbered
  · obtain ⟨envelope, addressed, built⟩ := except_bind_ok built
    cases built
    exact .sendLog addressed
  · obtain ⟨envelope, addressed, built⟩ := except_bind_ok built
    obtain ⟨source, required, built⟩ := except_bind_ok built
    cases built
    exact .sendMail addressed required
  · obtain ⟨source, required, built⟩ := except_bind_ok built
    cases built
    obtain ⟨found, visible⟩ := Element.requireText_ok required
    exact .recordRevision found visible
  · obtain ⟨token, required, built⟩ := except_bind_ok built
    cases built
    exact .setToken required

end Action

namespace Registry

variable {World : Type}

theorem standard_built {name : String} {build : Builder World} {element : Element}
    {rule : Rule World} (known : standard.lookup? name = some build)
    (built : build element = .ok rule) :
    (∃ filter, rule = .filter filter) ∨
      ∃ action, rule = .action action ∧ Action.MadeFrom element name action := by
  have builtIn : builtIn? name = some build := by
    simpa [lookup?, standard] using known
  unfold builtIn? at builtIn
  split at builtIn
  · cases builtIn
    obtain ⟨filter, _, rfl⟩ := except_map_ok built
    exact .inl ⟨filter, rfl⟩
  · rename_i make _ selected
    cases builtIn
    obtain ⟨action, made, rfl⟩ := except_map_ok built
    exact .inr ⟨action, rfl, Action.build?_madeFrom selected made⟩
  · cases builtIn

end Registry

end HookRules

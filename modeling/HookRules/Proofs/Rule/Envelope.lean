import HookRules.Proofs.Rule.Registry
import HookRules.Proofs.Text.Numeral
import HookRules.Proofs.Token.Expansion

/-!
What a mail is made of. An element that sends mail gives its parts by attributes and children; the
mail is the expansion of these parts, and there is none where one part is missing, not valid or
cannot be expanded.
-/

set_option autoImplicit false

namespace HookRules

private theorem except_bind_eq_ok {Error Value Result : Type} {source : Except Error Value}
    {continuation : Value → Except Error Result} {result : Result} :
    source >>= continuation = .ok result ↔
      ∃ value, source = .ok value ∧ continuation value = .ok result := by
  constructor
  · exact except_bind_ok
  · rintro ⟨value, rfl, continued⟩
    exact continued

private theorem exists_forall₂_iff {First Second : Type} {related : First → Second → Prop}
    {items : List First} :
    (∃ others, List.Forall₂ related items others) ↔
      ∀ item ∈ items, ∃ other, related item other := by
  induction items with
  | nil => exact ⟨fun _ _ member => absurd member List.not_mem_nil, fun _ => ⟨[], .nil⟩⟩
  | cons item rest ih =>
      rw [List.forall_mem_cons, ← ih]
      constructor
      · rintro ⟨_, pairs⟩
        cases pairs with
        | cons first others => exact ⟨⟨_, first⟩, ⟨_, others⟩⟩
      · rintro ⟨⟨other, first⟩, ⟨more, others⟩⟩
        exact ⟨other :: more, .cons first others⟩

theorem Tokens.expand_plain {tokens : Tokens} {text result : String}
    (expanded : tokens.expand text = .ok result) (name : List Char)
    (occurs : Occurs name result.toList) : tokens.lookup? (String.ofList name) = none := by
  rw [expand] at expanded
  split at expanded
  · rename_i final found
    cases expanded
    rw [String.toList_ofList] at occurs
    cases set : tokens.lookup? (String.ofList name) with
    | none => rfl
    | some held =>
        exact absurd ⟨name, held, occurs, set, rfl⟩ (expandWithin_complete found held.toList)
  · cases expanded

namespace Element

/-- The attribute is a numeral from one to the limit. -/
def IsNumber (element : Element) (name : String) (limit value : Nat) : Prop :=
  ∃ text, element.attribute? name = some text ∧ Text.Denotes (Text.trim text) value ∧
    1 ≤ value ∧ value ≤ limit

/-- The number that an attribute gives, or the one that holds where there is no such attribute. -/
def Numbers (element : Element) (name : String) (limit absent value : Nat) : Prop :=
  element.IsNumber name limit value ∨ element.attribute? name = none ∧ value = absent

/-- The text of the first child of that name, prepared and expanded. -/
def Supplies (element : Element) (tokens : Tokens) (prepare : String → String)
    (tag expanded : String) : Prop :=
  ∃ child, element.child? tag = some child ∧
    tokens.expand (prepare (child.text.getD "")) = .ok expanded

def hasText (element : Element) : Bool := element.text.any fun text => !Text.isBlankText text

/-- The children that a mail is addressed by, in document order. -/
def addressees (element : Element) : List Element :=
  element.children.filter fun child => child.name == "ToAddress" && child.hasText

variable {element : Element}

private theorem number?_eq_some {name : String} {limit value : Nat} :
    element.number? name limit = .ok (some value) ↔ element.IsNumber name limit value := by
  rw [number?, IsNumber]
  cases given : element.attribute? name with
  | none => simp
  | some text =>
      have read := @Text.readNat_eq_ok limit value (Text.trim text)
      constructor
      · intro numbered
        dsimp only at numbered
        split at numbered
        · rename_i below found
          cases numbered
          obtain ⟨denotes, bounded⟩ := read.mp found
          exact ⟨text, rfl, denotes, Nat.succ_pos below, bounded⟩
        · cases numbered
      · rintro ⟨source, same, denotes, positive, bounded⟩
        obtain rfl : text = source := Option.some.inj same
        dsimp only
        rw [read.mpr ⟨denotes, bounded⟩]
        cases value with
        | zero => cases positive
        | succ below => rfl

private theorem number?_eq_none {name : String} {limit : Nat} :
    element.number? name limit = .ok none ↔ element.attribute? name = none := by
  rw [number?]
  cases element.attribute? name with
  | none => simp
  | some text =>
      dsimp only
      split <;> simp

theorem numbers_iff {name : String} {limit absent value : Nat} :
    element.Numbers name limit absent value ↔
      ∃ given, element.number? name limit = .ok given ∧ given.getD absent = value := by
  constructor
  · rintro (numbered | ⟨missing, rfl⟩)
    · exact ⟨some value, number?_eq_some.mpr numbered, rfl⟩
    · exact ⟨none, number?_eq_none.mpr missing, rfl⟩
  · rintro ⟨_ | given, numbered, rfl⟩
    · exact .inr ⟨number?_eq_none.mp numbered, rfl⟩
    · exact .inl (number?_eq_some.mp numbered)

private theorem requireAttribute_eq_ok {name value : String} :
    element.requireAttribute name = .ok value ↔ element.attribute? name = some value := by
  rw [requireAttribute]
  cases element.attribute? name with
  | none => simp
  | some given => simp

private theorem requireChildText_eq_ok {tag text : String} :
    element.requireChildText tag = .ok text ↔
      ∃ child, element.child? tag = some child ∧ child.text.getD "" = text := by
  rw [requireChildText]
  cases element.child? tag with
  | none => simp
  | some child => simp

theorem supplies_iff {tokens : Tokens} {prepare : String → String} {tag expanded : String} :
    element.Supplies tokens prepare tag expanded ↔
      ∃ text, element.requireChildText tag = .ok text ∧
        tokens.expand (prepare text) = .ok expanded := by
  constructor
  · rintro ⟨child, found, gives⟩
    exact ⟨_, requireChildText_eq_ok.mpr ⟨child, found, rfl⟩, gives⟩
  · rintro ⟨text, required, gives⟩
    obtain ⟨child, found, rfl⟩ := requireChildText_eq_ok.mp required
    exact ⟨child, found, gives⟩

private theorem texts_addressees (children : List Element) :
    ((children.filter fun child => child.name == "ToAddress").filterMap text).filter
        (fun text => !Text.isBlankText text) =
      (children.filter fun child => child.name == "ToAddress" && child.hasText).map
        fun child => child.text.getD "" := by
  induction children with
  | nil => rfl
  | cons child rest ih =>
      cases named : child.name == "ToAddress" with
      | false => simpa [named] using ih
      | true =>
          cases given : child.text with
          | none => simpa [named, given, hasText] using ih
          | some text =>
              cases blank : Text.isBlankText text with
              | true => simpa [named, given, hasText, blank] using ih
              | false => simpa [named, given, hasText, blank] using ih

end Element

theorem Envelope.ofElement_eq_ok {element : Element} {envelope : Envelope} :
    ofElement element = .ok envelope ↔
      element.attribute? "server" = some envelope.server ∧
      element.number? "port" Text.maxWord16 = .ok envelope.port ∧
      element.number? "seconds" Text.maxWord64 = .ok envelope.timeout ∧
      element.requireChildText "FromAddress" = .ok envelope.sender ∧
      envelope.recipients = element.addressees.map (fun child => child.text.getD "") ∧
      element.addressees ≠ [] ∧ element.requireChildText "Subject" = .ok envelope.subject := by
  have recipients := Element.texts_addressees element.children
  have none_iff : (element.addressees.map fun child => child.text.getD "").isEmpty = true ↔
      element.addressees = [] := by
    rw [List.isEmpty_iff, List.map_eq_nil_iff]
  rw [ofElement, Element.childrenNamed, recipients, ← Element.addressees]
  simp only [except_bind_eq_ok, Element.requireAttribute_eq_ok]
  constructor
  · rintro ⟨server, hasServer, port, hasPort, timeout, hasTimeout, sender, hasSender, made⟩
    split at made
    · cases made
    · rename_i some
      obtain ⟨subject, hasSubject, made⟩ := except_bind_ok made
      cases made
      exact ⟨hasServer, hasPort, hasTimeout, hasSender, rfl, mt none_iff.mpr some, hasSubject⟩
  · rintro ⟨hasServer, hasPort, hasTimeout, hasSender, same, some, hasSubject⟩
    refine ⟨_, hasServer, _, hasPort, _, hasTimeout, _, hasSender, ?_⟩
    rw [if_neg (mt none_iff.mp some), ← same]
    exact except_bind_eq_ok.mpr ⟨_, hasSubject, rfl⟩

private theorem Envelope.expandAll_eq_ok {tokens : Tokens} {texts results : List String} :
    expandAll tokens texts = .ok results ↔
      List.Forall₂ (fun text result => tokens.expand text = .ok result) texts results := by
  induction texts generalizing results with
  | nil =>
      rw [List.forall₂_nil_left_iff, expandAll, Except.ok.injEq]
      exact eq_comm
  | cons text rest ih =>
      simp only [expandAll, except_bind_eq_ok]
      constructor
      · rintro ⟨result, expanded, more, others, made⟩
        cases made
        exact .cons expanded (ih.mp others)
      · intro pairs
        cases pairs with
        | cons expanded others => exact ⟨_, expanded, _, ih.mpr others, rfl⟩

theorem Envelope.address_eq_ok {envelope : Envelope} {settings : Settings} {tokens : Tokens}
    {body : String} {mail : Mail} :
    envelope.address settings tokens body = .ok mail ↔
      List.Forall₂ (fun text recipient => tokens.expand (Text.trim text) = .ok recipient)
        envelope.recipients mail.recipients ∧
      tokens.expand envelope.server = .ok mail.server ∧
      tokens.expand (Text.trim envelope.sender) = .ok mail.sender ∧
      tokens.expand (Text.trim envelope.subject) = .ok mail.subject ∧
      envelope.port.getD settings.mailPort = mail.port ∧
      envelope.timeout.getD settings.mailTimeout = mail.timeout ∧ body = mail.body := by
  simp only [address, except_bind_eq_ok, expandAll_eq_ok, List.forall₂_map_left_iff]
  constructor
  · rintro ⟨recipients, given, server, hasServer, sender, hasSender, subject, hasSubject, made⟩
    cases made
    exact ⟨given, hasServer, hasSender, hasSubject, rfl, rfl, rfl⟩
  · rintro ⟨given, hasServer, hasSender, hasSubject, port, timeout, same⟩
    refine ⟨_, given, _, hasServer, _, hasSender, _, hasSubject, ?_⟩
    rw [port, timeout, same]
    rfl

namespace Element

/-- The mail is made of the parts that the element gives, whatever its body is. -/
structure Addressed (element : Element) (settings : Settings) (tokens : Tokens) (mail : Mail) :
    Prop where
  server : ∃ source, element.attribute? "server" = some source ∧
    tokens.expand source = .ok mail.server
  port : element.Numbers "port" Text.maxWord16 settings.mailPort mail.port
  timeout : element.Numbers "seconds" Text.maxWord64 settings.mailTimeout mail.timeout
  sender : element.Supplies tokens Text.trim "FromAddress" mail.sender
  subject : element.Supplies tokens Text.trim "Subject" mail.subject
  some : element.addressees ≠ []
  recipients : List.Forall₂
    (fun child recipient => tokens.expand (Text.trim (child.text.getD "")) = .ok recipient)
    element.addressees mail.recipients

/-- Every part of a mail but its body is there, valid, and can be expanded. -/
structure Addressable (element : Element) (tokens : Tokens) : Prop where
  server : ∃ source expanded, element.attribute? "server" = some source ∧
    tokens.expand source = .ok expanded
  port : element.attribute? "port" = none ∨ ∃ value, element.IsNumber "port" Text.maxWord16 value
  timeout : element.attribute? "seconds" = none ∨
    ∃ value, element.IsNumber "seconds" Text.maxWord64 value
  sender : ∃ expanded, element.Supplies tokens Text.trim "FromAddress" expanded
  subject : ∃ expanded, element.Supplies tokens Text.trim "Subject" expanded
  some : element.addressees ≠ []
  recipients : ∀ child ∈ element.addressees,
    ∃ recipient, tokens.expand (Text.trim (child.text.getD "")) = .ok recipient

variable {element : Element} {settings : Settings} {tokens : Tokens}

private theorem numbers_exists {name : String} {limit : Nat} (absent : Nat) :
    (∃ value, element.Numbers name limit absent value) ↔
      element.attribute? name = none ∨ ∃ value, element.IsNumber name limit value := by
  constructor
  · rintro ⟨value, numbered | ⟨missing, -⟩⟩
    · exact .inr ⟨value, numbered⟩
    · exact .inl missing
  · rintro (missing | ⟨value, numbered⟩)
    · exact ⟨absent, .inr ⟨missing, rfl⟩⟩
    · exact ⟨value, .inl numbered⟩

theorem addressable_iff (settings : Settings) (body : String) :
    element.Addressable tokens ↔
      ∃ mail, element.Addressed settings tokens mail ∧ mail.body = body := by
  constructor
  · rintro ⟨⟨source, server, hasServer, expanded⟩, port, timeout, ⟨sender, hasSender⟩,
      ⟨subject, hasSubject⟩, some, each⟩
    obtain ⟨portNumber, hasPort⟩ := (numbers_exists settings.mailPort).mpr port
    obtain ⟨seconds, hasTimeout⟩ := (numbers_exists settings.mailTimeout).mpr timeout
    obtain ⟨recipients, hasRecipients⟩ := exists_forall₂_iff.mpr each
    exact ⟨⟨server, portNumber, seconds, sender, recipients, subject, body⟩,
      ⟨⟨source, hasServer, expanded⟩, hasPort, hasTimeout, hasSender, hasSubject, some,
        hasRecipients⟩, rfl⟩
  · rintro ⟨mail, addressed, -⟩
    obtain ⟨source, hasServer, expanded⟩ := addressed.server
    refine ⟨⟨source, mail.server, hasServer, expanded⟩, (numbers_exists _).mp ⟨_, addressed.port⟩,
      (numbers_exists _).mp ⟨_, addressed.timeout⟩, ⟨_, addressed.sender⟩, ⟨_, addressed.subject⟩,
      addressed.some, exists_forall₂_iff.mp ⟨_, addressed.recipients⟩⟩

theorem addressed_iff {body : String} {mail : Mail} :
    (∃ envelope, Envelope.ofElement element = .ok envelope ∧
        envelope.address settings tokens body = .ok mail) ↔
      element.Addressed settings tokens mail ∧ mail.body = body := by
  simp only [Envelope.ofElement_eq_ok, Envelope.address_eq_ok]
  constructor
  · rintro ⟨envelope, ⟨hasServer, hasPort, hasTimeout, hasSender, same, some, hasSubject⟩, given,
      server, sender, subject, port, timeout, body⟩
    rw [same, List.forall₂_map_left_iff] at given
    exact ⟨⟨⟨_, hasServer, server⟩, numbers_iff.mpr ⟨_, hasPort, port⟩,
      numbers_iff.mpr ⟨_, hasTimeout, timeout⟩, supplies_iff.mpr ⟨_, hasSender, sender⟩,
      supplies_iff.mpr ⟨_, hasSubject, subject⟩, some, given⟩, body.symm⟩
  · rintro ⟨addressed, same⟩
    obtain ⟨source, hasServer, server⟩ := addressed.server
    obtain ⟨port, hasPort, atPort⟩ := numbers_iff.mp addressed.port
    obtain ⟨timeout, hasTimeout, within⟩ := numbers_iff.mp addressed.timeout
    obtain ⟨sender, hasSender, fromSender⟩ := supplies_iff.mp addressed.sender
    obtain ⟨subject, hasSubject, onSubject⟩ := supplies_iff.mp addressed.subject
    refine ⟨⟨source, port, timeout, sender, element.addressees.map fun child => child.text.getD "",
      subject⟩, ⟨hasServer, hasPort, hasTimeout, hasSender, rfl, addressed.some, hasSubject⟩,
      ?_, server, fromSender, onSubject, atPort, within, same.symm⟩
    rw [List.forall₂_map_left_iff]
    exact addressed.recipients

end Element

end HookRules

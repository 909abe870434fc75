import HookRules.Mail.Address
import HookRules.Mail.Basic

/-!
Delivery through a mail server: addresses are looked at first, then the server is reached.
-/

set_option autoImplicit false

namespace HookRules

namespace Mail

def problem? (mail : Mail) : Option MailError :=
  if !Address.isMailbox mail.sender then some (.badSender mail.sender)
  else match mail.recipients.find? fun recipient => !Address.isMailbox recipient with
    | some recipient => some (.badRecipient recipient)
    | none => if mail.recipients.isEmpty then some .unbuildable else none

end Mail

namespace Mailer

variable {World : Type}

/-- Delivers through servers; `answers` is what the server of a message makes of it, if it can be
reached. -/
def overNetwork (answers : Mail → StateM World (Option Receipt)) : Mailer World where
  connects := fun mail => mail.problem?.isNone
  deliver := fun mail =>
    match mail.problem? with
    | some error => return .error error
    | none => do
      match ← answers mail with
      | some receipt => return .ok receipt
      | none => return .error (.undelivered mail.server)

def offline : Mailer World := .overNetwork fun _ => return none

end Mailer

end HookRules

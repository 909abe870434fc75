/-!
Mail that rules send, and what delivers it.
-/

set_option autoImplicit false

namespace HookRules

structure Mail where
  server : String
  port : Nat
  timeout : Nat
  sender : String
  recipients : List String
  subject : String
  body : String
  deriving Repr, DecidableEq, Inhabited

inductive MailError
  | badSender (address : String)
  | badRecipient (address : String)
  | unbuildable
  | undelivered (server : String)
  /-- The mailer gave a reason of its own. -/
  | refused (reason : String)
  deriving Repr, DecidableEq

def MailError.message : MailError → String
  | .badSender address => "Invalid sender address: " ++ address
  | .badRecipient address => "Invalid recipient address: " ++ address
  | .unbuildable => "Failed to build mail message"
  | .undelivered server => "Failed to send mail via " ++ server
  | .refused reason => reason

inductive Receipt
  | taken
  /-- The message will never be taken, and nothing else can be done about it. -/
  | rejected (reason : String)
  deriving Repr, DecidableEq

/-- What delivers mail in some world. -/
structure Mailer (World : Type) where
  /-- Whether delivery comes as far as the server, which is then noted. -/
  connects : Mail → Bool
  deliver : Mail → StateM World (Except MailError Receipt)

def Mailer.lift {World Wider : Type}
    (within : {Answer : Type} → StateM World Answer → StateM Wider Answer)
    (mailer : Mailer World) : Mailer Wider where
  connects := mailer.connects
  deliver := fun mail => within (mailer.deliver mail)

end HookRules

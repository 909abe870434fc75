import HookRules.Unicode.Letter

/-!
Upper case of whole texts, and comparison that ignores the case of ASCII letters.
-/

set_option autoImplicit false

namespace HookRules.Text

def toUpper (text : String) : String := String.ofList (text.toList.flatMap Unicode.Letter.upper)

def asciiLower (text : String) : String := text.map Char.toLower

end HookRules.Text

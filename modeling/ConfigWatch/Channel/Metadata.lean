import ConfigWatch.Error
import ConfigWatch.Settings.Basic
import ConfigWatch.Text.Utf8

/-!
# Metadata

What is sent along with every request. The token for authentication travels as it is, so it may
not have control characters in it.
-/

set_option autoImplicit false

namespace ConfigWatch

namespace Metadata

def tokenName : String := "mhconfig-auth-token"

/-- Whether a byte may stand in the value of a header: tabs, and all but the control characters
of ASCII. -/
def isSendable (byte : UInt8) : Bool := byte == 9 || (32 ≤ byte && byte != 127)

def checkToken (token : String) : Except Error String :=
  if (Utf8.encode token).all isSendable then .ok token
  else .error (.invalidMetadata (tokenName ++ ": failed to parse metadata value"))

def ofSettings (settings : ChannelSettings) : Except Error (List (String × String)) :=
  match settings.authToken with
  | none => .ok []
  | some token => (checkToken token).map (fun token => [(tokenName, token)])

end Metadata

end ConfigWatch

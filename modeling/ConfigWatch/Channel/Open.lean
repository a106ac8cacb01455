import ConfigWatch.Channel.Metadata
import ConfigWatch.Channel.ServerName

/-!
# Opening a channel

A channel is set up from its settings: the address has to be one, an encrypted channel needs its
certificate file and a name to check the server against, and the token has to be one that can be
sent. The first of these that fails names the error.
-/

set_option autoImplicit false

namespace ConfigWatch.Channel

/-- Sets up the encryption. `readable` tells which files can be read. -/
def checkEncryption (readable : String → Bool) (settings : EncryptionSettings)
    (address : Address) : Except Error Unit := do
  if settings.caCertificatePath.any (fun path => !readable path) then throw .encryption
  let name := match settings.domainName with
    | some name => some (Utf8.encode name)
    | none => address.host?
  if !name.any ServerName.isValid then throw .unreachable

def checkEndpoint (readable : String → Bool) (settings : ChannelSettings) :
    Except Error Unit :=
  match Address.parse? settings.endpoint with
  | none => .error .invalidAddress
  | some address =>
    if settings.encryption.enabled then checkEncryption readable settings.encryption address
    else .ok ()

/-- Opens a channel that is connected when it is first used, and gives the metadata of its
requests. -/
def openLazily (readable : String → Bool) (settings : ChannelSettings) :
    Except Error (List (String × String)) := do
  checkEndpoint readable settings
  Metadata.ofSettings settings

/-- Opens a channel and connects it at once; `answers` tells whether the far end speaks the
protocol of the channel. -/
def connect (readable : String → Bool) (answers : Bool) (settings : ChannelSettings) :
    Except Error (List (String × String)) := do
  checkEndpoint readable settings
  if !answers then throw .unreachable
  Metadata.ofSettings settings

end ConfigWatch.Channel

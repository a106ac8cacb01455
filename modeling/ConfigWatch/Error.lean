import ConfigWatch.Keys
import ConfigWatch.Payload.Decode

/-!
# Errors

Every way in which an operation of the client can fail, by its cause.
-/

set_option autoImplicit false

namespace ConfigWatch

/-- A status code of a remote call. Numbers beyond the known ones stand for an unknown status. -/
def callCode (number : Int) : Nat := if 0 ≤ number ∧ number ≤ 16 then number.toNat else 2

/-- Why an operation failed. -/
inductive Error where
  /-- The payload of an answer does not decode. -/
  | decode (cause : DecodeError)
  /-- The answer to a read is not of the version that was asked for. -/
  | inconsistent (requested received : Version)
  /-- The client was closed before. -/
  | closed
  /-- The transport cannot go on. -/
  | fatal (reason : String)
  /-- The server ended the watch stream. -/
  | streamClosed
  /-- A value cannot be sent along with a request. -/
  | invalidMetadata (reason : String)
  /-- The call ended with a status, with a message when the server sent it. -/
  | call (code : Nat) (message : Option String)
  /-- The endpoint is not an address. -/
  | invalidAddress
  /-- The encryption of the channel cannot be set up. -/
  | encryption
  /-- No channel to the endpoint could be established. -/
  | unreachable
  /-- A background worker did not end in an orderly way. -/
  | workerFailed
  /-- A setting has a value that is not accepted. -/
  | setting (reason : String)
  /-- The settings could not be read. -/
  | unreadable
deriving DecidableEq

namespace Error

/-- What a reader is told about a failure. Failures found by the channel, the workers or the
reader of settings have no text of their own. -/
def message : Error → Option String
  | .decode cause => some cause.message
  | .inconsistent requested received =>
    some ("Consistency broken: requested " ++ requested.toText ++ ", server returned " ++
      received.toText)
  | .closed => some "Client is closed"
  | .fatal reason => some ("Fatal error: " ++ reason)
  | .streamClosed => some "Watch stream closed by peer"
  | .invalidMetadata reason => some ("Invalid request metadata: " ++ reason)
  | .call _ message => message
  | .setting reason => some reason
  | .invalidAddress | .encryption | .unreachable | .workerFailed | .unreadable => none

end Error

end ConfigWatch

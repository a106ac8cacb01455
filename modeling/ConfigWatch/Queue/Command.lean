import ConfigWatch.Keys
import ConfigWatch.Protocol.Messages
import ConfigWatch.Status

/-!
# Commands

What the client has to tell the server about its subscriptions. A command is stamped with the
generation of the cache that it was issued under, because subscription ids start again with
every generation.
-/

set_option autoImplicit false

namespace ConfigWatch

/-- What a client wants from the server in all its requests. -/
structure RequestOptions where
  logLevel : LogLevel := .error
  withPositions : Bool := false
deriving DecidableEq, Inhabited

/-- An instruction about one subscription. -/
inductive Command where
  | subscribe (subscription : UInt32) (space : NamespaceKey) (key : DocumentKey)
  | unsubscribe (subscription : UInt32)
deriving DecidableEq, Inhabited

/-- A command with the generation that it was issued under. -/
structure StampedCommand where
  generation : Nat
  command : Command
deriving DecidableEq, Inhabited

namespace Command

def subscription : Command → UInt32
  | .subscribe subscription _ _ => subscription
  | .unsubscribe subscription => subscription

def toRequest (options : RequestOptions) : Command → WatchRequest
  | .subscribe subscription space key =>
    { uid := subscription
      root := space.root
      overrides := space.overrides
      flavors := key.flavors
      document := key.document
      logLevel := options.logLevel.code
      withPositions := options.withPositions }
  | .unsubscribe subscription =>
    { uid := subscription, remove := true, logLevel := options.logLevel.code }

end Command

end ConfigWatch

import ConfigWatch.Clock
import ConfigWatch.Keys
import ConfigWatch.Position
import ConfigWatch.Status
import ConfigWatch.Table
import ConfigWatch.Value.Text

/-!
# Contents, events and watchers

A content is a decoded value under the checksum of its payload. It is shared: its id tells apart
two contents that were decoded at different times, whatever they hold. Events tell watchers what
became of a subscription.
-/

set_option autoImplicit false

namespace ConfigWatch

/-- A decoded value with the places it was written at, under the checksum of its payload. -/
structure Content where
  id : Nat
  checksum : Bytes
  value : Value
  positions : PositionTree
deriving Inhabited

namespace Content

/-- The debugging form of a content: its checksum and its value. -/
def debugText (content : Content) : String :=
  "SpecificConfig \x7b checksum: " ++ Hex.encode content.checksum ++ ", value: " ++
    content.value.debugText ++ " \x7d"

end Content

/-- What a watcher is told: the outcome of the last reply and the version and content held. -/
structure Event where
  subscription : UInt32
  status : ReplyStatus
  version : Option Version
  content : Option Content
deriving Inhabited

/-- What a watcher does when it has taken note of an event. -/
inductive Reaction where
  /-- Nothing. -/
  | idle
  /-- The reaction that follows, if the event has this outcome. -/
  | onlyOn (status : ReplyStatus) (next : Reaction)
  /-- Removes a watcher. -/
  | unwatch (subscription watcher : UInt32)
  /-- Counts the subscriptions. -/
  | count
  /-- Watches a document without a watcher of its own. -/
  | subscribe (space : NamespaceKey) (key : DocumentKey)
  /-- Watches a document with a further watcher. -/
  | watch (space : NamespaceKey) (key : DocumentKey) (label : String) (next : Reaction)
deriving Inhabited

/-- A watcher: a label, a reaction and the serial number of its registration. -/
structure Watcher where
  label : String
  reaction : Reaction := .idle
  registration : Nat := 0
deriving Inhabited

/-- An event on its way to a watcher. -/
structure Notification where
  watcher : Watcher
  event : Event
deriving Inhabited

end ConfigWatch

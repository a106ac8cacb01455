import ConfigWatch.Client.Watch
import ConfigWatch.Diagnostics

/-!
# News from the server

What a reply on the watch stream does. It is meant for one subscription; a reply for an unknown
one changes nothing. Good replies are decoded, stored under their version and applied to the
record; a removal makes the client subscribe again; every other outcome is applied as it is.
-/

set_option autoImplicit false

namespace ConfigWatch.Client

def touchAt (client : Client) (space : NamespaceKey) (key : DocumentKey) : Client :=
  let (now, client) := client.now
  { client with cache := client.cache.touchRecord space key now }

def changeRecord (client : Client) (id : UInt32)
    (change : Record → List Notification × Record) : List Notification × Client :=
  let (notifications, cache) := client.cache.changeRecord id change
  (notifications, { client with cache })

/-- The server removed a subscription: the client subscribes again while the record is active,
and forgets the id otherwise. -/
def applyRemoval (client : Client) (id : UInt32) (space : NamespaceKey) (key : DocumentKey) :
    Client :=
  let client := client.touchAt space key
  match client.cache.record? id with
  | some record =>
    if record.isActive then client.push (.subscribe id space key)
    else { client with cache := (client.cache.forgetSubscription id).2 }
  | none => { client with cache := (client.cache.forgetSubscription id).2 }

/-- The server sent a content. One that does not decode turns the record to an error. -/
def applyContent (client : Client) (reply : WatchResponse) (space : NamespaceKey)
    (key : DocumentKey) : List Notification × Client :=
  let version : Version := ⟨reply.namespaceId, reply.version⟩
  let (resolved, client) := client.now
  match
    client.cache.resolve reply.checksum (fun _ => client.decodePayload reply.nodes) resolved
    with
  | .error _ => client.changeRecord reply.uid (fun record => record.updateStatus .error)
  | .ok (content, cache) =>
    let (stored, client) := { client with cache }.now
    let client :=
      { client with cache := client.cache.insertVersion space version key content stored }
    let client := client.touchAt space key
    client.changeRecord reply.uid (fun record => record.update version content)

/-- The part of handling a reply that happens in one step: everything but telling the watchers. -/
def applyReply (client : Client) (reply : WatchResponse) : List Notification × Client :=
  match client.cache.bySubscription.get? reply.uid with
  | none => ([], client)
  | some (space, key) =>
    match ReplyStatus.ofWatchCode reply.status with
    | .removed => ([], client.applyRemoval reply.uid space key)
    | .ok => client.applyContent reply space key
    | status =>
      (client.touchAt space key).changeRecord reply.uid (fun record => record.updateStatus status)

def handleReply (client : Client) (reply : WatchResponse) : Client :=
  let (notifications, client) := client.applyReply reply
  client.dispatch notifications

/-- The lines of the diagnostics that a reply brings along. -/
def replyLines (reply : WatchResponse) : List LogLine :=
  (Log.ofEntries reply.logs).map (Log.emit "WatchLoop:server")

/-- The stream failed: the cache starts afresh, and every watcher is told that its subscription
was removed. -/
def reset (client : Client) : Client :=
  let (notifications, cache) := client.cache.reset
  { client with cache }.dispatch notifications

/-- Sweeps the cache at a moment, and tells the server which subscriptions are gone. Nothing
happens when the limit lies before all time. -/
def sweepAt (client : Client) (moment : Instant) : Client :=
  match client.clock.before? moment client.settings.inactivityThresholdSeconds.toNat with
  | none => client
  | some limit =>
    let (removed, cache) := client.cache.cleanup limit
    removed.foldl (fun client id => client.push (.unsubscribe id)) { client with cache }

def sweep (client : Client) : Client :=
  let (moment, client) := client.now
  client.sweepAt moment

end ConfigWatch.Client

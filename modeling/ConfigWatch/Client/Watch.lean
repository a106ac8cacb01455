import ConfigWatch.Client.Basic

/-!
# Watching

A watch registers interest in a document. The server is told only when the document was not
watched before; a watcher is told at once if a reply was already applied. Watchers may call the
client in turn, so telling a watcher is itself an operation on the client.
-/

set_option autoImplicit false

namespace ConfigWatch

/-- The answer to a watch. -/
structure Watching where
  subscription : UInt32
  watcher : Option UInt32
deriving DecidableEq, Inhabited

/-- What a watch leaves behind before any watcher is told: its answer, the notification that is
due at once and the client. -/
structure Registered where
  watching : Watching
  initial : Option Notification
  client : Client

namespace Client

/-- Adds a watcher to the record of a document, with the notification that is due at once. -/
def attach (client : Client) (space : NamespaceKey) (key : DocumentKey) (record : Record) :
    Option (String × Reaction) → Option UInt32 × Option Notification × Client
  | none => (none, none, client)
  | some (label, reaction) =>
    let watcher : Watcher := { label, reaction, registration := client.registrations }
    let added := record.addWatcher watcher
    (some added.1, record.currentEvent.map (fun event => ⟨watcher, event⟩),
      { client with
        registrations := client.registrations + 1
        cache := client.cache.modifyRecord space key (fun _ => added.2) })

/-- The part of a watch that happens in one step: finds or makes the record, touches it, adds
the watcher, and tells the server about a new subscription. -/
def register (client : Client) (space : NamespaceKey) (key : DocumentKey)
    (watcher : Option (String × Reaction)) : Except Error Registered := do
  client.ensureOpen
  let (created, client) := client.now
  let (isNew, record, cache) := client.cache.recordOrNew space key created
  let (touched, client) := { client with cache }.now
  let client := { client with cache := client.cache.touchRecord space key touched }
  let (id, initial, client) := client.attach space key { record with lastTouch := touched } watcher
  let client :=
    if isNew then client.push (.subscribe record.subscription space key) else client
  return ⟨⟨record.subscription, id⟩, initial, client⟩

/-- Removes one watcher, and tells whether it was there. The subscription stays until a sweep
finds it idle. -/
def unwatch (client : Client) (subscription watcher : UInt32) : Bool × Client :=
  match client.cache.located? subscription with
  | none => (false, client)
  | some (space, key, record) =>
    let removed := record.removeWatcher watcher
    (removed.1, { client with cache := client.cache.modifyRecord space key (fun _ => removed.2) })

def countSubscriptions (client : Client) : Nat := client.cache.bySubscription.size

def react : Reaction → String → Nat → Event → Client → Client
  | .idle, _, _, _, client => client
  | .onlyOn status next, label, registration, event, client =>
    if event.status = status then react next label registration event client else client
  | .unwatch subscription watcher, label, registration, _, client =>
    let (found, client) := client.unwatch subscription watcher
    client.note label registration (.removed found)
  | .count, label, registration, _, client =>
    client.note label registration (.counted client.countSubscriptions)
  | .subscribe space key, label, registration, _, client =>
    match client.register space key none with
    | .error cause => client.note label registration (.refused cause)
    | .ok registered =>
      registered.client.note label registration
        (.watching registered.watching.subscription registered.watching.watcher)
  | .watch space key inner next, label, registration, _, client =>
    match client.register space key (some (inner, next)) with
    | .error cause => client.note label registration (.refused cause)
    | .ok registered =>
      let told := match registered.initial with
        | none => registered.client
        | some initial =>
          react next inner initial.watcher.registration initial.event
            (registered.client.note inner initial.watcher.registration (.event initial.event))
      told.note label registration
        (.watching registered.watching.subscription registered.watching.watcher)

def notify (client : Client) (notification : Notification) : Client :=
  let watcher := notification.watcher
  react watcher.reaction watcher.label watcher.registration notification.event
    (client.note watcher.label watcher.registration (.event notification.event))

def dispatch (client : Client) (notifications : List Notification) : Client :=
  notifications.foldl notify client

/-- Watches a document: registers, then tells the watcher if there is something to tell. -/
def watch (client : Client) (space : NamespaceKey) (key : DocumentKey)
    (watcher : Option (String × Reaction)) : Except Error (Watching × Client) := do
  let registered ← client.register space key watcher
  return (registered.watching, registered.client.dispatch registered.initial.toList)

end Client

end ConfigWatch

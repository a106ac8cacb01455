import ConfigWatch.Cache.Cleanup

/-!
# Operations of a cache by itself

A cache under a clock, without a client around it: every operation that a client applies to its
cache, one at a time. Each moment that an operation needs is a reading of the clock.
-/

set_option autoImplicit false

namespace ConfigWatch

/-- A payload and whether its places are kept. -/
structure PayloadOffer where
  checksum : Bytes
  nodes : List Node
  positions : Bool := false

/-- One operation on a cache. -/
inductive CacheOperation where
  | setClock (millis : Nat)
  | openNamespace (space : NamespaceKey)
  | openRecord (space : NamespaceKey) (key : DocumentKey)
  | addWatcher (subscription : UInt32) (label : String)
  | removeWatcher (subscription watcher : UInt32)
  | resolve (offer : PayloadOffer)
  | update (subscription : UInt32) (version : Version) (offer : PayloadOffer)
  | updateStatus (subscription : UInt32) (status : ReplyStatus)
  | deactivate (subscription : UInt32)
  | touch (subscription : UInt32)
  | touchAt (subscription : UInt32) (millis : Int)
  | touched (subscription : UInt32)
  | insertVersion (space : NamespaceKey) (version : Version) (key : DocumentKey)
      (offer : PayloadOffer)
  | version (space : NamespaceKey) (version : Version) (key : DocumentKey)
  | readVersion (space : NamespaceKey) (version : Version) (key : DocumentKey)
  | findChecksum (checksum : Bytes)
  | lookup (space : NamespaceKey) (key : DocumentKey)
  | record (subscription : UInt32)
  | forgetSubscription (subscription : UInt32)
  | cleanup (limitMillis : Int)
  | reset
  | capacity

/-- The answer to an operation on a cache. -/
inductive CacheAnswer where
  | nothing
  | refused (cause : DecodeError)
  | truth (truth : Bool)
  | count (count : Nat)
  | ids (ids : List UInt32)
  /-- A namespace with its numbers of records and of version entries. -/
  | space (space : NamespaceKey) (records versions : Nat)
  /-- Whether a record is new, and its subscription id. -/
  | opened (isNew : Bool) (subscription : UInt32)
  | content (content : Content)
  | indexed (content : Content)
  /-- The last touches of a record and of the content it holds, in whole milliseconds. -/
  | touches (record : Int) (content : Option Int)
  /-- The numbers of records and of version entries of a namespace, and the subscription id of a
  document in it. -/
  | sizes (records versions : Nat) (subscription : Option UInt32)
  /-- A document under a subscription id. The record may be gone. -/
  | located (space : NamespaceKey) (key : DocumentKey) (record : Option Record)

/-- A cache under a clock. -/
structure CacheScenario where
  cache : Cache
  clock : Clock := {}

namespace CacheScenario

def start (capacity : Nat) : CacheScenario := { cache := { capacity } }

def now (scenario : CacheScenario) : Instant × CacheScenario :=
  (scenario.clock.read.1, { scenario with clock := scenario.clock.read.2 })

def resolve (scenario : CacheScenario) (offer : PayloadOffer) :
    Except DecodeError (Content × CacheScenario) :=
  let (moment, scenario) := scenario.now
  (scenario.cache.resolve offer.checksum
    (fun _ => Payload.decodeWith offer.positions offer.nodes.toArray) moment).map
      (fun found => (found.1, { scenario with cache := found.2 }))

/-- Applies a change to the record of a subscription id, and counts the notifications. -/
def changeRecord (scenario : CacheScenario) (subscription : UInt32)
    (change : Record → List Notification × Record) :
    CacheAnswer × List Notification × CacheScenario :=
  match scenario.cache.record? subscription with
  | none => (.nothing, [], scenario)
  | some _ =>
    let (notifications, cache) := scenario.cache.changeRecord subscription change
    (.count notifications.length, notifications, { scenario with cache })

/-- Touches the record of a subscription id at a moment, and tells whether there is one. -/
def touchAt (scenario : CacheScenario) (subscription : UInt32) (moment : Instant) :
    CacheAnswer × CacheScenario :=
  match scenario.cache.located? subscription with
  | none => (.truth false, scenario)
  | some (space, key, _) =>
    (.truth true, { scenario with cache := scenario.cache.touchRecord space key moment })

def touches (scenario : CacheScenario) (subscription : UInt32) : CacheAnswer :=
  match scenario.cache.record? subscription with
  | none => .nothing
  | some record =>
    .touches record.lastTouch.millis
      (record.latest.map (fun held => (scenario.cache.contentTouch held.2).millis))

def addWatcher (scenario : CacheScenario) (subscription : UInt32) (label : String) :
    CacheAnswer × CacheScenario :=
  match scenario.cache.located? subscription with
  | none => (.nothing, scenario)
  | some (space, key, record) =>
    let (watcher, added) := record.addWatcher { label }
    (.count watcher.toNat,
      { scenario with cache := scenario.cache.modifyRecord space key (fun _ => added) })

/-- Removes a watcher from the record of a subscription id. -/
def removeWatcher (scenario : CacheScenario) (subscription watcher : UInt32) :
    CacheAnswer × CacheScenario :=
  match scenario.cache.located? subscription with
  | none => (.nothing, scenario)
  | some (space, key, record) =>
    let (found, left) := record.removeWatcher watcher
    (.truth found,
      { scenario with cache := scenario.cache.modifyRecord space key (fun _ => left) })

/-- The sizes of a namespace and the subscription id of a document in it. -/
def lookup (scenario : CacheScenario) (space : NamespaceKey) (key : DocumentKey) : CacheAnswer :=
  match scenario.cache.namespaces.get? space with
  | none => .nothing
  | some found =>
    .sizes found.records.size found.versions.size
      ((found.records.get? key).map Record.subscription)

def quietly (scenario : CacheScenario) : CacheOperation → CacheAnswer × CacheScenario
  | .setClock millis =>
    (.nothing, { scenario with clock := { scenario.clock with elapsed := millis } })
  | .openNamespace space =>
    let cache := scenario.cache.ensureNamespace space
    let found := cache.namespaceOrNew space
    (.space space found.records.size found.versions.size, { scenario with cache })
  | .openRecord space key =>
    let (moment, scenario) := scenario.now
    let (isNew, record, cache) := scenario.cache.recordOrNew space key moment
    (.opened isNew record.subscription, { scenario with cache })
  | .addWatcher subscription label => scenario.addWatcher subscription label
  | .removeWatcher subscription watcher => scenario.removeWatcher subscription watcher
  | .resolve offer =>
    match scenario.resolve offer with
    | .error cause => (.refused cause, scenario)
    | .ok (content, scenario) => (.content content, scenario)
  | .touch subscription =>
    let (moment, scenario) := scenario.now
    scenario.touchAt subscription moment
  | .touchAt subscription millis => scenario.touchAt subscription (Instant.ofMillis millis)
  | .touched subscription => (scenario.touches subscription, scenario)
  | .insertVersion space version key offer =>
    match scenario.resolve offer with
    | .error cause => (.refused cause, scenario)
    | .ok (content, scenario) =>
      let (moment, scenario) := scenario.now
      (.nothing,
        { scenario with
          cache := scenario.cache.insertVersion space version key content moment })
  | .version space version key =>
    (((scenario.cache.contentAt? space version key).map CacheAnswer.content).getD .nothing,
      scenario)
  | .readVersion space version key =>
    let (moment, scenario) := scenario.now
    match scenario.cache.readVersion space version key moment with
    | none => (.nothing, scenario)
    | some (content, cache) => (.content content, { scenario with cache })
  | .findChecksum checksum =>
    (((scenario.cache.byChecksum.get? checksum).map CacheAnswer.indexed).getD .nothing, scenario)
  | .lookup space key => (scenario.lookup space key, scenario)
  | .record subscription =>
    (match scenario.cache.bySubscription.get? subscription with
      | none => .nothing
      | some (space, key) => .located space key (scenario.cache.record? subscription),
      scenario)
  | .forgetSubscription subscription =>
    let (found, cache) := scenario.cache.forgetSubscription subscription
    (.truth found, { scenario with cache })
  | .cleanup limitMillis =>
    let (removed, cache) := scenario.cache.cleanup (Instant.ofMillis limitMillis)
    (.ids removed, { scenario with cache })
  | .capacity => (.count scenario.cache.capacity, scenario)
  | _ => (.nothing, scenario)

/-- Carries out an operation: its answer and the notifications that it gives rise to. -/
def perform (scenario : CacheScenario) :
    CacheOperation → CacheAnswer × List Notification × CacheScenario
  | .update subscription version offer =>
    match scenario.resolve offer with
    | .error cause => (.refused cause, [], scenario)
    | .ok (content, scenario) =>
      scenario.changeRecord subscription (fun record => record.update version content)
  | .updateStatus subscription status =>
    scenario.changeRecord subscription (fun record => record.updateStatus status)
  | .deactivate subscription => scenario.changeRecord subscription Record.deactivate
  | .reset =>
    let (notifications, cache) := scenario.cache.reset
    (.count notifications.length, notifications, { scenario with cache })
  | operation =>
    let (answer, scenario) := scenario.quietly operation
    (answer, [], scenario)

/-- Carries out operations one after the other. Every answer comes with the notifications of its
operation and the cache after it. -/
def run (scenario : CacheScenario) :
    List CacheOperation → List (CacheAnswer × List Notification × Cache)
  | [] => []
  | operation :: rest =>
    let (answer, notifications, scenario) := scenario.perform operation
    (answer, notifications, scenario.cache) :: scenario.run rest

end CacheScenario

end ConfigWatch

import ConfigWatch.Scenario.Basic

/-!
# Operations of a scenario

What a scenario can do to its client and its transport, and the answers. An operation that needs
the client has no answer once the client is dropped.
-/

set_option autoImplicit false

namespace ConfigWatch

/-- One operation of a scenario. -/
inductive Operation where
  | watch (space : NamespaceKey) (key : DocumentKey) (watcher : Option (String × Reaction))
  | unwatch (subscription watcher : UInt32)
  /-- Puts replies and failures on the open stream. -/
  | deliver (deliveries : List Delivery)
  /-- Puts a last delivery on the open stream, and lets go of its outbound half. -/
  | hangUp (last : Delivery)
  | plan (openings : List Opening)
  | pause (on : Bool)
  | advance (millis : Nat)
  | read (space : NamespaceKey) (key : DocumentKey) (pinned : Option Version)
      (response : Except Error ReadResponse)
  | beginRead (label : String) (space : NamespaceKey) (key : DocumentKey)
      (pinned : Option Version)
  | endRead (label : String) (response : Except Error ReadResponse)
  | reload (root : String) (paths : Option (List String)) (response : Except Error ReloadResponse)
  | trace (space : NamespaceKey) (key : DocumentKey)
      (events : Except Error (List (Except Error TraceResponse)))
  | openSession (label : String) (space : NamespaceKey)
  | sessionRead (label : String) (key : DocumentKey) (response : Except Error ReadResponse)
  | inspect
  | lookup (space : NamespaceKey) (key : DocumentKey) (version : Version)
  | findChecksum (checksum : Bytes)
  | close (deliveries : List Delivery)
  | isClosed
  | drop

/-- What is known about a subscription id. The record may be gone. -/
structure SubscriptionView where
  id : UInt32
  space : NamespaceKey
  key : DocumentKey
  record : Option Record

/-- The numbers of records and of version entries of a namespace, when it is there. -/
structure NamespaceView where
  space : NamespaceKey
  sizes : Option (Nat × Nat)

/-- The answer to an operation. -/
inductive Answer where
  | nothing
  | refused (cause : Error)
  | watching (watching : Watching)
  | truth (truth : Bool)
  | truths (truths : List Bool)
  | reply (reply : ReadReply)
  /-- Whether a begun read waits for the server. -/
  | begun (waiting : Bool)
  | reloaded (reply : ReloadReply)
  | traced (events : List (Except Error TraceEvent))
  | space (space : NamespaceKey)
  | session (pinned : Option Version) (outcome : Except Error Session.Reply)
  | inspection (subscriptions : List SubscriptionView) (namespaces : List NamespaceView)
  | content (content : Option Content)
  /-- The content in the index of checksums. -/
  | indexed (content : Option Content)
  | done

namespace Answer

def ofOutcome {α : Type} (answer : α → Answer) : Except Error α → Answer
  | .error cause => .refused cause
  | .ok outcome => answer outcome

end Answer

namespace Scenario

def name (scenario : Scenario) (space : NamespaceKey) : Scenario :=
  if scenario.named.contains space then scenario
  else { scenario with named := scenario.named ++ [space] }

def recordRead (scenario : Scenario) (request : ReadRequest) : Scenario :=
  { scenario with
    activity := { scenario.activity with reads := scenario.activity.reads ++ [request] } }

def recordRequest (scenario : Scenario) (request : ServiceRequest) : Scenario :=
  { scenario with
    activity := { scenario.activity with requests := scenario.activity.requests ++ [request] } }

def watch (scenario : Scenario) (space : NamespaceKey) (key : DocumentKey)
    (watcher : Option (String × Reaction)) : Answer × Scenario :=
  match scenario.client.watch space key watcher with
  | .error cause => (.refused cause, scenario)
  | .ok (watching, client) => (.watching watching, { scenario with client })

/-- Reads a document; the server answers at once when it is asked. -/
def read (scenario : Scenario) (space : NamespaceKey) (key : DocumentKey)
    (pinned : Option Version) (response : Except Error ReadResponse) : Answer × Scenario :=
  match scenario.client.beginRead space key pinned with
  | (.done outcome, client) => (.ofOutcome .reply outcome, { scenario with client })
  | (.ask request pending, client) =>
    let (outcome, client) := client.finishRead pending response
    (.ofOutcome .reply outcome, { scenario with client }.recordRead request)

def beginRead (scenario : Scenario) (label : String) (space : NamespaceKey) (key : DocumentKey)
    (pinned : Option Version) : Answer × Scenario :=
  let (step, client) := scenario.client.beginRead space key pinned
  let begun := { scenario with client, reads := scenario.reads.insert label step }
  match step with
  | .done _ => (.begun false, begun)
  | .ask request _ => (.begun true, begun.recordRead request)

def endRead (scenario : Scenario) (label : String) (response : Except Error ReadResponse) :
    Answer × Scenario :=
  let ended := { scenario with reads := scenario.reads.erase label }
  match scenario.reads.get? label with
  | none => (.nothing, scenario)
  | some (.done outcome) => (.ofOutcome .reply outcome, ended)
  | some (.ask _ pending) =>
    let (outcome, client) := scenario.client.finishRead pending response
    (.ofOutcome .reply outcome, { ended with client })

def reload (scenario : Scenario) (root : String) (paths : Option (List String))
    (response : Except Error ReloadResponse) : Answer × Scenario :=
  match scenario.client.reloadRequest root paths with
  | .error cause => (.refused cause, scenario)
  | .ok request =>
    (.ofOutcome .reloaded (response.map ReloadReply.ofResponse),
      scenario.recordRequest (.reload request))

def trace (scenario : Scenario) (space : NamespaceKey) (key : DocumentKey)
    (events : Except Error (List (Except Error TraceResponse))) : Answer × Scenario :=
  match scenario.client.traceRequest space key with
  | .error cause => (.refused cause, scenario)
  | .ok request =>
    (.ofOutcome .traced (events.map (fun found =>
        found.map (fun event => event.map TraceEvent.ofResponse))),
      scenario.recordRequest (.trace request))

/-- Reads a document in a session; the server answers at once when it is asked. -/
def sessionRead (scenario : Scenario) (label : String) (key : DocumentKey)
    (response : Except Error ReadResponse) : Answer × Scenario :=
  match scenario.sessions.get? label with
  | none => (.nothing, scenario)
  | some session =>
    match session.beginRead scenario.client key with
    | (.done outcome, session, client) =>
      (.session session.pinned outcome,
        { scenario with client, sessions := scenario.sessions.insert label session })
    | (.ask request pending, session, client) =>
      let (outcome, session, client) := session.finishRead client pending response
      (.session session.pinned outcome,
        { scenario with
          client
          sessions := scenario.sessions.insert label session }.recordRead request)

/-- What the cache knows: its subscription ids, and the namespaces named so far. -/
def inspect (scenario : Scenario) : Answer :=
  let cache := scenario.client.cache
  let ids := Cache.sortIds cache.bySubscription.keys
  let view (id : UInt32) : Option SubscriptionView := do
    let (space, key) ← cache.bySubscription.get? id
    return ⟨id, space, key, cache.record? id⟩
  .inspection (ids.filterMap view)
    (scenario.named.map (fun space =>
      ⟨space, (cache.namespaces.get? space).map (fun found =>
        (found.records.size, found.versions.size))⟩))

/-- Closes the client after some last deliveries. The workers stop before they read these. -/
def close (scenario : Scenario) (deliveries : List Delivery) : Answer × Scenario :=
  let scenario := { scenario with transport := (scenario.transport.deliverAll deliveries).2 }
  if scenario.client.closed then (.done, scenario)
  else
    let (outcome, client) := scenario.client.close
    (.ofOutcome (fun _ => .done) outcome,
      { scenario with client, transport := scenario.transport.abandon })

/-- Ends the open stream from the far side, and tells whether there is one. -/
def hangUp (scenario : Scenario) (last : Delivery) : Answer × Scenario :=
  let (accepted, transport) := scenario.transport.deliver last
  if accepted then
    let queue := scenario.client.queue.finish transport.stream
    (.truth true,
      { scenario with client := { scenario.client with queue }, transport := transport.hangUp })
  else (.truth false, scenario)

def useClient (scenario : Scenario) : Operation → Answer × Scenario
  | .watch space key watcher => (scenario.name space).watch space key watcher
  | .unwatch subscription watcher =>
    let (found, client) := scenario.client.unwatch subscription watcher
    (.truth found, { scenario with client })
  | .read space key pinned response => (scenario.name space).read space key pinned response
  | .beginRead label space key pinned =>
    (scenario.name space).beginRead label space key pinned
  | .reload root paths response => scenario.reload root paths response
  | .trace space key events => scenario.trace space key events
  | .openSession label space =>
    let session : Session := { space }
    (.space space, { scenario.name space with sessions := scenario.sessions.insert label session })
  | .inspect => (scenario.inspect, scenario)
  | .lookup space key version =>
    (.content (scenario.client.cache.contentAt? space version key), scenario.name space)
  | .findChecksum checksum =>
    (.indexed (scenario.client.cache.byChecksum.get? checksum), scenario)
  | .close deliveries => scenario.close deliveries
  | .isClosed => (.truth scenario.client.closed, scenario)
  | .drop => (.nothing, { scenario with client := scenario.client.beginClose, dropped := true })
  | _ => (.nothing, scenario)

def perform (scenario : Scenario) : Operation → Answer × Scenario
  | .deliver deliveries =>
    let (accepted, transport) := scenario.transport.deliverAll deliveries
    (.truths accepted, { scenario with transport })
  | .hangUp last => scenario.hangUp last
  | .plan openings =>
    (.nothing,
      { scenario with
        transport := { scenario.transport with plan := scenario.transport.plan ++ openings } })
  | .pause on =>
    (.nothing, { scenario with transport := { scenario.transport with paused := on } })
  | .advance millis => (.nothing, scenario.advance millis)
  | .endRead label response => scenario.endRead label response
  | .sessionRead label key response => scenario.sessionRead label key response
  | operation => if scenario.dropped then (.nothing, scenario) else scenario.useClient operation

/-- What a step shows: the answer, what the watchers noted, what the server saw and the sizes of
the cache. -/
structure Report where
  answer : Answer
  notes : List Note
  activity : Activity
  client : Option Client

/-- Carries out an operation and, unless it is told not to, settles. -/
def step (scenario : Scenario) (operation : Operation) (settles : Bool) : Report × Scenario :=
  let fresh :=
    { scenario with activity := {}, client := { scenario.client with journal := [] } }
  let (answer, after) := fresh.perform operation
  let after := if settles then after.settle else after
  let activity := { after.activity with sent := sortRemovals after.activity.sent }
  (⟨answer, after.client.journal, activity, if after.dropped then none else some after.client⟩,
    after)

/-- A scenario with a new client. Its workers run at once, unless the start is cold. -/
def start (settings : CacheSettings) (plan : List Opening) (cold : Bool) :
    Except Error Scenario :=
  (Client.create settings {}).map (fun client =>
    let scenario : Scenario := { client, transport := { plan } }
    if cold then scenario else scenario.settle)

def run (scenario : Scenario) : List (Operation × Bool) → List Report
  | [] => []
  | (operation, settles) :: rest =>
    let (report, scenario) := scenario.step operation settles
    report :: scenario.run rest

end Scenario

end ConfigWatch

import ConfigWatch.Client.Basic
import ConfigWatch.Diagnostics

/-!
# Reading

A read is answered from the cache when it can be: an unpinned read by a live subscription whose
last reply was good, a read pinned to a version by that version. Otherwise the server is asked,
and a pinned read accepts nothing but the version it asked for.
-/

set_option autoImplicit false

namespace ConfigWatch

/-- The answer to a read. -/
structure ReadReply where
  status : ReplyStatus
  version : Version
  content : Option Content
  logs : List Log := []
  sources : List (UInt32 × Source) := []
deriving Inhabited

/-- A read that waits for the server. -/
structure PendingRead where
  space : NamespaceKey
  key : DocumentKey
  pinned : Option Version
deriving DecidableEq, Inhabited

/-- How a read goes on: it is done, or it waits for the answer to a request. -/
inductive ReadStep where
  | done (outcome : Except Error ReadReply)
  | ask (request : ReadRequest) (pending : PendingRead)

namespace Client

def cached (client : Client) (space : NamespaceKey) (key : DocumentKey) :
    Option Version → Option (ReadReply × Client)
  | none => do
    let record ← client.cache.recordAt? space key
    if record.status ≠ some .ok then none
    let (version, content) ← record.latest
    let (now, client) := client.now
    return ({ status := .ok, version, content := some content },
      { client with cache := client.cache.touchRecord space key now })
  | some version => do
    let (now, client) := client.now
    let (content, cache) ← client.cache.readVersion space version key now
    return ({ status := .ok, version, content := some content }, { client with cache })

/-- The request for a document that the cache does not hold. -/
def readRequest (client : Client) (pending : PendingRead) : ReadRequest :=
  { root := pending.space.root
    overrides := pending.space.overrides
    flavors := pending.key.flavors
    document := pending.key.document
    version := (pending.pinned.map Version.number).getD 0
    logLevel := client.settings.logLevel.code
    withPositions := client.settings.withPositions }

def beginRead (client : Client) (space : NamespaceKey) (key : DocumentKey)
    (pinned : Option Version) : ReadStep × Client :=
  match client.ensureOpen with
  | .error cause => (.done (.error cause), client)
  | .ok () =>
    match client.cached space key pinned with
    | some (reply, client) => (.done (.ok reply), client)
    | none =>
      let pending : PendingRead := ⟨space, key, pinned⟩
      (.ask (client.readRequest pending) pending, client)

/-- Whether an answer breaks the promise of a pinned read: a good answer of another version, or
the outcome that there is no such version. -/
def breaksPin (pinned received : Version) (status : ReplyStatus) : Bool :=
  (status.isOk && received != pinned) || status == .invalidVersion

def storeRead (client : Client) (pending : PendingRead) (response : ReadResponse) :
    Except Error (Content × Client) := do
  let (resolved, client) := client.now
  let (content, cache) ← match
    client.cache.resolve response.checksum (fun _ => client.decodePayload response.nodes) resolved
    with
    | .error cause => .error (.decode cause)
    | .ok found => .ok found
  let (stored, client) := { client with cache }.now
  return (content,
    { client with
      cache := client.cache.insertVersion pending.space
        ⟨response.namespaceId, response.version⟩ pending.key content stored })

def finishRead (client : Client) (pending : PendingRead) :
    Except Error ReadResponse → Except Error ReadReply × Client
  | .error cause => (.error cause, client)
  | .ok response =>
    let status := ReplyStatus.ofReadCode response.status
    let received : Version := ⟨response.namespaceId, response.version⟩
    let reply : ReadReply :=
      { status
        version := received
        content := none
        logs := Log.ofEntries response.logs
        sources := Source.index response.sources }
    match pending.pinned.filter (fun pinned => breaksPin pinned received status) with
    | some pinned => (.error (.inconsistent pinned received), client)
    | none =>
      if status.isOk then
        match client.storeRead pending response with
        | .error cause => (.error cause, client)
        | .ok (content, client) => (.ok { reply with content := some content }, client)
      else (.ok reply, client)

end Client

/-- Reads of one namespace that stay at the version of the first good one. -/
structure Session where
  space : NamespaceKey
  pinned : Option Version := none
  contents : Table DocumentKey Content := Table.empty
deriving Inhabited

namespace Session

/-- The answer to a read of a session. -/
structure Reply where
  status : ReplyStatus
  content : Option Content
deriving Inhabited

/-- Takes in the outcome of a read: a good one pins the version, if none is pinned yet, and its
content is kept. -/
def absorb (session : Session) (key : DocumentKey) (reply : ReadReply) : Session :=
  if reply.status.isOk then
    { session with
      pinned := some (session.pinned.getD reply.version)
      contents := match reply.content with
        | some content => session.contents.insert key content
        | none => session.contents }
  else session

/-- How a read of a session goes on. -/
inductive Step where
  | done (outcome : Except Error Reply)
  | ask (request : ReadRequest) (pending : PendingRead)

/-- The outcome of a read as the session gives it, and the session after it. -/
def conclude (session : Session) (key : DocumentKey) :
    Except Error ReadReply → Except Error Reply × Session
  | .error cause => (.error cause, session)
  | .ok reply => (.ok ⟨reply.status, reply.content⟩, session.absorb key reply)

/-- Begins a read of a session. A document that was read before is answered by the session. -/
def beginRead (session : Session) (client : Client) (key : DocumentKey) :
    Step × Session × Client :=
  match session.contents.get? key with
  | some content => (.done (.ok ⟨.ok, some content⟩), session, client)
  | none =>
    match client.beginRead session.space key session.pinned with
    | (.ask request pending, client) => (.ask request pending, session, client)
    | (.done outcome, client) =>
      let (outcome, session) := session.conclude key outcome
      (.done outcome, session, client)

/-- Ends a read of a session with the answer of the server. -/
def finishRead (session : Session) (client : Client) (pending : PendingRead)
    (response : Except Error ReadResponse) : Except Error Reply × Session × Client :=
  let (outcome, client) := client.finishRead pending response
  let (outcome, session) := session.conclude pending.key outcome
  (outcome, session, client)

end Session

end ConfigWatch

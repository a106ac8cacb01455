import ConfigWatch.Proofs.Client.Storing
import ConfigWatch.Proofs.Client.Subscriptions
import ConfigWatch.Proofs.Payload.Positions

/-!
# What a server serves

A server assigns one checksum to a document at a version, and sends one payload for a checksum. As
long as it does so, every content that a cache holds, in a record, as a version or under its
checksum, is what the server serves.
-/

set_option autoImplicit false

namespace ConfigWatch

/-- What a server serves: the checksum of every document at every version, and the payload of every
checksum. -/
structure Server where
  assign : NamespaceKey → DocumentKey → Version → Bytes
  payload : Bytes → List Node

namespace Server

variable {server : Server}

/-- What was sent is what the server serves of a document at a version. -/
structure Serves (server : Server) (space : NamespaceKey) (key : DocumentKey) (version : Version)
    (checksum : Bytes) (nodes : List Node) : Prop where
  assigned : checksum = server.assign space key version
  sent : nodes = server.payload checksum

/-- A good reply serves the document that its id was subscribed for, and the good answer to a read
the document that was asked for. -/
def Tells (server : Server) (earlier : List Occurrence) (occurrence : Occurrence) : Prop :=
  match occurrence.act with
  | .reply reply =>
    ReplyStatus.ofWatchCode reply.status = .ok → ∀ space key,
      (replay (standing earlier occurrence.before)).get? reply.uid = some (space, key) →
        server.Serves space key ⟨reply.namespaceId, reply.version⟩ reply.checksum reply.nodes
  | .finishRead pending (.ok answer) =>
    (ReplyStatus.ofReadCode answer.status).isOk = true →
      server.Serves pending.space pending.key ⟨answer.namespaceId, answer.version⟩
        answer.checksum answer.nodes
  | _ => True

/-- Whatever the server sent over a whole run is what it serves. -/
def Honest (server : Server) (history : List Occurrence) : Prop :=
  ∀ earlier occurrence later, history = earlier ++ occurrence :: later →
    server.Tells earlier occurrence

theorem Honest.left {left right : List Occurrence} (honest : server.Honest (left ++ right)) :
    server.Honest left := by
  rintro earlier occurrence later rfl
  exact honest earlier occurrence (later ++ right) (by simp)

theorem Honest.last {history : List Occurrence} {occurrence : Occurrence}
    (honest : server.Honest (history ++ [occurrence])) : server.Tells history occurrence :=
  honest history occurrence [] rfl

/-- A content is what the server serves of a document at a version. -/
structure Vouches (server : Server) (space : NamespaceKey) (key : DocumentKey) (version : Version)
    (content : Content) : Prop where
  checksum : content.checksum = server.assign space key version
  value : Payload.decode (server.payload content.checksum).toArray = .ok content.value

/-! ## Contents of a cache -/

/-- Whatever a cache holds is what the server serves. -/
structure Fills (server : Server) (cache : Cache) : Prop where
  indexed : ∀ checksum content, cache.byChecksum.get? checksum = some content →
    content.checksum = checksum ∧
      Payload.decode (server.payload checksum).toArray = .ok content.value
  entered : ∀ space version key content, cache.contentAt? space version key = some content →
    server.Vouches space key version content
  latest : ∀ space key rest version content, cache.restAt? space key = some rest →
    rest.latest = some (version, content) → server.Vouches space key version content

theorem Fills.resolved {client : Client} (fills : server.Fills client.cache)
    {space : NamespaceKey} {key : DocumentKey} {version : Version} {checksum : Bytes}
    {nodes : List Node} (serves : server.Serves space key version checksum nodes)
    {content : Content} (resolved : client.resolved? checksum nodes = some content) :
    server.Vouches space key version content := by
  -- A content of the index was decoded from what the server sent before for the same checksum.
  rcases Client.resolved?_origin resolved with held | ⟨same, decoded⟩
  · obtain ⟨same, value⟩ := fills.indexed checksum content held
    exact ⟨same.trans serves.assigned, same ▸ value⟩
  · refine ⟨same.trans serves.assigned, ?_⟩
    rw [same, ← serves.sent, ← Payload.decodeWith_seen client.settings.withPositions]
    exact congrArg Payload.seen decoded

/-- What a section stores, the server serves. -/
theorem Fills.stored {earlier : List Occurrence} {occurrence : Occurrence}
    (fills : server.Fills occurrence.before.cache) (tells : server.Tells earlier occurrence)
    (agree : ∀ id, (replay (standing earlier occurrence.before)).get? id =
      occurrence.before.cache.bySubscription.get? id) {gain : Stored}
    (stored : occurrence.stored = some gain) :
    server.Vouches gain.space gain.key gain.version gain.content := by
  obtain ⟨client, act⟩ := occurrence
  cases act with
  | reply reply =>
    obtain ⟨good, index, version, resolved⟩ := Client.stored_reply stored
    rw [version]
    exact fills.resolved (tells good gain.space gain.key ((agree _).trans index)) resolved
  | finishRead pending response =>
    obtain ⟨answer, reply, rfl, accepts, held, same⟩ := Client.stored_read stored
    obtain ⟨good, resolved⟩ := accepts.content gain.content held
    rw [same, accepts.version]
    exact fills.resolved (tells (accepts.status ▸ good)) resolved
  | _ => cases stored

theorem Fills.perform {earlier : List Occurrence} {client : Client} {act : Section}
    (indexed : client.cache.Indexed) (fills : server.Fills client.cache)
    (tells : server.Tells earlier ⟨client, act⟩)
    (agree : ∀ id, (replay (standing earlier client)).get? id =
      client.cache.bySubscription.get? id) : server.Fills (client.perform act).2.cache := by
  have gains := client.perform_gains act
  have stored {gain : Stored} (stored : Occurrence.stored ⟨client, act⟩ = some gain) :
      server.Vouches gain.space gain.key gain.version gain.content :=
    Fills.stored fills tells agree stored
  refine ⟨fun checksum content here => ?_, fun space version key content here => ?_,
    fun space key rest version content found latest => ?_⟩
  · rcases gains.indexed checksum content here with there | ⟨gain, given, rfl, rfl⟩
    · exact fills.indexed checksum content there
    · exact ⟨rfl, (stored given).value⟩
  · rcases gains.entered space version key content here with there | given
    · exact fills.entered space version key content there
    · exact stored given
  · rcases Client.latest_of_perform indexed found latest with ⟨earlier, there, held⟩ | given
    · exact fills.latest space key earlier version content there held
    · exact stored given

end Server

theorem Run.fills {start client : Client} {history : List Occurrence} {server : Server}
    (fresh : start.Fresh) (run : Run start history client) (honest : server.Honest history) :
    server.Fills client.cache := by
  induction run with
  | start =>
    rw [fresh.eq]
    exact ⟨fun _ _ here => (by cases here), fun _ _ _ _ here => (by cases here),
      fun _ _ _ _ _ found => (by cases found)⟩
  | step act run ih =>
    exact (ih honest.left).perform (run.indexed fresh) honest.last (run.replay_standing fresh)

end ConfigWatch

import ConfigWatch.Proofs.Cache.Contents
import ConfigWatch.Proofs.Client.Coherence

/-!
# Where contents come from

A content enters the cache with a good reply or with the good answer to a read, for one document
at one version. Whatever a cache holds was stored by some section before.
-/

set_option autoImplicit false

namespace ConfigWatch

namespace Client

/-- The content that the payload of a checksum resolves to. -/
def resolved? (client : Client) (checksum : Bytes) (nodes : List Node) : Option Content :=
  (client.cache.resolve checksum (fun _ => client.decodePayload nodes) 0).toOption.map Prod.fst

/-- What a payload resolves to does not depend on when. -/
theorem resolved?_eq (client : Client) (checksum : Bytes) (nodes : List Node) (now : Instant) :
    client.resolved? checksum nodes =
      ((client.cache.resolve checksum (fun _ => client.decodePayload nodes) now).map
        Prod.fst).toOption := by
  rw [resolve_moment]
  unfold resolved?
  cases client.cache.resolve checksum (fun _ => client.decodePayload nodes) 0 <;> rfl

theorem resolved?_eq_some {client : Client} {checksum : Bytes} {nodes : List Node}
    {content : Content} {cache : Cache} {now : Instant}
    (resolved : client.cache.resolve checksum (fun _ => client.decodePayload nodes) now =
      .ok (content, cache)) : client.resolved? checksum nodes = some content := by
  rw [resolved?_eq client checksum nodes now, resolved]
  rfl

theorem resolved?_origin {client : Client} {checksum : Bytes} {nodes : List Node}
    {content : Content} (resolved : client.resolved? checksum nodes = some content) :
    client.cache.byChecksum.get? checksum = some content ∨
      content.checksum = checksum ∧
        client.decodePayload nodes = .ok ⟨content.value, content.positions⟩ := by
  unfold resolved? at resolved
  cases found : client.cache.resolve checksum (fun _ => client.decodePayload nodes) 0 with
  | error cause =>
    rw [found] at resolved
    cases resolved
  | ok result =>
    rw [found] at resolved
    cases resolved
    exact Cache.resolve_origin found

end Client

/-- The content that a section stored. -/
def Occurrence.stored (occurrence : Occurrence) : Option Stored :=
  match occurrence.act with
  | .reply reply =>
    if ReplyStatus.ofWatchCode reply.status = .ok then
      (occurrence.before.cache.bySubscription.get? reply.uid).bind (fun place =>
        (occurrence.before.resolved? reply.checksum reply.nodes).map (fun content =>
          ⟨place.1, place.2, ⟨reply.namespaceId, reply.version⟩, content⟩))
    else none
  | .finishRead pending response =>
    match (occurrence.before.finishRead pending response).1 with
    | .ok reply =>
      reply.content.map (fun content => ⟨pending.space, pending.key, reply.version, content⟩)
    | .error _ => none
  | _ => none

namespace Client

/-! ## Sections that store nothing -/

private theorem changeRecord_gains (client : Client) (id : UInt32)
    (change : Record → List Notification × Record) :
    Cache.Gains client.cache (client.changeRecord id change).2.cache none := by
  simp only [changeRecord, Cache.changeRecord]
  split
  · exact Cache.Gains.refl _
  · exact Cache.modifyRecord_gains ..

private theorem touchAt_gains (client : Client) (space : NamespaceKey) (key : DocumentKey) :
    Cache.Gains client.cache (client.touchAt space key).cache none :=
  Cache.touchRecord_gains ..

private theorem attach_gains (client : Client) (space : NamespaceKey) (key : DocumentKey)
    (record : Record) (watcher : Option (String × Reaction)) :
    Cache.Gains client.cache (client.attach space key record watcher).2.2.cache none := by
  cases watcher with
  | none => exact Cache.Gains.refl _
  | some watcher => exact Cache.modifyRecord_gains ..

theorem register_gains {client : Client} {space : NamespaceKey} {key : DocumentKey}
    {watcher : Option (String × Reaction)} {registered : Registered}
    (accepted : client.register space key watcher = .ok registered) :
    Cache.Gains client.cache registered.client.cache none := by
  obtain ⟨created, touched, clock, done⟩ :=
    register_opened client (open_of_register accepted) space key watcher
  rw [accepted] at done
  have found := Cache.recordOrNew_gains client.cache space key created
  have ready := found.andThen (Cache.touchRecord_gains _ space key touched)
  cases done
  dsimp only
  split
  · exact Cache.Gains.following (attach_gains { client with cache := _, clock } ..) ready
  · exact Cache.Gains.following (attach_gains { client with cache := _, clock } ..) ready

theorem unwatch_gains (client : Client) (subscription watcher : UInt32) :
    Cache.Gains client.cache (client.unwatch subscription watcher).2.cache none := by
  unfold unwatch
  split
  · exact Cache.Gains.refl _
  · exact Cache.modifyRecord_gains ..

theorem beginRead_gains (client : Client) (space : NamespaceKey) (key : DocumentKey)
    (pinned : Option Version) :
    Cache.Gains client.cache (client.beginRead space key pinned).2.cache none := by
  rcases client.beginRead_cases space key pinned with same | ⟨reply, after, found, same⟩
  · rw [same]
    exact Cache.Gains.refl _
  · rw [same]
    cases found with
    | latest => exact touchAt_gains ..
    | pinned read => exact Cache.readVersion_gains read

private theorem applyRemoval_gains (client : Client) (id : UInt32) (space : NamespaceKey)
    (key : DocumentKey) :
    Cache.Gains client.cache (client.applyRemoval id space key).cache none := by
  have touched := client.touchAt_gains space key
  rcases client.applyRemoval_cases id space key with done | done <;> rw [done]
  · exact touched
  · exact ⟨touched.labelled, touched.indexed, touched.entered⟩

/-! ## Sections that store -/

private theorem applyContent_gains (client : Client) (reply : WatchResponse)
    (space : NamespaceKey) (key : DocumentKey) :
    Cache.Gains client.cache (client.applyContent reply space key).2.cache
      ((client.resolved? reply.checksum reply.nodes).map (fun content =>
        ⟨space, key, ⟨reply.namespaceId, reply.version⟩, content⟩)) := by
  rw [applyContent_stages]
  cases found : client.cache.resolve reply.checksum
      (fun _ => client.decodePayload reply.nodes) client.clock.read.1 with
  | error cause => exact (changeRecord_gains (client.holding client.cache _) ..).weaken _
  | ok result =>
    obtain ⟨content, cache⟩ := result
    rw [resolved?_eq_some found, Option.map_some]
    have stored := Cache.store_gains found space ⟨reply.namespaceId, reply.version⟩ key
      client.clock.read.2.read.1
    exact (stored.andThen (touchAt_gains (client.holding _ _) space key)).andThen
      (changeRecord_gains ..)

theorem reply_gains (client : Client) (reply : WatchResponse) :
    Cache.Gains client.cache (client.applyReply reply).2.cache
      (Occurrence.stored ⟨client, .reply reply⟩) := by
  unfold applyReply
  split
  · exact Cache.Gains.refl _ |>.weaken _
  · next space key index =>
    split
    · exact (client.applyRemoval_gains ..).weaken _
    · next good =>
      have stored := client.applyContent_gains reply space key
      simp only [Occurrence.stored, good, index, if_true, Option.bind_some]
      exact stored
    · exact ((touchAt_gains ..).andThen (changeRecord_gains ..)).weaken _

theorem finishRead_gains (client : Client) (pending : PendingRead)
    (response : Except Error ReadResponse) :
    Cache.Gains client.cache (client.finishRead pending response).2.cache
      (Occurrence.stored ⟨client, .finishRead pending response⟩) := by
  have finished := client.finishesRead pending response
  unfold Occurrence.stored
  dsimp only
  generalize client.finishRead pending response = result at finished ⊢
  cases finished with
  | leaves => exact (Cache.Gains.refl _).weaken _
  | stores resolved version content =>
    simp only [content, version, Option.map_some]
    exact Cache.store_gains resolved ..

theorem perform_gains (client : Client) (act : Section) :
    Cache.Gains client.cache (client.perform act).2.cache (Occurrence.stored ⟨client, act⟩) := by
  have same := Cache.Gains.refl client.cache
  cases act with
  | watch space key watcher =>
    simp only [perform]
    split
    · exact same
    · next accepted =>
      have gains : Cache.Gains ({ client with closed := false } : Client).cache _ none :=
        register_gains accepted
      exact gains
  | unwatch subscription watcher => exact client.unwatch_gains subscription watcher
  | beginRead space key pinned =>
    exact ({ client with closed := false } : Client).beginRead_gains space key pinned
  | finishRead pending response => exact client.finishRead_gains pending response
  | reply reply => exact client.reply_gains reply
  | sweep moment =>
    cases reached : client.clock.before? moment
        client.settings.inactivityThresholdSeconds.toNat with
    | none =>
      simp only [perform, sweepAt_unreached reached]
      exact same
    | some limit =>
      simp only [perform, sweepAt_eq reached]
      exact Cache.cleanup_gains ..
  | failStream =>
    simp only [perform]
    split
    · next serving =>
      simp only [cancelOutbound, serving]
      exact Cache.reset_gains ..
    · next serving =>
      simp only [cancelOutbound, serving]
      exact Cache.reset_gains ..
    · exact same
  | finishClose =>
    simp only [perform]
    split
    · exact Cache.reset_gains ..
    · exact same
  | requestStream | openStream | startSweeps | scheduleSweep =>
    simp only [perform]
    split <;> exact same
  | cancelStream =>
    simp only [perform, cancelOutbound]
    split <;> exact same
  | stopStreamWorker =>
    simp only [perform, stopStreamWorker]
    split
    · split <;> exact same
    · exact same
  | stopSweepWorker =>
    simp only [perform, stopSweepWorker]
    split
    · split <;> exact same
    · exact same
  | poll | dropStream | beginClose | note | setClock => exact same

/-! ## What was stored -/

theorem stored_reply {client : Client} {reply : WatchResponse} {gain : Stored}
    (stored : Occurrence.stored ⟨client, .reply reply⟩ = some gain) :
    ReplyStatus.ofWatchCode reply.status = .ok ∧
      client.cache.bySubscription.get? reply.uid = some (gain.space, gain.key) ∧
      gain.version = ⟨reply.namespaceId, reply.version⟩ ∧
      client.resolved? reply.checksum reply.nodes = some gain.content := by
  simp only [Occurrence.stored] at stored
  split at stored
  · next good =>
    obtain ⟨place, index, stored⟩ := Option.bind_eq_some_iff.mp stored
    obtain ⟨content, resolved, rfl⟩ := Option.map_eq_some_iff.mp stored
    exact ⟨good, index, rfl, resolved⟩
  · cases stored

theorem storeRead_resolved {client after : Client} {pending : PendingRead}
    {response : ReadResponse} {content : Content}
    (stored : client.storeRead pending response = .ok (content, after)) :
    client.resolved? response.checksum response.nodes = some content := by
  obtain ⟨_, resolved, _⟩ := resolve_of_storeRead stored
  exact resolved?_eq_some resolved

/-- The answer of the server to a read, once it is accepted. -/
structure Accepts (client : Client) (pending : PendingRead) (answer : ReadResponse)
    (reply : ReadReply) : Prop where
  status : reply.status = ReplyStatus.ofReadCode answer.status
  version : reply.version = ⟨answer.namespaceId, answer.version⟩
  pinned : ∀ version, pending.pinned = some version → reply.status.isOk = true →
    reply.version = version
  content : ∀ content, reply.content = some content →
    reply.status.isOk = true ∧ client.resolved? answer.checksum answer.nodes = some content
  complete : reply.status.isOk = true → ∃ content, reply.content = some content

theorem accepts {client : Client} {pending : PendingRead} {answer : ReadResponse}
    {reply : ReadReply} (accepted : (client.finishRead pending (.ok answer)).1 = .ok reply) :
    client.Accepts pending answer reply := by
  simp only [finishRead] at accepted
  split at accepted
  · cases accepted
  · next kept =>
    have pinned (version : Version) (asked : pending.pinned = some version)
        (good : (ReplyStatus.ofReadCode answer.status).isOk = true) :
        ⟨answer.namespaceId, answer.version⟩ = version := by
      rw [asked] at kept
      by_cases same : (⟨answer.namespaceId, answer.version⟩ : Version) = version
      · exact same
      · simp [breaksPin, good, same] at kept
    split at accepted
    · next good =>
      cases stored : client.storeRead pending answer with
      | error cause =>
        rw [stored] at accepted
        cases accepted
      | ok found =>
        rw [stored] at accepted
        cases accepted
        refine ⟨rfl, rfl, fun version asked _ => pinned version asked good, fun content held => ?_,
          fun _ => ⟨found.1, rfl⟩⟩
        cases held
        exact ⟨good, storeRead_resolved stored⟩
    · next bad =>
      cases accepted
      exact ⟨rfl, rfl, fun _ _ good => absurd good bad, fun _ held => (by cases held),
        fun good => absurd good bad⟩

theorem stored_read {client : Client} {pending : PendingRead}
    {response : Except Error ReadResponse} {gain : Stored}
    (stored : Occurrence.stored ⟨client, .finishRead pending response⟩ = some gain) :
    ∃ answer reply, response = .ok answer ∧ client.Accepts pending answer reply ∧
      reply.content = some gain.content ∧
      gain = ⟨pending.space, pending.key, reply.version, gain.content⟩ := by
  simp only [Occurrence.stored] at stored
  cases response with
  | error cause => cases stored
  | ok answer =>
    split at stored
    · next reply accepted =>
      obtain ⟨content, held, rfl⟩ := Option.map_eq_some_iff.mp stored
      exact ⟨answer, reply, rfl, accepts accepted, held, rfl⟩
    · cases stored

/-- What a reply makes of the version and the content that a record holds. -/
private theorem verdict_latest {client : Client} {reply : WatchResponse} {record : Record}
    {version : Version} {content : Content}
    (latest : (client.verdict reply record).2.latest = some (version, content)) :
    record.latest = some (version, content) ∨
      ReplyStatus.ofWatchCode reply.status = .ok ∧ version = ⟨reply.namespaceId, reply.version⟩ ∧
        client.resolved? reply.checksum reply.nodes = some content := by
  unfold verdict at latest
  split at latest
  · exact .inl latest
  · next good =>
    split at latest
    · rw [Record.updateStatus_latest] at latest
      exact .inl latest
    · next found cache resolved =>
      rcases record.update_latest ⟨reply.namespaceId, reply.version⟩ found with same | same
      · exact .inl (same.symm.trans latest)
      · rw [same] at latest
        cases latest
        exact .inr ⟨good, rfl, resolved?_eq_some resolved⟩
  · rw [Record.updateStatus_latest] at latest
    exact .inl latest

/-- The version and the content that a record holds were held before, or were stored just now. -/
theorem latest_of_perform {client : Client} (indexed : client.cache.Indexed) {act : Section}
    {space : NamespaceKey} {key : DocumentKey} {rest : Record} {version : Version}
    {content : Content} (found : (client.perform act).2.cache.restAt? space key = some rest)
    (latest : rest.latest = some (version, content)) :
    (∃ earlier, client.cache.restAt? space key = some earlier ∧
        earlier.latest = some (version, content)) ∨
      Occurrence.stored ⟨client, act⟩ = some ⟨space, key, version, content⟩ := by
  cases yields indexed found with
  | kept there => exact .inl ⟨rest, there, latest⟩
  | @watched watcher same =>
    rw [same] at latest
    have held : (client.cache.recordFor space key 0).latest = some (version, content) := by
      cases watcher <;> exact latest
    cases known : client.cache.recordAt? space key with
    | none =>
      rw [Cache.recordFor_new known] at held
      cases held
    | some record =>
      rw [Cache.recordFor_found known] at held
      exact .inl ⟨_, Cache.restAt?_eq_some known, held⟩
  | unwatched _ there same =>
    rw [same] at latest
    exact .inl ⟨_, there, latest⟩
  | replied index there same =>
    rw [same] at latest
    rcases verdict_latest latest with old | ⟨good, rfl, resolved⟩
    · exact .inl ⟨_, there, old⟩
    · right
      simp only [Occurrence.stored, good, if_true, index, Option.bind_some, resolved,
        Option.map_some]

end Client

end ConfigWatch

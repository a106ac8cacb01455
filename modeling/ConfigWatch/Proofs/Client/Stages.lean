import ConfigWatch.Client.Read
import ConfigWatch.Client.Reply

/-!
# Watches, reads and replies by stages

A watch, a read and a reply look at the clock and change the cache, more than once each. Here is
where every way through them leaves the client, with what was found on the way.
-/

set_option autoImplicit false

namespace ConfigWatch.Client

/-- A client with another cache and another clock. -/
def holding (client : Client) (cache : Cache) (clock : Clock) : Client :=
  { client with cache, clock }

/-- What a payload decodes to has nothing to do with the time. -/
theorem decodePayload_clock (client : Client) (clock : Clock) (nodes : List Node) :
    ({ client with clock } : Client).decodePayload nodes = client.decodePayload nodes := rfl

variable {client after : Client} {space : NamespaceKey} {key : DocumentKey}

/-! ## Watches -/

/-- What a watch that an open client accepts leaves behind. -/
def accept (client : Client) (space : NamespaceKey) (key : DocumentKey)
    (watcher : Option (String × Reaction)) : Registered :=
  let found := client.cache.recordOrNew space key client.clock.read.1
  let touched := client.clock.read.2.read
  let attached := (client.holding (found.2.2.touchRecord space key touched.1) touched.2).attach
    space key { found.2.1 with lastTouch := touched.1 } watcher
  ⟨⟨found.2.1.subscription, attached.1⟩, attached.2.1,
    if found.1 then attached.2.2.push (.subscribe found.2.1.subscription space key)
    else attached.2.2⟩

theorem register_accepts (opened : client.closed = false) (space : NamespaceKey)
    (key : DocumentKey) (watcher : Option (String × Reaction)) :
    client.register space key watcher = .ok (client.accept space key watcher) := by
  simp only [register, ensureOpen, opened, Bool.false_eq_true, if_false, bind, Except.bind, pure,
    Except.pure, now, accept, holding]

/-! ## Reads -/

theorem cached_unpinned (client : Client) (space : NamespaceKey) (key : DocumentKey) :
    client.cached space key none = (client.cache.recordAt? space key).bind (fun record =>
      if record.status = some .ok then
        record.latest.map (fun held =>
          ({ status := .ok, version := held.1, content := some held.2 },
            client.holding (client.cache.touchRecord space key client.clock.read.1)
              client.clock.read.2))
      else none) := by
  simp only [cached, Option.bind_eq_bind]
  refine congrArg (Option.bind _) (funext fun record => ?_)
  by_cases good : record.status = some .ok
  · simp only [good, ne_eq, not_true_eq_false, if_false, if_true]
    cases record.latest <;> rfl
  · simp [good]

theorem cached_pinned (client : Client) (space : NamespaceKey) (key : DocumentKey)
    (version : Version) :
    client.cached space key (some version) =
      (client.cache.readVersion space version key client.clock.read.1).map (fun read =>
        ({ status := .ok, version, content := some read.1 },
          client.holding read.2 client.clock.read.2)) := by
  simp only [cached, now]
  cases client.cache.readVersion space version key client.clock.read.1 <;> rfl

/-- A read that the cache answers: with what the record of the document holds while it is good,
which touches the record, or with the version that the read is pinned to. -/
inductive Lookup (client : Client) (space : NamespaceKey) (key : DocumentKey) :
    Option Version → ReadReply → Client → Prop where
  | latest {record : Record} {version : Version} {content : Content} :
      client.cache.recordAt? space key = some record → record.status = some .ok →
      record.latest = some (version, content) →
      Lookup client space key none { status := .ok, version, content := some content }
        (client.touchAt space key)
  | pinned {version : Version} {content : Content} {cache : Cache} :
      client.cache.readVersion space version key client.clock.read.1 = some (content, cache) →
      Lookup client space key (some version) { status := .ok, version, content := some content }
        (client.holding cache client.clock.read.2)

theorem lookup {pinned : Option Version} {reply : ReadReply}
    (cached : client.cached space key pinned = some (reply, after)) :
    client.Lookup space key pinned reply after := by
  cases pinned with
  | none =>
    rw [cached_unpinned] at cached
    obtain ⟨record, found, cached⟩ := Option.bind_eq_some_iff.mp cached
    split at cached
    · next good =>
      obtain ⟨⟨version, content⟩, latest, same⟩ := Option.map_eq_some_iff.mp cached
      cases same
      exact .latest found good latest
    · cases cached
  | some version =>
    rw [cached_pinned] at cached
    obtain ⟨⟨content, cache⟩, read, same⟩ := Option.map_eq_some_iff.mp cached
    cases same
    exact .pinned read

/-- The first half of a read leaves the client alone, or the cache answers it. -/
theorem beginRead_cases (client : Client) (space : NamespaceKey) (key : DocumentKey)
    (pinned : Option Version) :
    (client.beginRead space key pinned).2 = client ∨
      ∃ reply after, client.Lookup space key pinned reply after ∧
        (client.beginRead space key pinned).2 = after := by
  unfold beginRead
  split
  · exact .inl rfl
  · cases cached : client.cached space key pinned with
    | none => exact .inl rfl
    | some found => exact .inr ⟨found.1, found.2, lookup cached, rfl⟩

theorem storeRead_stages (client : Client) (pending : PendingRead) (response : ReadResponse) :
    client.storeRead pending response =
      match client.cache.resolve response.checksum
        (fun _ => client.decodePayload response.nodes) client.clock.read.1 with
      | .error cause => .error (.decode cause)
      | .ok (content, cache) =>
        .ok (content, client.holding
          (cache.insertVersion pending.space ⟨response.namespaceId, response.version⟩ pending.key
            content client.clock.read.2.read.1) client.clock.read.2.read.2) := by
  cases resolved : client.cache.resolve response.checksum
      (fun _ => client.decodePayload response.nodes) client.clock.read.1 with
  | error cause =>
    simp only [storeRead, now, bind, Except.bind, decodePayload_clock, resolved]
  | ok found =>
    simp only [storeRead, now, bind, Except.bind, pure, Except.pure, decodePayload_clock, resolved,
      holding]

theorem resolve_of_storeRead {pending : PendingRead} {response : ReadResponse} {content : Content}
    (stored : client.storeRead pending response = .ok (content, after)) :
    ∃ cache, client.cache.resolve response.checksum (fun _ => client.decodePayload response.nodes)
        client.clock.read.1 = .ok (content, cache) ∧
      after = client.holding
        (cache.insertVersion pending.space ⟨response.namespaceId, response.version⟩ pending.key
          content client.clock.read.2.read.1) client.clock.read.2.read.2 := by
  rw [storeRead_stages] at stored
  split at stored
  · cases stored
  · next resolved =>
    cases stored
    exact ⟨_, resolved, rfl⟩

/-- How the answer to a read is taken in: it brings no content and leaves the client alone, or its
content is stored under its version. -/
inductive FinishesRead (client : Client) (pending : PendingRead) :
    Except Error ReadResponse → Except Error ReadReply × Client → Prop where
  | leaves {response : Except Error ReadResponse} {outcome : Except Error ReadReply} :
      (∀ reply, outcome = .ok reply → reply.content = none) →
      FinishesRead client pending response (outcome, client)
  | stores {answer : ReadResponse} {reply : ReadReply} {content : Content} {cache : Cache} :
      client.cache.resolve answer.checksum (fun _ => client.decodePayload answer.nodes)
        client.clock.read.1 = .ok (content, cache) →
      reply.version = ⟨answer.namespaceId, answer.version⟩ → reply.content = some content →
      FinishesRead client pending (.ok answer) (.ok reply, client.holding
        (cache.insertVersion pending.space ⟨answer.namespaceId, answer.version⟩ pending.key
          content client.clock.read.2.read.1) client.clock.read.2.read.2)

theorem finishesRead (client : Client) (pending : PendingRead)
    (response : Except Error ReadResponse) :
    client.FinishesRead pending response (client.finishRead pending response) := by
  cases response with
  | error cause => exact .leaves (by simp)
  | ok answer =>
    simp only [finishRead]
    split
    · exact .leaves (by simp)
    · split
      · cases stored : client.storeRead pending answer with
        | error cause => exact .leaves (by simp)
        | ok found =>
          obtain ⟨content, later⟩ := found
          obtain ⟨cache, resolved, rfl⟩ := resolve_of_storeRead stored
          exact .stores resolved rfl rfl
      · exact .leaves (by simp)

/-! ## Replies -/

/-- A removal touches the record, and then subscribes again or forgets the id. -/
theorem applyRemoval_cases (client : Client) (id : UInt32) (space : NamespaceKey)
    (key : DocumentKey) :
    let touched := client.touchAt space key
    client.applyRemoval id space key = touched.push (.subscribe id space key) ∨
      client.applyRemoval id space key =
        { touched with cache := (touched.cache.forgetSubscription id).2 } := by
  unfold applyRemoval
  dsimp only
  split
  · split
    · exact .inl rfl
    · exact .inr rfl
  · exact .inr rfl

theorem applyContent_stages (client : Client) (reply : WatchResponse) (space : NamespaceKey)
    (key : DocumentKey) :
    client.applyContent reply space key =
      match client.cache.resolve reply.checksum (fun _ => client.decodePayload reply.nodes)
        client.clock.read.1 with
      | .error _ =>
        (client.holding client.cache client.clock.read.2).changeRecord reply.uid
          (fun record => record.updateStatus .error)
      | .ok (content, cache) =>
        ((client.holding
          (cache.insertVersion space ⟨reply.namespaceId, reply.version⟩ key content
            client.clock.read.2.read.1) client.clock.read.2.read.2).touchAt space key).changeRecord
          reply.uid (fun record => record.update ⟨reply.namespaceId, reply.version⟩ content) := by
  cases resolved : client.cache.resolve reply.checksum
      (fun _ => client.decodePayload reply.nodes) client.clock.read.1 with
  | error cause => simp only [applyContent, now, decodePayload_clock, resolved, holding]
  | ok found => simp only [applyContent, now, decodePayload_clock, resolved, holding]

end ConfigWatch.Client

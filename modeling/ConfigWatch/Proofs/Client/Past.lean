import ConfigWatch.Proofs.Client.Sections
import ConfigWatch.Proofs.Queue.Past

/-!
# Clients with a past

What a client does that started afresh, next to what a new one does. Every operation on the cache
and every command for the server may be done before the past is added or after it; the two clients
differ in their numbers, in what is left in the queue, and in their workers and journals.
-/

set_option autoImplicit false

namespace ConfigWatch

/-- What a fresh start leaves of a client: its past, what is left in its queue, and the workers and
the journal, which do not start afresh. -/
structure Aftermath where
  past : Past
  residue : Residue
  streamWorker : StreamWorker
  sweepWorker : SweepWorker
  journal : List Note

/-- A client as it is after a fresh start. -/
def Client.withPast (client : Client) (left : Aftermath) : Client where
  settings := client.settings
  cache := client.cache.withPast left.past
  queue := client.queue.withPast left.past left.residue
  clock := client.clock
  closed := client.closed
  streamWorker := left.streamWorker
  sweepWorker := left.sweepWorker
  registrations := left.past.registrations + client.registrations
  journal := left.journal

section Rename

variable (names : Renaming)

def Registered.withPast (registered : Registered) (left : Aftermath) : Registered where
  watching := registered.watching
  initial := registered.initial.map (Notification.rename left.past.names)
  client := registered.client.withPast left

def ReadReply.rename (reply : ReadReply) : ReadReply :=
  { reply with content := reply.content.map (Content.rename names) }

def ReadStep.rename : ReadStep → ReadStep
  | .done outcome => .done (outcome.map (ReadReply.rename names))
  | .ask request pending => .ask request pending

namespace Session

def rename (session : Session) : Session :=
  { session with contents := session.contents.mapValues (fun _ => Content.rename names) }

def Reply.rename (reply : Reply) : Reply :=
  { reply with content := reply.content.map (Content.rename names) }

def Step.rename : Step → Step
  | .done outcome => .done (outcome.map (Reply.rename names))
  | .ask request pending => .ask request pending

end Session

end Rename

namespace Client

variable (client : Client) (left : Aftermath)

@[simp] theorem settings_withPast : (client.withPast left).settings = client.settings := rfl

@[simp] theorem cache_withPast : (client.withPast left).cache = client.cache.withPast left.past :=
  rfl

@[simp] theorem clock_withPast : (client.withPast left).clock = client.clock := rfl

@[simp] theorem closed_withPast : (client.withPast left).closed = client.closed := rfl

private theorem holding_withPast (cache : Cache) (clock : Clock) :
    (client.withPast left).holding (cache.withPast left.past) clock =
      (client.holding cache clock).withPast left := rfl

theorem push_withPast (command : Command) :
    (client.withPast left).push command = (client.push command).withPast left := by
  simp only [push, withPast, Cache.generation_withPast, CommandQueue.push_withPast]

/-! ## Watches -/

theorem attach_withPast (space : NamespaceKey) (key : DocumentKey) (record : Record)
    (watcher : Option (String × Reaction)) :
    (client.withPast left).attach space key (record.rename left.past.names) watcher =
      ((client.attach space key record watcher).1,
        (client.attach space key record watcher).2.1.map (Notification.rename left.past.names),
        (client.attach space key record watcher).2.2.withPast left) := by
  cases watcher with
  | none => rfl
  | some watcher =>
    obtain ⟨label, reaction⟩ := watcher
    have added := record.addWatcher_rename left.past.names
      { label, reaction, registration := client.registrations }
    have registered : ({ label, reaction, registration := client.registrations } : Watcher).rename
        left.past.names =
      { label, reaction, registration := left.past.registrations + client.registrations } := rfl
    rw [registered] at added
    simp only [attach, withPast, added, Record.currentEvent_rename, Option.map_map,
      Cache.setRecord_withPast, Nat.add_assoc]
    rfl

private theorem accept_withPast (space : NamespaceKey) (key : DocumentKey)
    (watcher : Option (String × Reaction)) :
    (client.withPast left).accept space key watcher =
      (client.accept space key watcher).withPast left := by
  have touched (record : Record) (touched : Instant) :
      ({ record.rename left.past.names with lastTouch := touched } : Record) =
        ({ record with lastTouch := touched } : Record).rename left.past.names := rfl
  simp only [accept, cache_withPast, clock_withPast, Cache.recordOrNew_withPast,
    Cache.touchRecord_withPast, holding_withPast, touched, attach_withPast, push_withPast]
  simp only [Registered.withPast, Record.subscription_rename]
  split <;> rfl

theorem register_withPast (space : NamespaceKey) (key : DocumentKey)
    (watcher : Option (String × Reaction)) :
    (client.withPast left).register space key watcher =
      (client.register space key watcher).map (fun registered => registered.withPast left) := by
  cases closed : client.closed with
  | true =>
    simp [register, ensureOpen, closed, bind, Except.bind, Except.map]
  | false =>
    have same : (client.withPast left).closed = false := closed
    rw [register_accepts same, register_accepts closed, accept_withPast]
    rfl

theorem unwatch_withPast (subscription watcher : UInt32) :
    (client.withPast left).unwatch subscription watcher =
      ((client.unwatch subscription watcher).1,
        (client.unwatch subscription watcher).2.withPast left) := by
  simp only [unwatch, cache_withPast, Cache.located?_withPast]
  cases client.cache.located? subscription with
  | none => rfl
  | some located =>
    simp only [Option.map_some, Record.removeWatcher_rename, Cache.setRecord_withPast]
    rfl

/-! ## Reads -/

theorem cached_withPast (space : NamespaceKey) (key : DocumentKey) (pinned : Option Version) :
    (client.withPast left).cached space key pinned =
      (client.cached space key pinned).map (fun read =>
        (read.1.rename left.past.names, read.2.withPast left)) := by
  cases pinned with
  | none =>
    simp only [cached_unpinned, cache_withPast, clock_withPast, Cache.recordAt?_withPast,
      Cache.touchRecord_withPast, holding_withPast]
    cases client.cache.recordAt? space key with
    | none => rfl
    | some record =>
      simp only [Option.map_some, Option.bind_some, Record.status_rename, Record.latest_rename]
      by_cases good : record.status = some .ok
      · simp only [good, if_true]
        cases record.latest <;> rfl
      · simp only [good, if_false, Option.map_none]
  | some version =>
    simp only [cached_pinned, cache_withPast, clock_withPast, Cache.readVersion_withPast,
      Option.map_map, Function.comp_def, holding_withPast]
    rfl

theorem beginRead_withPast (space : NamespaceKey) (key : DocumentKey) (pinned : Option Version) :
    (client.withPast left).beginRead space key pinned =
      ((client.beginRead space key pinned).1.rename left.past.names,
        (client.beginRead space key pinned).2.withPast left) := by
  cases closed : client.closed with
  | true =>
    simp only [beginRead, ensureOpen, closed_withPast, closed, if_true]
    rfl
  | false =>
    simp only [beginRead, ensureOpen, closed_withPast, closed, Bool.false_eq_true, if_false,
      cached_withPast]
    cases client.cached space key pinned <;> rfl

theorem storeRead_withPast (pending : PendingRead) (response : ReadResponse) :
    (client.withPast left).storeRead pending response =
      (client.storeRead pending response).map (fun stored =>
        (stored.1.rename left.past.names, stored.2.withPast left)) := by
  have resolves := Cache.resolve_withPast left.past client.cache response.checksum
    (fun _ => client.decodePayload response.nodes) client.clock.read.1
  have decodes : (client.withPast left).decodePayload response.nodes =
      client.decodePayload response.nodes := rfl
  simp only [storeRead_stages, cache_withPast, clock_withPast, decodes, resolves]
  cases client.cache.resolve response.checksum (fun _ => client.decodePayload response.nodes)
    client.clock.read.1 with
  | error cause => rfl
  | ok resolved =>
    simp only [Except.map, Cache.insertVersion_withPast, holding_withPast]

theorem finishRead_withPast (pending : PendingRead) (response : Except Error ReadResponse) :
    (client.withPast left).finishRead pending response =
      ((client.finishRead pending response).1.map (ReadReply.rename left.past.names),
        (client.finishRead pending response).2.withPast left) := by
  cases response with
  | error cause => rfl
  | ok response =>
    simp only [finishRead, storeRead_withPast]
    split
    · rfl
    · split
      · cases client.storeRead pending response <;> rfl
      · rfl

/-! ## Replies -/

theorem touchAt_withPast (space : NamespaceKey) (key : DocumentKey) :
    (client.withPast left).touchAt space key = (client.touchAt space key).withPast left := by
  have touched := Cache.touchRecord_withPast left.past client.cache space key client.clock.read.1
  exact congrArg (fun cache => (client.withPast left).holding cache client.clock.read.2) touched

theorem changeRecord_withPast (id : UInt32)
    {change changes : Record → List Notification × Record}
    (agree : ∀ record, changes (record.rename left.past.names) =
      ((change record).1.map (Notification.rename left.past.names),
        (change record).2.rename left.past.names)) :
    (client.withPast left).changeRecord id changes =
      ((client.changeRecord id change).1.map (Notification.rename left.past.names),
        (client.changeRecord id change).2.withPast left) := by
  simp only [changeRecord, cache_withPast,
    Cache.changeRecord_withPast left.past client.cache id agree]
  rfl

theorem applyRemoval_withPast (id : UInt32) (space : NamespaceKey) (key : DocumentKey) :
    (client.withPast left).applyRemoval id space key =
      (client.applyRemoval id space key).withPast left := by
  simp only [applyRemoval, touchAt_withPast, cache_withPast, Cache.record?_withPast]
  cases (client.touchAt space key).cache.record? id with
  | none => rfl
  | some record =>
    simp only [Option.map_some, Record.isActive_rename, push_withPast]
    split <;> rfl

theorem applyContent_withPast (reply : WatchResponse) (space : NamespaceKey) (key : DocumentKey) :
    (client.withPast left).applyContent reply space key =
      ((client.applyContent reply space key).1.map (Notification.rename left.past.names),
        (client.applyContent reply space key).2.withPast left) := by
  have decodes : (client.withPast left).decodePayload reply.nodes =
      client.decodePayload reply.nodes := rfl
  simp only [applyContent_stages, cache_withPast, clock_withPast, decodes,
    Cache.resolve_withPast]
  cases client.cache.resolve reply.checksum (fun _ => client.decodePayload reply.nodes)
    client.clock.read.1 with
  | error cause =>
    simp only [Except.map, holding_withPast]
    exact changeRecord_withPast _ left reply.uid
      (fun record => record.updateStatus_rename left.past.names .error)
  | ok resolved =>
    simp only [Except.map, Cache.insertVersion_withPast, holding_withPast, touchAt_withPast]
    exact changeRecord_withPast _ left reply.uid
      (fun record => record.update_rename left.past.names _ resolved.1)

theorem applyReply_withPast (reply : WatchResponse) :
    (client.withPast left).applyReply reply =
      ((client.applyReply reply).1.map (Notification.rename left.past.names),
        (client.applyReply reply).2.withPast left) := by
  simp only [applyReply, cache_withPast, Cache.bySubscription_withPast]
  split
  · rfl
  · split
    · rw [applyRemoval_withPast]
      rfl
    · exact applyContent_withPast client left reply _ _
    · rw [touchAt_withPast]
      exact changeRecord_withPast _ left reply.uid
        (fun record => record.updateStatus_rename left.past.names _)

/-! ## Sweeps and fresh starts -/

private theorem pushAll_withPast (commands : List UInt32) (client : Client) :
    commands.foldl (fun client id => client.push (.unsubscribe id)) (client.withPast left) =
      (commands.foldl (fun client id => client.push (.unsubscribe id)) client).withPast left := by
  induction commands generalizing client with
  | nil => rfl
  | cons id rest ih => rw [List.foldl_cons, push_withPast, ih, List.foldl_cons]

theorem sweepAt_withPast (moment : Instant) :
    (client.withPast left).sweepAt moment = (client.sweepAt moment).withPast left := by
  simp only [sweepAt, clock_withPast, settings_withPast, cache_withPast]
  cases client.clock.before? moment client.settings.inactivityThresholdSeconds.toNat with
  | none => rfl
  | some limit =>
    simp only [Cache.cleanup_withPast]
    exact pushAll_withPast left (client.cache.cleanup limit).1
      { client with cache := (client.cache.cleanup limit).2 }

theorem resetCache_withPast :
    (client.withPast left).resetCache =
      (client.resetCache.1.map (Notification.rename left.past.names),
        client.resetCache.2.withPast left) := by
  simp only [resetCache, cache_withPast, Cache.reset_withPast]
  rfl

end Client

/-! ## Sessions -/

namespace Session

variable (session : Session) (client : Client) (left : Aftermath)

theorem absorb_rename (names : Renaming) (key : DocumentKey) (reply : ReadReply) :
    (session.rename names).absorb key (reply.rename names) =
      (session.absorb key reply).rename names := by
  have status : (reply.rename names).status = reply.status := rfl
  simp only [absorb, status]
  split
  · simp only [rename, ReadReply.rename]
    cases reply.content with
    | none => rfl
    | some content => simp only [Option.map_some, Table.mapValues_insert]
  · rfl

theorem conclude_rename (names : Renaming) (key : DocumentKey)
    (outcome : Except Error ReadReply) :
    (session.rename names).conclude key (outcome.map (ReadReply.rename names)) =
      ((session.conclude key outcome).1.map (Reply.rename names),
        (session.conclude key outcome).2.rename names) := by
  cases outcome with
  | error cause => rfl
  | ok reply =>
    simp only [Except.map, conclude, absorb_rename]
    rfl

theorem beginRead_withPast (key : DocumentKey) :
    (session.rename left.past.names).beginRead (client.withPast left) key =
      ((session.beginRead client key).1.rename left.past.names,
        (session.beginRead client key).2.1.rename left.past.names,
        (session.beginRead client key).2.2.withPast left) := by
  have contents : (session.rename left.past.names).contents.get? key =
      (session.contents.get? key).map (Content.rename left.past.names) := Table.get?_mapValues ..
  simp only [beginRead, contents]
  cases session.contents.get? key with
  | some content => rfl
  | none =>
    have begins := client.beginRead_withPast left session.space key session.pinned
    have same : (client.withPast left).beginRead (session.rename left.past.names).space key
        (session.rename left.past.names).pinned =
      ((client.beginRead session.space key session.pinned).1.rename left.past.names,
        (client.beginRead session.space key session.pinned).2.withPast left) := begins
    simp only [Option.map_none, same]
    generalize client.beginRead session.space key session.pinned = read
    obtain ⟨step, after⟩ := read
    cases step with
    | ask request pending => rfl
    | done outcome =>
      simp only [ReadStep.rename, conclude_rename]
      rfl

theorem finishRead_withPast (pending : PendingRead) (response : Except Error ReadResponse) :
    (session.rename left.past.names).finishRead (client.withPast left) pending response =
      ((session.finishRead client pending response).1.map (Reply.rename left.past.names),
        (session.finishRead client pending response).2.1.rename left.past.names,
        (session.finishRead client pending response).2.2.withPast left) := by
  simp only [finishRead, Client.finishRead_withPast, conclude_rename]

end Session

end ConfigWatch

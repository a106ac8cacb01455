import ConfigWatch.Proofs.Client.Sections

/-!
# What sections do

One law for each section that changes records: a watch, the removal of a watcher, a reply, a sweep
and a fresh start. All other sections leave the records of the cache at rest.
-/

set_option autoImplicit false

namespace ConfigWatch

namespace Cache

/-- The record of a document, or the new one that a watch of it would make. -/
def recordFor (cache : Cache) (space : NamespaceKey) (key : DocumentKey) (now : Instant) :
    Record :=
  (cache.recordAt? space key).getD
    { key, subscription := cache.nextSubscription, lastTouch := now }

theorem recordFor_found {cache : Cache} {space : NamespaceKey} {key : DocumentKey}
    {record : Record} (found : cache.recordAt? space key = some record) (now : Instant) :
    cache.recordFor space key now = record := by
  rw [recordFor, found, Option.getD_some]

theorem recordFor_new {cache : Cache} {space : NamespaceKey} {key : DocumentKey}
    (absent : cache.recordAt? space key = none) (now : Instant) :
    cache.recordFor space key now =
      { key, subscription := cache.nextSubscription, lastTouch := now } := by
  rw [recordFor, absent, Option.getD_none]

theorem recordFor_atRest {cache : Cache} {space : NamespaceKey} {key : DocumentKey}
    {rest : Record} (found : cache.restAt? space key = some rest) (now : Instant) :
    (cache.recordFor space key now).atRest = rest := by
  obtain ⟨record, there, same⟩ := exists_recordAt? found
  rw [recordFor_found there, same]

theorem recordOrNew_found {cache : Cache} {space : NamespaceKey} {key : DocumentKey}
    {record : Record} (found : cache.recordAt? space key = some record) (now : Instant) :
    cache.recordOrNew space key now = (false, record, cache) := by
  simp only [recordOrNew, namespaceOrNew_get?, found]

/-- The cache with a new record of a document. -/
def withNewRecord (cache : Cache) (space : NamespaceKey) (key : DocumentKey) (now : Instant) :
    Cache :=
  let found := cache.namespaceOrNew space
  { cache with
    namespaces := cache.namespaces.insert space
      { found with records := found.records.insert key (cache.recordFor space key now) }
    bySubscription := cache.bySubscription.insert cache.nextSubscription (space, key)
    nextSubscription := cache.nextSubscription + 1 }

theorem recordOrNew_new {cache : Cache} {space : NamespaceKey} {key : DocumentKey}
    (absent : cache.recordAt? space key = none) (now : Instant) :
    cache.recordOrNew space key now =
      (true, cache.recordFor space key now, cache.withNewRecord space key now) := by
  simp only [recordOrNew, namespaceOrNew_get?, absent, recordFor, withNewRecord, Option.getD_none]

theorem recordAt?_withNewRecord (cache : Cache) (space : NamespaceKey) (key : DocumentKey)
    (now : Instant) (other : NamespaceKey) (document : DocumentKey) :
    (cache.withNewRecord space key now).recordAt? other document =
      if other = space ∧ document = key then some (cache.recordFor space key now)
      else cache.recordAt? other document := by
  have placed := recordAt?_setNamespace cache space
    { cache.namespaceOrNew space with
      records := (cache.namespaceOrNew space).records.insert key
        (cache.recordFor space key now) } other document
  have same : (cache.withNewRecord space key now).recordAt? other document =
      if other = space then
        ((cache.namespaceOrNew space).records.insert key
          (cache.recordFor space key now)).get? document
      else cache.recordAt? other document := placed
  rw [same]
  by_cases sameSpace : other = space
  · subst sameSpace
    by_cases sameKey : document = key <;> simp [Table.get?_insert, namespaceOrNew_get?, sameKey]
  · simp [sameSpace]

end Cache

namespace Record

/-- A record with a watcher more, if there is one to add. -/
def joined (record : Record) (registration : Nat) : Option (String × Reaction) → Record
  | none => record
  | some (label, reaction) => (record.addWatcher { label, reaction, registration }).2

/-- What a watcher is told when it joins. -/
def welcome (record : Record) (registration : Nat) :
    Option (String × Reaction) → Option Notification
  | none => none
  | some (label, reaction) =>
    record.currentEvent.map (fun event => ⟨{ label, reaction, registration }, event⟩)

end Record

namespace Client

/-- What two clients have in common that differ in their caches, queues and clocks alone. -/
structure SameOutside (before after : Client) : Prop where
  settings : after.settings = before.settings
  closed : after.closed = before.closed
  streamWorker : after.streamWorker = before.streamWorker
  sweepWorker : after.sweepWorker = before.sweepWorker
  journal : after.journal = before.journal

/-- What a watch of a document does. -/
structure Registers (client : Client) (space : NamespaceKey) (key : DocumentKey)
    (watcher : Option (String × Reaction)) (initial : Option Notification) (after : Client) :
    Prop where
  outside : SameOutside client after
  records : ∀ other document, after.cache.restAt? other document =
    if other = space ∧ document = key then
      some ((client.cache.recordFor space key 0).joined client.registrations watcher).atRest
    else client.cache.restAt? other document
  subscriptions : ∀ id, after.cache.bySubscription.get? id =
    if client.cache.recordAt? space key = none ∧ id = client.cache.nextSubscription then
      some (space, key)
    else client.cache.bySubscription.get? id
  next : after.cache.nextSubscription = client.cache.nextSubscription +
    if client.cache.recordAt? space key = none then 1 else 0
  generation : after.cache.generation = client.cache.generation
  queue : after.queue =
    if client.cache.recordAt? space key = none then
      client.queue.push client.cache.generation
        (.subscribe client.cache.nextSubscription space key)
    else client.queue
  registrations : after.registrations =
    client.registrations + if watcher.isSome then 1 else 0
  told : initial =
    (client.cache.recordFor space key 0).welcome client.registrations watcher

/-- What the end of a watch does: it touches the record, which is there by then, and attaches the
watcher. -/
private theorem attach_effect (client : Client) {base : Cache} {space : NamespaceKey}
    {key : DocumentKey} {record : Record} (found : base.recordAt? space key = some record)
    (touched : Instant) (clock : Clock) (watcher : Option (String × Reaction)) :
    ∃ cache,
      (({ client with cache := base.touchRecord space key touched, clock } : Client).attach space
        key { record with lastTouch := touched } watcher).2 =
        (record.welcome client.registrations watcher,
          { client with
            cache, clock,
            registrations := client.registrations + if watcher.isSome then 1 else 0 }) ∧
      cache.bySubscription = base.bySubscription ∧
      cache.nextSubscription = base.nextSubscription ∧
      cache.generation = base.generation ∧
      ∀ other document, cache.restAt? other document =
        if other = space ∧ document = key then
          some (record.joined client.registrations watcher).atRest
        else base.restAt? other document := by
  have same := Cache.touchRecord_same base space key touched
  obtain ⟨held, there, alike⟩ := Cache.exists_recordAt?
    ((same.records space key).trans (Cache.restAt?_eq_some found))
  cases watcher with
  | none =>
    refine ⟨_, rfl, same.subscriptions, same.next, same.generation, fun other document => ?_⟩
    split
    · next here =>
      obtain ⟨rfl, rfl⟩ := here
      rw [same.records, Cache.restAt?_eq_some found]
      rfl
    · exact same.records other document
  | some watcher =>
    obtain ⟨label, reaction⟩ := watcher
    refine ⟨_, rfl, same.subscriptions, same.next, same.generation, fun other document => ?_⟩
    rw [Cache.restAt?, Cache.recordAt?_modifyRecord]
    split
    · next here =>
      obtain ⟨rfl, rfl⟩ := here
      rw [there]
      rfl
    · exact same.records other document

theorem register_closed {client : Client} (closed : client.closed = true) (space : NamespaceKey)
    (key : DocumentKey) (watcher : Option (String × Reaction)) :
    client.register space key watcher = .error .closed := by
  simp [register, ensureOpen, closed, bind, Except.bind]

theorem open_of_register {client : Client} {space : NamespaceKey} {key : DocumentKey}
    {watcher : Option (String × Reaction)} {registered : Registered}
    (accepted : client.register space key watcher = .ok registered) : client.closed = false := by
  cases closed : client.closed with
  | false => rfl
  | true =>
    rw [register_closed closed] at accepted
    cases accepted

/-- A watch of a document on an open client, stage by stage. -/
theorem register_opened (client : Client) (opened : client.closed = false)
    (space : NamespaceKey) (key : DocumentKey) (watcher : Option (String × Reaction)) :
    ∃ created touched clock,
      let found := client.cache.recordOrNew space key created
      let ready : Client :=
        { client with cache := found.2.2.touchRecord space key touched, clock }
      let attached := ready.attach space key { found.2.1 with lastTouch := touched } watcher
      client.register space key watcher =
        .ok ⟨⟨found.2.1.subscription, attached.1⟩, attached.2.1,
          if found.1 then attached.2.2.push (.subscribe found.2.1.subscription space key)
          else attached.2.2⟩ := by
  refine ⟨client.clock.read.1, client.clock.read.2.read.1, client.clock.read.2.read.2, ?_⟩
  exact register_accepts opened space key watcher

theorem registers {client : Client} {space : NamespaceKey} {key : DocumentKey}
    {watcher : Option (String × Reaction)} {registered : Registered}
    (accepted : client.register space key watcher = .ok registered) :
    Registers client space key watcher registered.initial registered.client := by
  have opened : client.closed = false := by
    cases closed : client.closed with
    | false => rfl
    | true =>
      rw [register_closed closed] at accepted
      cases accepted
  obtain ⟨created, touched, clock, done⟩ := register_opened client opened space key watcher
  rw [accepted] at done
  cases found : client.cache.recordAt? space key with
  | some record =>
    rw [Cache.recordOrNew_found found] at done
    obtain ⟨cache, attached, subscriptions, next, generation, records⟩ :=
      attach_effect client found touched clock watcher
    simp only [Except.ok.injEq, attached, Bool.false_eq_true, if_false] at done
    subst done
    have known := Cache.recordFor_found found 0
    have old : ¬ client.cache.recordAt? space key = none := by simp [found]
    refine ⟨⟨rfl, rfl, rfl, rfl, rfl⟩, fun other document => ?_, fun id => ?_, ?_,
      generation, ?_, rfl, ?_⟩
    · rw [records, known]
    · rw [subscriptions, if_neg (fun new => old new.1)]
    · rw [next, if_neg old, UInt32.add_zero]
    · rw [if_neg old]
    · rw [known]
  | none =>
    rw [Cache.recordOrNew_new found] at done
    have placed : (client.cache.withNewRecord space key created).recordAt? space key =
        some (client.cache.recordFor space key created) := by
      simp [Cache.recordAt?_withNewRecord]
    obtain ⟨cache, attached, subscriptions, next, generation, records⟩ :=
      attach_effect client placed touched clock watcher
    simp only [Except.ok.injEq, attached, if_true] at done
    subst done
    have known := Cache.recordFor_new found
    refine ⟨⟨rfl, rfl, rfl, rfl, rfl⟩, fun other document => ?_, fun id => ?_, ?_,
      generation, ?_, rfl, ?_⟩
    · simp only [push, records, known]
      rw [Cache.restAt?, Cache.recordAt?_withNewRecord]
      split
      · cases watcher <;> rfl
      · rfl
    · simp only [push, subscriptions, Cache.withNewRecord, Table.get?_insert, found, true_and]
    · rw [if_pos found]
      exact next
    · simp only [push, found, if_true, generation, known]
      rfl
    · simp only [known]
      cases watcher <;> rfl

theorem exists_register (client : Client) (opened : client.closed = false)
    (space : NamespaceKey) (key : DocumentKey) (watcher : Option (String × Reaction)) :
    ∃ registered, client.register space key watcher = .ok registered := by
  obtain ⟨_, _, _, accepted⟩ := register_opened client opened space key watcher
  exact ⟨_, accepted⟩

theorem perform_watch (client : Client) (space : NamespaceKey) (key : DocumentKey)
    (watcher : Option (String × Reaction)) :
    ∃ initial after, client.perform (.watch space key watcher) = (initial.toList, after) ∧
      Registers client space key watcher initial after := by
  obtain ⟨registered, accepted⟩ :=
    exists_register { client with closed := false } rfl space key watcher
  have effect := registers accepted
  refine ⟨registered.initial, { registered.client with closed := client.closed }, ?_, ?_⟩
  · simp only [perform, accepted]
  · obtain ⟨settings, closed, streamWorker, sweepWorker, journal⟩ := effect.outside
    exact { effect with outside := ⟨settings, rfl, streamWorker, sweepWorker, journal⟩ }

theorem perform_watch_open {client : Client} (opened : client.closed = false)
    {space : NamespaceKey} {key : DocumentKey} {watcher : Option (String × Reaction)}
    {registered : Registered}
    (accepted : client.register space key watcher = .ok registered) :
    client.perform (.watch space key watcher) =
      (registered.initial.toList, registered.client) := by
  have same : ({ client with closed := false } : Client) = client := by rw [← opened]
  have closed : client.closed = registered.client.closed := (registers accepted).outside.closed.symm
  simp only [perform, same, accepted, closed]

/-! ## Watchers that leave -/

/-- What the removal of a watcher does. -/
structure Unwatches (client : Client) (subscription watcher : UInt32) (after : Client) : Prop where
  outside : SameOutside client after
  records : ∀ other document, after.cache.restAt? other document =
    if client.cache.bySubscription.get? subscription = some (other, document) then
      (client.cache.restAt? other document).map (fun record => (record.removeWatcher watcher).2)
    else client.cache.restAt? other document
  subscriptions : after.cache.bySubscription = client.cache.bySubscription
  next : after.cache.nextSubscription = client.cache.nextSubscription
  generation : after.cache.generation = client.cache.generation
  queue : after.queue = client.queue
  registrations : after.registrations = client.registrations

theorem unwatches (client : Client) (subscription watcher : UInt32) :
    Unwatches client subscription watcher (client.unwatch subscription watcher).2 := by
  cases located : client.cache.located? subscription with
  | none =>
    simp only [unwatch, located]
    refine ⟨⟨rfl, rfl, rfl, rfl, rfl⟩, fun other document => ?_, rfl, rfl, rfl, rfl, rfl⟩
    split
    · next index =>
      cases found : client.cache.recordAt? other document with
      | none => simp [Cache.restAt?, found]
      | some record =>
        have there := Cache.located?_eq_some_iff.mpr ⟨index, found⟩
        rw [located] at there
        cases there
    · rfl
  | some place =>
    obtain ⟨space, key, record⟩ := place
    obtain ⟨index, found⟩ := Cache.located?_eq_some_iff.mp located
    simp only [unwatch, located]
    refine ⟨⟨rfl, rfl, rfl, rfl, rfl⟩, fun other document => ?_, rfl, rfl, rfl, rfl, rfl⟩
    simp only [index, Option.some.injEq, Prod.mk.injEq, eq_comm (a := space),
      eq_comm (a := key)]
    rw [Cache.restAt?, Cache.recordAt?_modifyRecord]
    split
    · next here =>
      obtain ⟨rfl, rfl⟩ := here
      rw [Cache.restAt?, found]
      rfl
    · rfl

/-! ## Replies -/

/-- What a reply for a record makes of it, and whom it tells. -/
def verdict (client : Client) (reply : WatchResponse) (record : Record) :
    List Notification × Record :=
  match ReplyStatus.ofWatchCode reply.status with
  | .removed => ([], record)
  | .ok =>
    match client.cache.resolve reply.checksum (fun _ => client.decodePayload reply.nodes) 0 with
    | .error _ => record.updateStatus .error
    | .ok (content, _) => record.update ⟨reply.namespaceId, reply.version⟩ content
  | status => record.updateStatus status

/-- What a reply does for the subscription of a record. -/
structure Replies (client : Client) (reply : WatchResponse) (space : NamespaceKey)
    (key : DocumentKey) (record : Record) (told : List Notification) (after : Client) : Prop where
  outside : SameOutside client after
  told : told = (client.verdict reply record.atRest).1
  records : ∀ other document, after.cache.restAt? other document =
    if other = space ∧ document = key then some (client.verdict reply record.atRest).2
    else client.cache.restAt? other document
  subscriptions : after.cache.bySubscription = client.cache.bySubscription
  next : after.cache.nextSubscription = client.cache.nextSubscription
  generation : after.cache.generation = client.cache.generation
  queue : after.queue =
    if ReplyStatus.ofWatchCode reply.status = .removed then
      client.queue.push client.cache.generation (.subscribe reply.uid space key)
    else client.queue
  registrations : after.registrations = client.registrations

private theorem replies_of_change {client : Client} {reply : WatchResponse}
    {space : NamespaceKey} {key : DocumentKey} {record : Record}
    (located : client.cache.located? reply.uid = some (space, key, record))
    (kept : ReplyStatus.ofWatchCode reply.status ≠ .removed) {cache : Cache}
    (same : Cache.SameRecords client.cache cache) (clock : Clock)
    {change : Record → List Notification × Record}
    (decided : ∀ record, client.verdict reply record = change record)
    (blind : ∀ record : Record, change record.atRest =
      ((change record).1, (change record).2.atRest)) :
    Replies client reply space key record
      (({ client with cache, clock } : Client).changeRecord reply.uid change).1
      (({ client with cache, clock } : Client).changeRecord reply.uid change).2 := by
  obtain ⟨index, found⟩ := Cache.located?_eq_some_iff.mp located
  obtain ⟨held, there, alike⟩ := Cache.exists_recordAt?
    ((same.records space key).trans (Cache.restAt?_eq_some found))
  have still : cache.located? reply.uid = some (space, key, held) :=
    Cache.located?_eq_some_iff.mpr ⟨same.subscriptions ▸ index, there⟩
  have agree : client.verdict reply record.atRest =
      ((change held).1, (change held).2.atRest) := by
    rw [decided, ← alike, blind]
  have changed : ({ client with cache, clock } : Client).changeRecord reply.uid change =
      ((change held).1,
        { client with
          cache := cache.modifyRecord space key (fun _ => (change held).2), clock }) := by
    simp only [changeRecord, Cache.changeRecord, still]
  rw [changed]
  refine ⟨⟨rfl, rfl, rfl, rfl, rfl⟩, by rw [agree], fun other document => ?_,
    same.subscriptions, same.next, same.generation, by rw [if_neg kept], rfl⟩
  rw [Cache.restAt?, Cache.recordAt?_modifyRecord]
  split
  · next here =>
    obtain ⟨rfl, rfl⟩ := here
    rw [there, agree]
    rfl
  · exact same.records other document

theorem resolve_moment (cache : Cache) (checksum : Bytes)
    (decode : Unit → Except DecodeError Payload.Decoded) (now : Instant) :
    (cache.resolve checksum decode now).map Prod.fst =
      (cache.resolve checksum decode 0).map Prod.fst := by
  unfold Cache.resolve
  split
  · rfl
  · split <;> rfl

private theorem touchAt_effect (client : Client) (space : NamespaceKey) (key : DocumentKey) :
    ∃ cache clock, client.touchAt space key = { client with cache, clock } ∧
      Cache.SameRecords client.cache cache :=
  ⟨_, _, rfl, Cache.touchRecord_same ..⟩

private theorem applyRemoval_effect {client : Client} {id : UInt32} {space : NamespaceKey}
    {key : DocumentKey} {record : Record}
    (located : client.cache.located? id = some (space, key, record))
    (active : record.state ≠ .deactivated) :
    ∃ cache clock, client.applyRemoval id space key =
        { client with
          cache, clock
          queue := client.queue.push client.cache.generation (.subscribe id space key) } ∧
      Cache.SameRecords client.cache cache := by
  obtain ⟨index, found⟩ := Cache.located?_eq_some_iff.mp located
  obtain ⟨cache, clock, touched, same⟩ := touchAt_effect client space key
  obtain ⟨held, there, alike⟩ := Cache.exists_recordAt?
    ((same.records space key).trans (Cache.restAt?_eq_some found))
  have still : cache.located? id = some (space, key, held) :=
    Cache.located?_eq_some_iff.mpr ⟨same.subscriptions ▸ index, there⟩
  have activeStill : held.isActive = true := by
    have state : held.atRest.state = record.atRest.state := congrArg Record.state alike
    change held.state = record.state at state
    simpa [Record.isActive, state] using active
  refine ⟨cache, clock, ?_, same⟩
  simp only [applyRemoval, touched, Cache.record?, still, Option.map_some, activeStill, if_true,
    push, same.generation]

private theorem applyContent_effect {client : Client} {reply : WatchResponse}
    {space : NamespaceKey} {key : DocumentKey} {record : Record}
    (located : client.cache.located? reply.uid = some (space, key, record))
    (good : ReplyStatus.ofWatchCode reply.status = .ok) :
    Replies client reply space key record (client.applyContent reply space key).1
      (client.applyContent reply space key).2 := by
  have kept : ReplyStatus.ofWatchCode reply.status ≠ .removed := by
    rw [good]
    decide
  have moment := resolve_moment client.cache reply.checksum
    (fun _ => client.decodePayload reply.nodes) client.clock.read.1
  rw [applyContent_stages]
  cases early : client.cache.resolve reply.checksum
      (fun _ => client.decodePayload reply.nodes) 0 with
  | error cause =>
    cases resolved : client.cache.resolve reply.checksum
        (fun _ => client.decodePayload reply.nodes) client.clock.read.1 with
    | ok found => simp [early, resolved, Except.map] at moment
    | error other =>
      refine replies_of_change located kept (Cache.SameRecords.refl _) _ (fun record => ?_)
        (Record.updateStatus_atRest _)
      simp only [verdict, good, early]
  | ok found =>
    cases resolved : client.cache.resolve reply.checksum
        (fun _ => client.decodePayload reply.nodes) client.clock.read.1 with
    | error other => simp [early, resolved, Except.map] at moment
    | ok other =>
      obtain ⟨content, cache⟩ := other
      have sameContent : content = found.1 := by simpa [early, resolved, Except.map] using moment
      have stored := (Cache.resolve_same resolved).trans
        (Cache.insertVersion_same cache space ⟨reply.namespaceId, reply.version⟩ key content
          client.clock.read.2.read.1)
      have touched := stored.trans (Cache.touchRecord_same _ space key
        client.clock.read.2.read.2.read.1)
      refine replies_of_change located kept touched _ (fun record => ?_)
        (Record.update_atRest _ _)
      simp only [verdict, good, early, sameContent]

theorem replies {client : Client} {reply : WatchResponse} {space : NamespaceKey}
    {key : DocumentKey} {record : Record}
    (located : client.cache.located? reply.uid = some (space, key, record))
    (active : record.state ≠ .deactivated) :
    Replies client reply space key record (client.applyReply reply).1
      (client.applyReply reply).2 := by
  obtain ⟨index, found⟩ := Cache.located?_eq_some_iff.mp located
  unfold applyReply
  rw [index]
  obtain ⟨cache, clock, touched, same⟩ := touchAt_effect client space key
  cases outcome : ReplyStatus.ofWatchCode reply.status with
  | removed =>
    obtain ⟨cache, clock, done, same⟩ := applyRemoval_effect located active
    simp only [done]
    have decided : client.verdict reply record.atRest = ([], record.atRest) := by
      simp only [verdict, outcome]
    refine ⟨⟨rfl, rfl, rfl, rfl, rfl⟩, by rw [decided], fun other document => ?_,
      same.subscriptions, same.next, same.generation, by rw [if_pos outcome], rfl⟩
    rw [same.records, decided]
    split
    · next here =>
      obtain ⟨rfl, rfl⟩ := here
      exact Cache.restAt?_eq_some found
    · rfl
  | ok => exact applyContent_effect located outcome
  | _ =>
    simp only [touched]
    exact replies_of_change located (by simp [outcome]) same clock
      (fun record => by simp only [verdict, outcome]) (Record.updateStatus_atRest _)

theorem applyReply_unknown {client : Client} {reply : WatchResponse}
    (unknown : client.cache.bySubscription.get? reply.uid = none) :
    client.applyReply reply = ([], client) := by
  simp only [applyReply, unknown]

/-! ## Reads -/

theorem beginRead_effect (client : Client) (space : NamespaceKey) (key : DocumentKey)
    (pinned : Option Version) :
    ∃ cache clock, (client.beginRead space key pinned).2 = { client with cache, clock } ∧
      Cache.SameRecords client.cache cache := by
  rcases client.beginRead_cases space key pinned with same | ⟨reply, after, found, same⟩
  · exact ⟨_, _, same, Cache.SameRecords.refl _⟩
  · rw [same]
    cases found with
    | latest => exact touchAt_effect client space key
    | pinned read => exact ⟨_, _, rfl, Cache.readVersion_same read⟩

theorem finishRead_effect (client : Client) (pending : PendingRead)
    (response : Except Error ReadResponse) :
    ∃ cache clock, (client.finishRead pending response).2 = { client with cache, clock } ∧
      Cache.SameRecords client.cache cache := by
  have finished := client.finishesRead pending response
  generalize client.finishRead pending response = result at finished ⊢
  cases finished with
  | leaves => exact ⟨_, _, rfl, Cache.SameRecords.refl _⟩
  | stores resolved =>
    exact ⟨_, _, rfl, (Cache.resolve_same resolved).trans (Cache.insertVersion_same ..)⟩

/-! ## Sweeps -/

private theorem push_all (ids : List UInt32) (client : Client) :
    ids.foldl (fun client id => client.push (.unsubscribe id)) client =
      { client with
        queue := { client.queue with
          commands := client.queue.commands ++
            ids.map (fun id => ⟨client.cache.generation, .unsubscribe id⟩) } } := by
  induction ids generalizing client with
  | nil => simp
  | cons id rest ih =>
    rw [List.foldl_cons, ih]
    simp [push, CommandQueue.push]

/-- A sweep that has a limit cleans up the cache, and queues one command for every record that it
removes. -/
theorem sweepAt_eq {client : Client} {moment limit : Instant}
    (reached : client.clock.before? moment client.settings.inactivityThresholdSeconds.toNat =
      some limit) :
    client.sweepAt moment =
      { client with
        cache := (client.cache.cleanup limit).2
        queue := { client.queue with
          commands := client.queue.commands ++ (client.cache.idleSubscriptions limit).map
            (fun id => ⟨client.cache.generation, .unsubscribe id⟩) } } := by
  simp only [sweepAt, reached, push_all]
  rfl

theorem sweepAt_unreached {client : Client} {moment : Instant}
    (unreached : client.clock.before? moment client.settings.inactivityThresholdSeconds.toNat =
      none) : client.sweepAt moment = client := by
  simp only [sweepAt, unreached]

end Client

/-! ## Kinds of sections -/

/-- Whether a section is work on the cache, the queue or the clock: the workers, the settings and
the journal are left alone. -/
def Section.isInside : Section → Bool
  | .watch .. | .unwatch .. | .beginRead .. | .finishRead .. | .reply .. | .sweep .. | .poll ..
    | .dropStream .. | .cancelStream | .setClock .. => true
  | _ => false

/-- Whether a section leaves all records at rest. -/
def Section.isQuiet : Section → Bool
  | .watch .. | .unwatch .. | .reply .. | .failStream | .sweep .. | .finishClose => false
  | _ => true

namespace Client

/-- The result of a section that leaves all records at rest and tells nobody. -/
structure Quiet (client : Client) (result : List Notification × Client) : Prop where
  told : result.1 = []
  records : Cache.SameRecords client.cache result.2.cache
  registrations : result.2.registrations = client.registrations

theorem perform_quiet {act : Section} (quiet : act.isQuiet = true) (client : Client) :
    Quiet client (client.perform act) := by
  have same := Cache.SameRecords.refl client.cache
  cases act with
  | beginRead space key pinned =>
    obtain ⟨cache, clock, read, effect⟩ :=
      beginRead_effect { client with closed := false } space key pinned
    simp only [perform, read]
    exact ⟨rfl, effect, rfl⟩
  | finishRead pending response =>
    obtain ⟨cache, clock, read, effect⟩ := finishRead_effect client pending response
    simp only [perform, read]
    exact ⟨rfl, effect, rfl⟩
  | watch | unwatch | reply | failStream | sweep | finishClose => cases quiet
  | requestStream | openStream | startSweeps | scheduleSweep =>
    simp only [perform]
    split <;> exact ⟨rfl, same, rfl⟩
  | cancelStream =>
    simp only [perform, cancelOutbound]
    split <;> exact ⟨rfl, same, rfl⟩
  | stopStreamWorker =>
    simp only [perform, stopStreamWorker]
    split
    · split <;> exact ⟨rfl, same, rfl⟩
    · exact ⟨rfl, same, rfl⟩
  | stopSweepWorker =>
    simp only [perform, stopSweepWorker]
    split
    · split <;> exact ⟨rfl, same, rfl⟩
    · exact ⟨rfl, same, rfl⟩
  | poll | dropStream | beginClose | note | setClock => exact ⟨rfl, same, rfl⟩

end Client

end ConfigWatch

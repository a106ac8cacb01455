import ConfigWatch.Proofs.Client.Notifications
import ConfigWatch.Proofs.Client.Storing

/-!
# Replies stay with their subscription

All subscriptions share one stream and one cache. A reply reaches the record that the index has
under its id, and no other: whatever kind of reply it is, the rest of the cache is as it was, down
to the times of the last touches.
-/

set_option autoImplicit false

namespace ConfigWatch

namespace Cache

/-! ## One document -/

/-- Two caches with the same namespaces whose records differ at one document at most. -/
structure SameElsewhere (space : NamespaceKey) (key : DocumentKey) (before after : Cache) :
    Prop where
  records : ∀ other document, ¬ (other = space ∧ document = key) →
    after.recordAt? other document = before.recordAt? other document
  namespaces : ∀ other, after.namespaces.contains other = before.namespaces.contains other

section

variable {space : NamespaceKey} {key : DocumentKey}

theorem SameElsewhere.refl (cache : Cache) : SameElsewhere space key cache cache :=
  ⟨fun _ _ _ => rfl, fun _ => rfl⟩

theorem SameElsewhere.trans {first second third : Cache} (left : SameElsewhere space key first second)
    (right : SameElsewhere space key second third) : SameElsewhere space key first third where
  records other document apart :=
    (right.records other document apart).trans (left.records other document apart)
  namespaces other := (right.namespaces other).trans (left.namespaces other)

theorem modifyRecord_elsewhere (cache : Cache) (change : Record → Record) :
    SameElsewhere space key cache (cache.modifyRecord space key change) where
  records other document apart := by rw [recordAt?_modifyRecord, if_neg apart]
  namespaces other := by
    rw [Table.contains, modifyRecord, Table.get?_modify]
    split
    · rw [Option.isSome_map]
      rfl
    · rfl

theorem touchRecord_elsewhere (cache : Cache) (now : Instant) :
    SameElsewhere space key cache (cache.touchRecord space key now) := by
  unfold touchRecord
  split
  · exact SameElsewhere.refl cache
  · have touched : SameElsewhere space key cache _ :=
      modifyRecord_elsewhere cache (fun record => { record with lastTouch := now })
    split
    · exact touched
    · exact ⟨touched.records, touched.namespaces⟩

theorem resolve_elsewhere {cache after : Cache} {checksum : Bytes}
    {decode : Unit → Except DecodeError Payload.Decoded} {now : Instant} {content : Content}
    (resolved : cache.resolve checksum decode now = .ok (content, after)) :
    SameElsewhere space key cache after := by
  have same := resolve_namespaces resolved
  refine ⟨fun other document _ => ?_, fun other => ?_⟩
  · rw [recordAt?, same, recordAt?]
  · rw [same]

/-- A version of a document whose namespace is there moves no record. -/
theorem insertVersion_elsewhere {cache : Cache} (present : cache.namespaces.contains space = true)
    (version : Version) (content : Content) (now : Instant) :
    SameElsewhere space key cache (cache.insertVersion space version key content now) where
  records other document _ := by
    rw [insertVersion, recordAt?_setNamespace]
    split
    · next same =>
      rw [same]
      exact namespaceOrNew_get? cache space document
    · rfl
  namespaces other := by
    rw [Table.contains, insertVersion, setNamespace, Table.get?_insert]
    split
    · next same =>
      rw [same, present]
      rfl
    · rfl

theorem changeRecord_elsewhere {cache : Cache} {id : UInt32}
    (index : cache.bySubscription.get? id = some (space, key))
    (change : Record → List Notification × Record) :
    SameElsewhere space key cache (cache.changeRecord id change).2 := by
  unfold changeRecord
  split
  · exact SameElsewhere.refl cache
  · next other document record located =>
    obtain ⟨there, _⟩ := located?_eq_some_iff.mp located
    rw [index] at there
    cases there
    exact modifyRecord_elsewhere cache _

theorem namespaces_contains_of_record {cache : Cache} {record : Record}
    (found : cache.recordAt? space key = some record) :
    cache.namespaces.contains space = true := by
  obtain ⟨place, here, _⟩ := Option.bind_eq_some_iff.mp found
  rw [Table.contains, here]
  rfl

end

end Cache

namespace Client

variable {client : Client} {reply : WatchResponse} {space : NamespaceKey} {key : DocumentKey}
  {record : Record}

private theorem applyContent_elsewhere
    (located : client.cache.located? reply.uid = some (space, key, record)) :
    Cache.SameElsewhere space key client.cache (client.applyContent reply space key).2.cache := by
  obtain ⟨index, found⟩ := Cache.located?_eq_some_iff.mp located
  rw [applyContent_stages]
  split
  · have known : client.now.2.cache.bySubscription.get? reply.uid = some (space, key) := index
    exact Cache.changeRecord_elsewhere known _
  · next content cache resolved =>
    have known := (Cache.resolve_same resolved).subscriptions
    have decoded : Cache.SameElsewhere space key client.cache cache :=
      Cache.resolve_elsewhere resolved
    have present : cache.namespaces.contains space = true :=
      (decoded.namespaces space).trans (Cache.namespaces_contains_of_record found)
    have stored := decoded.trans (Cache.insertVersion_elsewhere present
      ⟨reply.namespaceId, reply.version⟩ content client.clock.read.2.read.1)
    have touched := stored.trans (Cache.touchRecord_elsewhere _ client.clock.read.2.read.2.read.1)
    refine touched.trans (Cache.changeRecord_elsewhere ?_ _)
    rw [(Cache.touchRecord_same ..).subscriptions, (Cache.insertVersion_same ..).subscriptions]
    exact known ▸ index

/-- A reply moves no record but the one under its id, and neither makes nor drops a namespace. -/
theorem applyReply_elsewhere
    (located : client.cache.located? reply.uid = some (space, key, record)) :
    Cache.SameElsewhere space key client.cache (client.applyReply reply).2.cache := by
  obtain ⟨index, found⟩ := Cache.located?_eq_some_iff.mp located
  have touched : Cache.SameElsewhere space key client.cache _ :=
    Cache.touchRecord_elsewhere client.cache client.clock.read.1
  unfold applyReply
  rw [index]
  dsimp only
  split
  · rcases client.applyRemoval_cases reply.uid space key with done | done <;> rw [done]
    · exact touched
    · exact ⟨touched.records, touched.namespaces⟩
  · exact applyContent_elsewhere located
  · refine touched.trans (Cache.changeRecord_elsewhere ?_ _)
    rw [(Cache.touchRecord_same ..).subscriptions]
    exact index

/-! ## Whom a reply tells -/

end Client

/-- Of what a reply made of a record nobody is told, or every watcher is told the same event. -/
theorem Record.Answered.told_cases {earlier later : Record} {told : List Notification}
    (answered : Answered earlier later told) :
    told = [] ∨ ∃ event : Event, event.subscription = earlier.subscription ∧
      told = earlier.watchers.values.map (fun watcher => ⟨watcher, event⟩) := by
  rw [answered.told, Record.news]
  split
  · exact .inl rfl
  · cases status : later.status with
    | none =>
      left
      simp only [Record.announce, Record.currentEvent, status, Option.map_none, Option.toList_none,
        List.flatMap_nil]
    | some outcome =>
      refine .inr ⟨later.event outcome, answered.subscription, ?_⟩
      rw [Record.announce_eq_notifyAll status, Record.notifyAll, answered.watchers]

/-- Whether a watcher makes no call of its own when it is told. -/
def Reaction.isSilent : Reaction → Bool
  | .idle => true
  | .onlyOn _ next => next.isSilent
  | _ => false

namespace Client

theorem react_of_silent {reaction : Reaction} (silent : reaction.isSilent = true) (label : String)
    (registration : Nat) (event : Event) (client : Client) :
    react reaction label registration event client = client := by
  induction reaction with
  | idle => rfl
  | onlyOn status next ih =>
    rw [react]
    split
    · exact ih silent
    · rfl
  | unwatch | count | subscribe | watch => cases silent

/-- Watchers that make no calls of their own only take note. -/
theorem dispatch_of_silent {notifications : List Notification} (client : Client)
    (silent : ∀ notification ∈ notifications, notification.watcher.reaction.isSilent = true) :
    client.dispatch notifications =
      { client with journal := client.journal ++ notifications.map Notification.toNote } := by
  induction notifications generalizing client with
  | nil => simp [dispatch]
  | cons notification rest ih =>
    have told : client.notify notification =
        { client with journal := client.journal ++ [notification.toNote] } :=
      react_of_silent (silent _ List.mem_cons_self) ..
    have later := ih { client with journal := client.journal ++ [notification.toNote] }
      (fun other member => silent other (List.mem_cons_of_mem _ member))
    rw [dispatch, List.foldl_cons, told]
    rw [dispatch] at later
    rw [later, List.map_cons, List.append_assoc, List.singleton_append]

/-- What a reply leaves alone, whom it tells and what it sends. -/
structure Isolates (client : Client) (reply : WatchResponse) (told : List Notification)
    (after : Client) : Prop where
  records : ∀ space key record, client.cache.recordAt? space key = some record →
    record.subscription ≠ reply.uid → after.cache.recordAt? space key = some record
  vacant : ∀ space key, client.cache.recordAt? space key = none →
    after.cache.recordAt? space key = none
  subscriptions : after.cache.bySubscription = client.cache.bySubscription
  next : after.cache.nextSubscription = client.cache.nextSubscription
  generation : after.cache.generation = client.cache.generation
  namespaces : ∀ space, after.cache.namespaces.contains space =
    client.cache.namespaces.contains space
  news : told = [] ∨ ∃ space key record event,
    client.cache.located? reply.uid = some (space, key, record) ∧
      record.subscription = reply.uid ∧ event.subscription = reply.uid ∧
      told = record.watchers.values.map (fun watcher => ⟨watcher, event⟩)
  once : (told.map (fun notification => notification.watcher.registration)).Nodup
  commands : after.queue = client.queue ∨ ∃ space key,
    client.cache.bySubscription.get? reply.uid = some (space, key) ∧
      after.queue = client.queue.push client.cache.generation (.subscribe reply.uid space key)
  unknown : client.cache.bySubscription.get? reply.uid = none → told = [] ∧ after = client

private theorem isolates_unknown (client : Client) {reply : WatchResponse}
    (unknown : client.cache.bySubscription.get? reply.uid = none) :
    client.Isolates reply (client.applyReply reply).1 (client.applyReply reply).2 := by
  rw [applyReply_unknown unknown]
  exact ⟨fun _ _ _ found _ => found, fun _ _ absent => absent, rfl, rfl, rfl, fun _ => rfl,
    .inl rfl, List.nodup_nil, .inl rfl, fun _ => ⟨rfl, rfl⟩⟩

theorem isolates {client : Client} (indexed : client.cache.Indexed)
    (seated : client.cache.Seated client.registrations) (reply : WatchResponse) :
    client.Isolates reply (client.applyReply reply).1 (client.applyReply reply).2 := by
  cases index : client.cache.bySubscription.get? reply.uid with
  | none => exact client.isolates_unknown index
  | some place =>
    obtain ⟨space, key⟩ := place
    obtain ⟨record, located, own, active⟩ := indexed.located? index
    obtain ⟨_, found⟩ := Cache.located?_eq_some_iff.mp located
    have effect := replies located active
    have elsewhere := applyReply_elsewhere located
    have told := (client.verdict_answered reply record.atRest).told_cases
    rw [← effect.told] at told
    constructor
    case records =>
      intro other document held there differs
      rw [elsewhere.records other document, there]
      rintro ⟨rfl, rfl⟩
      rw [found] at there
      cases there
      exact differs own
    case vacant =>
      intro other document absent
      rw [elsewhere.records other document, absent]
      rintro ⟨rfl, rfl⟩
      rw [found] at absent
      cases absent
    case subscriptions => exact effect.subscriptions
    case next => exact effect.next
    case generation => exact effect.generation
    case namespaces => exact elsewhere.namespaces
    case news =>
      rcases told with none | ⟨event, same, all⟩
      · exact .inl none
      · exact .inr ⟨space, key, record, event, located, own, same.trans own, all⟩
    case once =>
      rcases told with none | ⟨event, _, all⟩
      · rw [none]
        exact List.nodup_nil
      · have watchers := seated.watchers_pairwise found
        have same : record.atRest.watchers = record.watchers := rfl
        rw [all, List.map_map, same]
        exact List.pairwise_map.mpr watchers
    case commands =>
      rw [effect.queue]
      split
      · exact .inr ⟨space, key, index, rfl⟩
      · exact .inl rfl
    case unknown =>
      intro absent
      rw [index] at absent
      cases absent

end Client

/-- A reply concerns the record under its id alone. Every other record stays as it is, the index,
the ids, the generation and the namespaces stay as they are, each watcher of the record is told the
same event or none is told anything, and the one command that there may be subscribes to the
document of the record again. A reply for an id that is not in use changes nothing. When the
watchers that are told make no calls of their own, that is all that handling the reply does. -/
theorem reply_concerns_its_record {start client : Client} {history : List Occurrence}
    (fresh : start.Fresh) (run : Run start history client) (reply : WatchResponse) :
    client.Isolates reply (client.applyReply reply).1 (client.applyReply reply).2 ∧
    ((∀ notification ∈ (client.applyReply reply).1,
        notification.watcher.reaction.isSilent = true) →
      client.handleReply reply = { (client.applyReply reply).2 with
        journal := client.journal ++ (client.applyReply reply).1.map Notification.toNote }) := by
  have indexed := run.indexed fresh
  refine ⟨Client.isolates indexed (run.seated fresh) reply, fun silent => ?_⟩
  have handled : client.handleReply reply =
      (client.applyReply reply).2.dispatch (client.applyReply reply).1 := rfl
  have journal : (client.perform (.reply reply)).2.journal = client.journal :=
    Client.perform_journal indexed (by simp)
  have kept : (client.applyReply reply).2.journal = client.journal := journal
  rw [handled, Client.dispatch_of_silent _ silent, kept]

/-- Two documents are watched, and the server sends the same number for both. -/
private def sharingOne : List Section :=
  [.watch { root := "/srv" } { document := "a" } (some ("A", .idle)),
    .watch { root := "/srv" } { document := "b" } (some ("B", .idle)),
    .reply
      { namespaceId := 1, version := 1, checksum := [1], nodes := [{ valueType := 4, int := 1 }] },
    .reply
      { uid := 1, namespaceId := 1, version := 1, checksum := [1],
        nodes := [{ valueType := 4, int := 1 }] }]

private theorem sharingOne_shares :
    ∃ record other latest,
      (Client.byDefault.performAll sharingOne).cache.recordAt? { root := "/srv" }
        { document := "a" } = some record ∧
      (Client.byDefault.performAll sharingOne).cache.recordAt? { root := "/srv" }
        { document := "b" } = some other ∧
      record.latest = some latest ∧ other.latest = some latest ∧ other.subscription = 1 :=
  ⟨_, _, _, rfl, rfl, rfl, rfl, rfl⟩

/-- The server reports an error for the first document. The second holds the same object and keeps
its record, and only the watcher of the first takes note. -/
theorem reply_concerns_its_record_shared :
    ∃ history client record other latest,
      Run Client.byDefault history client ∧
      client.cache.recordAt? { root := "/srv" } { document := "a" } = some record ∧
      client.cache.recordAt? { root := "/srv" } { document := "b" } = some other ∧
      record.latest = some latest ∧ other.latest = some latest ∧
      (client.handleReply { status := 1 }).cache.recordAt? { root := "/srv" }
        { document := "b" } = some other ∧
      (client.handleReply { status := 1 }).journal.map Note.label =
        client.journal.map Note.label ++ ["A"] := by
  obtain ⟨record, other, latest, first, second, held, shared, own⟩ := sharingOne_shares
  obtain ⟨isolates, handled⟩ := reply_concerns_its_record Client.byDefault_fresh
    (Run.start.performAll sharingOne) { status := 1 }
  refine ⟨_, _, record, other, latest, Run.start.performAll sharingOne, first, second, held, shared,
    ?_, ?_⟩
  · rw [handled (by decide +kernel)]
    refine isolates.records _ _ _ second ?_
    rw [own]
    decide
  · rw [handled (by decide +kernel), List.map_append, List.append_cancel_left_eq]
    decide +kernel

end ConfigWatch

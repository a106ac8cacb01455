import ConfigWatch.Proofs.Client.Effects

/-!
# The index of subscription ids

The index leads from an id to the record with that id. This holds in every run. The other way
round, from a record to its id and back, holds only as long as no id was given out twice under one
generation.
-/

set_option autoImplicit false

namespace ConfigWatch

namespace Cache

/-- Every id of the index leads to a record with that id, and every record is alive. -/
structure Indexed (cache : Cache) : Prop where
  located : ∀ id space key, cache.bySubscription.get? id = some (space, key) →
    ∃ record, cache.restAt? space key = some record ∧ record.subscription = id
  alive : ∀ space key record, cache.restAt? space key = some record → record.Alive

/-- The id of every record leads to the place of the record. -/
def Placed (cache : Cache) : Prop :=
  ∀ space key record, cache.restAt? space key = some record →
    cache.bySubscription.get? record.subscription = some (space, key)

theorem Indexed.of_same {before after : Cache} (indexed : before.Indexed)
    (same : SameRecords before after) : after.Indexed where
  located id space key index := by
    rw [same.subscriptions] at index
    rw [same.records]
    exact indexed.located id space key index
  alive space key record found := by
    rw [same.records] at found
    exact indexed.alive space key record found

theorem Indexed.unique {cache : Cache} (indexed : cache.Indexed) {left right : UInt32}
    {space : NamespaceKey} {key : DocumentKey}
    (here : cache.bySubscription.get? left = some (space, key))
    (there : cache.bySubscription.get? right = some (space, key)) : left = right := by
  obtain ⟨rest, found, rfl⟩ := indexed.located _ _ _ here
  obtain ⟨held, foundToo, rfl⟩ := indexed.located _ _ _ there
  rw [found] at foundToo
  cases foundToo
  rfl

theorem Placed.index {cache : Cache} (placed : cache.Placed) {space : NamespaceKey}
    {key : DocumentKey} {record : Record} (found : cache.recordAt? space key = some record) :
    cache.bySubscription.get? record.subscription = some (space, key) :=
  placed space key record.atRest (restAt?_eq_some found)

theorem Placed.unique {cache : Cache} (placed : cache.Placed) {space other : NamespaceKey}
    {key document : DocumentKey} {left right : Record}
    (here : cache.recordAt? space key = some left)
    (there : cache.recordAt? other document = some right)
    (same : left.subscription = right.subscription) : space = other ∧ key = document := by
  have place := placed.index there
  rw [← same, placed.index here] at place
  cases place
  exact ⟨rfl, rfl⟩

theorem Placed.of_same {before after : Cache} (placed : before.Placed)
    (same : SameRecords before after) : after.Placed := by
  intro space key record found
  rw [same.records] at found
  rw [same.subscriptions]
  exact placed space key record found

theorem Indexed.located? {cache : Cache} (indexed : cache.Indexed) {id : UInt32}
    {space : NamespaceKey} {key : DocumentKey}
    (index : cache.bySubscription.get? id = some (space, key)) :
    ∃ record, cache.located? id = some (space, key, record) ∧ record.subscription = id ∧
      record.state ≠ .deactivated := by
  obtain ⟨rest, found, same⟩ := indexed.located id space key index
  obtain ⟨record, there, rfl⟩ := exists_recordAt? found
  exact ⟨record, located?_eq_some_iff.mpr ⟨index, there⟩, same,
    (indexed.alive space key _ found).active⟩

theorem restAt?_cleanup_eq_some_iff {cache : Cache} {limit : Instant} {space : NamespaceKey}
    {key : DocumentKey} {rest : Record} :
    (cache.cleanup limit).2.restAt? space key = some rest ↔
      ∃ record, cache.recordAt? space key = some record ∧ record.isIdle limit = false ∧
        record.atRest = rest := by
  rw [restAt?_cleanup]
  cases cache.recordAt? space key with
  | none => simp
  | some record => cases idle : record.isIdle limit <;> simp [Option.filter, idle]

theorem restAt?_of_cleanup {cache : Cache} {limit : Instant} {space : NamespaceKey}
    {key : DocumentKey} {rest : Record}
    (found : (cache.cleanup limit).2.restAt? space key = some rest) :
    cache.restAt? space key = some rest := by
  obtain ⟨record, there, _, rfl⟩ := restAt?_cleanup_eq_some_iff.mp found
  exact restAt?_eq_some there

theorem Indexed.cleanup {cache : Cache} (indexed : cache.Indexed) (limit : Instant) :
    (cache.cleanup limit).2.Indexed where
  located id space key index := by
    rw [bySubscription_cleanup] at index
    split at index
    · cases index
    · next unswept =>
      obtain ⟨rest, found, same⟩ := indexed.located id space key index
      obtain ⟨record, there, rfl⟩ := exists_recordAt? found
      refine ⟨record.atRest, restAt?_cleanup_eq_some_iff.mpr ⟨record, there, ?_, rfl⟩, same⟩
      cases idle : record.isIdle limit with
      | false => rfl
      | true =>
        exact absurd (mem_idleSubscriptions_iff.mpr ⟨space, key, record, there, idle, same⟩)
          unswept
  alive space key record found := indexed.alive space key record (restAt?_of_cleanup found)

theorem Placed.cleanup {cache : Cache} (placed : cache.Placed) (limit : Instant) :
    (cache.cleanup limit).2.Placed := by
  intro space key rest found
  obtain ⟨record, there, busy, rfl⟩ := restAt?_cleanup_eq_some_iff.mp found
  have index := placed space key _ (restAt?_eq_some there)
  rw [bySubscription_cleanup, if_neg, index]
  intro swept
  obtain ⟨other, document, idle, elsewhere, isIdle, same⟩ := mem_idleSubscriptions_iff.mp swept
  -- An idle record under the same id would be the same record.
  obtain ⟨rfl, rfl⟩ := placed.unique elsewhere there same
  rw [there] at elsewhere
  cases elsewhere
  rw [busy] at isIdle
  cases isIdle

theorem Placed.idleSubscriptions_nodup {cache : Cache} (placed : cache.Placed) (limit : Instant) :
    (cache.idleSubscriptions limit).Nodup := by
  have records : cache.records.Pairwise
      (fun left right => left.subscription ≠ right.subscription) :=
    records_pairwise (fun _ _ _ _ _ _ here there differ same =>
      differ (Prod.ext_iff.mpr (placed.unique here there same)))
  rw [idleSubscriptions_eq]
  exact (List.mergeSort_perm _ _).nodup_iff.mpr
    (List.pairwise_map.mpr (records.filter _))

theorem indexed_reset (cache : Cache) : cache.reset.2.Indexed where
  located _ _ _ index := by cases index
  alive _ _ _ found := by cases found

theorem placed_reset (cache : Cache) : cache.reset.2.Placed := by
  intro _ _ _ found
  cases found

end Cache

namespace Record

theorem Answered.refl (record : Record) : Answered record record [] :=
  ⟨rfl, rfl, rfl, rfl, rfl, by simp [news]⟩

theorem Alive.joined {record : Record} (alive : record.Alive) (registration : Nat)
    (watcher : Option (String × Reaction)) : (record.joined registration watcher).Alive := by
  cases watcher with
  | none => exact alive
  | some watcher => exact ⟨alive.active, alive.pending, alive.empty, alive.unended⟩

theorem subscription_joined (record : Record) (registration : Nat)
    (watcher : Option (String × Reaction)) :
    (record.joined registration watcher).atRest.subscription = record.subscription := by
  cases watcher <;> rfl

end Record

namespace Client

theorem verdict_answered (client : Client) (reply : WatchResponse) (record : Record) :
    Record.Answered record (client.verdict reply record).2 (client.verdict reply record).1 := by
  unfold verdict
  split
  · exact Record.Answered.refl record
  · split
    · exact record.updateStatus_answered _
    · exact record.update_answered _ _
  · exact record.updateStatus_answered _

theorem verdict_alive {client : Client} {reply : WatchResponse} {record : Record}
    (alive : record.Alive) : (client.verdict reply record).2.Alive := by
  unfold verdict
  split
  · exact alive
  · split
    · exact alive.updateStatus (by decide)
    · exact alive.update _ _
  · next kept _ => exact alive.updateStatus kept

/-- What a section can do to a client whose index is in order. -/
inductive Does (client : Client) : Section → List Notification × Client → Prop where
  | quiet {act : Section} {result : List Notification × Client} :
      Quiet client result → Occurrence.opened ⟨client, act⟩ = none →
      Occurrence.removed ⟨client, act⟩ = none → Occurrence.swept ⟨client, act⟩ = [] →
      Does client act result
  | watches {space : NamespaceKey} {key : DocumentKey} {watcher : Option (String × Reaction)}
      {initial : Option Notification} {after : Client} :
      Registers client space key watcher initial after →
      Does client (.watch space key watcher) (initial.toList, after)
  | unwatches {subscription watcher : UInt32} {after : Client} :
      Unwatches client subscription watcher after →
      Does client (.unwatch subscription watcher) ([], after)
  | replies {reply : WatchResponse} {space : NamespaceKey} {key : DocumentKey} {record : Record}
      {told : List Notification} {after : Client} :
      client.cache.located? reply.uid = some (space, key, record) →
      Replies client reply space key record told after →
      Does client (.reply reply) (told, after)
  | sweeps {moment limit : Instant} :
      client.clock.before? moment client.settings.inactivityThresholdSeconds.toNat = some limit →
      Does client (.sweep moment) ([],
        { client with
          cache := (client.cache.cleanup limit).2
          queue := { client.queue with
            commands := client.queue.commands ++ (client.cache.idleSubscriptions limit).map
              (fun id => ⟨client.cache.generation, .unsubscribe id⟩) } })
  | resets {act : Section} {after : Client} : act = .failStream ∨ act = .finishClose →
      after.cache = client.cache.reset.2 → after.registrations = client.registrations →
      Does client act (client.cache.reset.1, after)

theorem does {client : Client} (indexed : client.cache.Indexed) (act : Section) :
    Does client act (client.perform act) := by
  have idle (act : Section) (opened : Occurrence.opened ⟨client, act⟩ = none)
      (removed : Occurrence.removed ⟨client, act⟩ = none)
      (swept : Occurrence.swept ⟨client, act⟩ = []) : Does client act ([], client) :=
    .quiet ⟨rfl, Cache.SameRecords.refl _, rfl⟩ opened removed swept
  cases act with
  | watch space key watcher =>
    obtain ⟨initial, after, result, effect⟩ := perform_watch client space key watcher
    rw [result]
    exact .watches effect
  | unwatch subscription watcher => exact .unwatches (unwatches client subscription watcher)
  | reply reply =>
    cases index : client.cache.bySubscription.get? reply.uid with
    | none =>
      simp only [perform, applyReply_unknown index]
      exact idle _ rfl (by simp [Occurrence.removed, index]) rfl
    | some place =>
      obtain ⟨space, key⟩ := place
      obtain ⟨record, located, _, active⟩ := indexed.located? index
      exact .replies located (replies located active)
  | sweep moment =>
    cases reached : client.clock.before? moment
        client.settings.inactivityThresholdSeconds.toNat with
    | none =>
      simp only [perform, sweepAt_unreached reached]
      exact idle _ rfl rfl (by simp [Occurrence.swept, reached])
    | some limit =>
      simp only [perform, sweepAt_eq reached]
      exact .sweeps reached
  | failStream =>
    simp only [perform]
    split
    · next stream serving =>
      simp only [cancelOutbound, serving]
      exact .resets (.inl rfl) rfl rfl
    · next stream serving =>
      simp only [cancelOutbound, serving]
      exact .resets (.inl rfl) rfl rfl
    · exact idle _ rfl rfl rfl
  | finishClose =>
    simp only [perform]
    split
    · exact .resets (.inr rfl) rfl rfl
    · exact idle _ rfl rfl rfl
  | _ => exact .quiet (perform_quiet rfl client) rfl rfl rfl

/-- How a record came out of a section: the section left it alone, or was about its document. -/
inductive Yields (client : Client) (space : NamespaceKey) (key : DocumentKey) (rest : Record) :
    Section → Prop where
  | kept {act : Section} : client.cache.restAt? space key = some rest →
      Yields client space key rest act
  | watched {watcher : Option (String × Reaction)} :
      rest = ((client.cache.recordFor space key 0).joined client.registrations watcher).atRest →
      Yields client space key rest (.watch space key watcher)
  | unwatched {subscription watcher : UInt32} {earlier : Record} :
      client.cache.bySubscription.get? subscription = some (space, key) →
      client.cache.restAt? space key = some earlier → rest = (earlier.removeWatcher watcher).2 →
      Yields client space key rest (.unwatch subscription watcher)
  | replied {reply : WatchResponse} {earlier : Record} :
      client.cache.bySubscription.get? reply.uid = some (space, key) →
      client.cache.restAt? space key = some earlier → rest = (client.verdict reply earlier).2 →
      Yields client space key rest (.reply reply)

theorem yields {client : Client} (indexed : client.cache.Indexed) {act : Section}
    {space : NamespaceKey} {key : DocumentKey} {rest : Record}
    (found : (client.perform act).2.cache.restAt? space key = some rest) :
    client.Yields space key rest act := by
  have step := does indexed act
  generalize client.perform act = result at step found
  cases step with
  | quiet same => exact .kept (same.records.records space key ▸ found)
  | watches effect =>
    rw [effect.records] at found
    split at found
    · next here =>
      obtain ⟨rfl, rfl⟩ := here
      exact .watched (Option.some.inj found).symm
    · exact .kept found
  | unwatches effect =>
    rw [effect.records] at found
    split at found
    · next index =>
      obtain ⟨earlier, there, same⟩ := Option.map_eq_some_iff.mp found
      exact .unwatched index there same.symm
    · exact .kept found
  | replies located effect =>
    rw [effect.records] at found
    split at found
    · next here =>
      obtain ⟨rfl, rfl⟩ := here
      obtain ⟨index, there⟩ := Cache.located?_eq_some_iff.mp located
      exact .replied index (Cache.restAt?_eq_some there) (Option.some.inj found).symm
    · exact .kept found
  | sweeps _ => exact .kept (Cache.restAt?_of_cleanup found)
  | resets _ cache _ =>
    rw [cache] at found
    cases found

/-- Sections that are work on the cache, the queue or the clock leave the rest alone. -/
theorem perform_inside {client : Client} (indexed : client.cache.Indexed) {act : Section}
    (inside : act.isInside = true) : SameOutside client (client.perform act).2 := by
  cases act with
  | watch space key watcher =>
    obtain ⟨initial, after, result, effect⟩ := client.perform_watch space key watcher
    rw [result]
    exact effect.outside
  | unwatch subscription watcher => exact (unwatches client subscription watcher).outside
  | beginRead space key pinned =>
    obtain ⟨cache, clock, read, _⟩ :=
      beginRead_effect { client with closed := false } space key pinned
    rw [perform, read]
    exact ⟨rfl, rfl, rfl, rfl, rfl⟩
  | finishRead pending response =>
    obtain ⟨cache, clock, read, _⟩ := finishRead_effect client pending response
    rw [perform, read]
    exact ⟨rfl, rfl, rfl, rfl, rfl⟩
  | reply reply =>
    rw [perform]
    cases index : client.cache.bySubscription.get? reply.uid with
    | none =>
      rw [applyReply_unknown index]
      exact ⟨rfl, rfl, rfl, rfl, rfl⟩
    | some place =>
      obtain ⟨record, located, _, active⟩ := indexed.located? index
      exact (replies located active).outside
  | sweep moment =>
    rw [perform]
    cases reached : client.clock.before? moment
        client.settings.inactivityThresholdSeconds.toNat with
    | none =>
      rw [sweepAt_unreached reached]
      exact ⟨rfl, rfl, rfl, rfl, rfl⟩
    | some limit =>
      rw [sweepAt_eq reached]
      exact ⟨rfl, rfl, rfl, rfl, rfl⟩
  | cancelStream =>
    simp only [perform, cancelOutbound]
    split <;> exact ⟨rfl, rfl, rfl, rfl, rfl⟩
  | poll | dropStream | setClock => exact ⟨rfl, rfl, rfl, rfl, rfl⟩
  | requestStream | openStream | failStream | startSweeps | scheduleSweep | beginClose
      | stopStreamWorker | stopSweepWorker | finishClose | note => cases inside

/-- A section stays in the present generation, or starts the cache afresh under the next one. -/
theorem generation_or_reset {client : Client} (indexed : client.cache.Indexed) (act : Section) :
    (client.perform act).2.cache.generation = client.cache.generation ∨
      (client.perform act).2.cache = client.cache.reset.2 := by
  have step := does indexed act
  generalize client.perform act = result at step
  cases step with
  | quiet same => exact .inl same.records.generation
  | watches effect => exact .inl effect.generation
  | unwatches effect => exact .inl effect.generation
  | replies _ effect => exact .inl effect.generation
  | sweeps reached => exact .inl rfl
  | resets _ cache _ => exact .inr cache

private theorem Registers.indexed {client after : Client} {space : NamespaceKey}
    {key : DocumentKey} {watcher : Option (String × Reaction)} {initial : Option Notification}
    (effect : Registers client space key watcher initial after)
    (indexed : client.cache.Indexed) : after.cache.Indexed where
  located id other document index := by
    rw [effect.subscriptions] at index
    rw [effect.records]
    split at index
    · next new =>
      obtain ⟨absent, rfl⟩ := new
      cases index
      rw [if_pos ⟨rfl, rfl⟩]
      refine ⟨_, rfl, ?_⟩
      rw [Record.subscription_joined, Cache.recordFor_new absent]
    · obtain ⟨rest, found, same⟩ := indexed.located id other document index
      split
      · next here =>
        obtain ⟨rfl, rfl⟩ := here
        refine ⟨_, rfl, ?_⟩
        rw [Record.subscription_joined, ← same, ← Cache.recordFor_atRest found 0]
        rfl
      · exact ⟨rest, found, same⟩
  alive other document rest found := by
    rw [effect.records] at found
    split at found
    · obtain rfl := Option.some.inj found
      have alive : (client.cache.recordFor space key 0).Alive := by
        cases absent : client.cache.recordAt? space key with
        | none =>
          rw [Cache.recordFor_new absent]
          exact ⟨by simp, by simp, by simp, by simp⟩
        | some record =>
          have rest := indexed.alive space key _ (Cache.restAt?_eq_some absent)
          rw [Cache.recordFor_found absent]
          exact ⟨rest.active, rest.pending, rest.empty, rest.unended⟩
      have joined := alive.joined client.registrations watcher
      exact ⟨joined.active, joined.pending, joined.empty, joined.unended⟩
    · exact indexed.alive other document rest found

private theorem Unwatches.indexed {client after : Client} {subscription watcher : UInt32}
    (effect : Unwatches client subscription watcher after) (indexed : client.cache.Indexed) :
    after.cache.Indexed where
  located id other document index := by
    rw [effect.subscriptions] at index
    obtain ⟨rest, found, same⟩ := indexed.located id other document index
    rw [effect.records]
    split
    · exact ⟨(rest.removeWatcher watcher).2, by rw [found, Option.map_some], same⟩
    · exact ⟨rest, found, same⟩
  alive other document rest found := by
    rw [effect.records] at found
    split at found
    · obtain ⟨earlier, there, rfl⟩ := Option.map_eq_some_iff.mp found
      have alive := indexed.alive other document earlier there
      exact ⟨alive.active, alive.pending, alive.empty, alive.unended⟩
    · exact indexed.alive other document rest found

private theorem Replies.indexed {client after : Client} {reply : WatchResponse}
    {space : NamespaceKey} {key : DocumentKey} {record : Record} {told : List Notification}
    (located : client.cache.located? reply.uid = some (space, key, record))
    (effect : Replies client reply space key record told after)
    (indexed : client.cache.Indexed) : after.cache.Indexed where
  located id other document index := by
    rw [effect.subscriptions] at index
    obtain ⟨rest, found, same⟩ := indexed.located id other document index
    rw [effect.records]
    split
    · next here =>
      obtain ⟨rfl, rfl⟩ := here
      obtain ⟨_, there⟩ := Cache.located?_eq_some_iff.mp located
      rw [Cache.restAt?_eq_some there] at found
      cases found
      exact ⟨_, rfl, (verdict_answered client reply record.atRest).subscription.trans same⟩
    · exact ⟨rest, found, same⟩
  alive other document rest found := by
    rw [effect.records] at found
    split at found
    · obtain rfl := Option.some.inj found
      obtain ⟨_, there⟩ := Cache.located?_eq_some_iff.mp located
      exact verdict_alive (indexed.alive space key _ (Cache.restAt?_eq_some there))
    · exact indexed.alive other document rest found

theorem perform_indexed {client : Client} (indexed : client.cache.Indexed) (act : Section) :
    (client.perform act).2.cache.Indexed := by
  have step := does indexed act
  generalize client.perform act = result at step
  cases step with
  | quiet same => exact indexed.of_same same.records
  | watches effect => exact effect.indexed indexed
  | unwatches effect => exact effect.indexed indexed
  | replies located effect => exact effect.indexed located indexed
  | sweeps reached => exact indexed.cleanup _
  | resets _ cache _ =>
    rw [cache]
    exact client.cache.indexed_reset

end Client

theorem Run.indexed {start client : Client} {history : List Occurrence} (fresh : start.Fresh)
    (run : Run start history client) : client.cache.Indexed := by
  induction run with
  | start =>
    rw [fresh.eq]
    exact ⟨fun _ _ _ index => (by cases index), fun _ _ _ found => (by cases found)⟩
  | step act run ih => exact Client.perform_indexed ih act

namespace Client

private theorem Registers.placed {client after : Client} {space : NamespaceKey}
    {key : DocumentKey} {watcher : Option (String × Reaction)} {initial : Option Notification}
    (effect : Registers client space key watcher initial after)
    (unused : client.cache.bySubscription.get? client.cache.nextSubscription = none)
    (placed : client.cache.Placed) : after.cache.Placed := by
  intro other document rest found
  rw [effect.records] at found
  rw [effect.subscriptions]
  split at found
  · next here =>
    obtain ⟨rfl, rfl⟩ := here
    obtain rfl := Option.some.inj found
    simp only [Record.subscription_joined]
    cases absent : client.cache.recordAt? other document with
    | none => simp [Cache.recordFor_new absent]
    | some record =>
      rw [if_neg (by simp), Cache.recordFor_found absent]
      exact placed.index absent
  · have index := placed other document rest found
    rw [if_neg, index]
    rintro ⟨_, same⟩
    rw [same, unused] at index
    cases index

private theorem Unwatches.placed {client after : Client} {subscription watcher : UInt32}
    (effect : Unwatches client subscription watcher after) (placed : client.cache.Placed) :
    after.cache.Placed := by
  intro other document rest found
  rw [effect.records] at found
  rw [effect.subscriptions]
  split at found
  · obtain ⟨earlier, there, rfl⟩ := Option.map_eq_some_iff.mp found
    exact placed other document earlier there
  · exact placed other document rest found

private theorem Replies.placed {client after : Client} {reply : WatchResponse}
    {space : NamespaceKey} {key : DocumentKey} {record : Record} {told : List Notification}
    (located : client.cache.located? reply.uid = some (space, key, record))
    (effect : Replies client reply space key record told after)
    (placed : client.cache.Placed) : after.cache.Placed := by
  intro other document rest found
  rw [effect.records] at found
  rw [effect.subscriptions]
  split at found
  · next here =>
    obtain ⟨rfl, rfl⟩ := here
    obtain rfl := Option.some.inj found
    obtain ⟨_, there⟩ := Cache.located?_eq_some_iff.mp located
    rw [(verdict_answered client reply record.atRest).subscription]
    exact placed other document _ (Cache.restAt?_eq_some there)
  · exact placed other document rest found

/-- A section that gives out no id of the index leaves every record at the place of its id. -/
theorem perform_placed {client : Client} (indexed : client.cache.Indexed)
    (unused : client.cache.bySubscription.get? client.cache.nextSubscription = none)
    (placed : client.cache.Placed) (act : Section) : (client.perform act).2.cache.Placed := by
  have step := does indexed act
  generalize client.perform act = result at step
  cases step with
  | quiet same => exact placed.of_same same.records
  | watches effect => exact effect.placed unused placed
  | unwatches effect => exact effect.placed placed
  | replies located effect => exact effect.placed located placed
  | sweeps reached => exact placed.cleanup _
  | resets _ cache _ =>
    rw [cache]
    exact client.cache.placed_reset

end Client

end ConfigWatch

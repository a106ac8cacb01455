import ConfigWatch.Proofs.Cache.Contents
import ConfigWatch.Proofs.Cache.Sweeping
import ConfigWatch.Proofs.Client.Subscriptions

/-!
# Touches

A watch touches its record, and so does an unpinned read that the record answers. What was used at
some moment is not idle at any limit up to that moment, for as long as the clock is not set back.
-/

set_option autoImplicit false

namespace ConfigWatch

namespace Cache

/-- The records of a cache are older ones, untouched, or were touched at some moment or later. -/
structure Ages (now : Instant) (before after : Cache) : Prop where
  records : ∀ space key record, after.recordAt? space key = some record →
    (∃ earlier, before.recordAt? space key = some earlier ∧
      earlier.lastTouch = record.lastTouch) ∨ now ≤ record.lastTouch

section

variable {now : Instant} {cache after : Cache}

theorem ages_of_same (same : ∀ space key, after.recordAt? space key = cache.recordAt? space key) :
    Ages now cache after :=
  ⟨fun space key record found => .inl ⟨record, same space key ▸ found, rfl⟩⟩

theorem Ages.refl (now : Instant) (cache : Cache) : Ages now cache cache :=
  ages_of_same (fun _ _ => rfl)

theorem Ages.trans {later : Instant} {middle : Cache} (first : Ages now cache middle)
    (second : Ages later middle after) (order : now ≤ later) : Ages now cache after := by
  refine ⟨fun space key record found => ?_⟩
  rcases second.records space key record found with ⟨held, there, same⟩ | recent
  · rw [← same]
    exact first.records space key held there
  · exact .inr (Int.le_trans order recent)

theorem modifyRecord_ages {space : NamespaceKey} {key : DocumentKey} {change : Record → Record}
    (kept : ∀ record, cache.recordAt? space key = some record →
      (change record).lastTouch = record.lastTouch ∨ now ≤ (change record).lastTouch) :
    Ages now cache (cache.modifyRecord space key change) := by
  refine ⟨fun other document record found => ?_⟩
  rw [recordAt?_modifyRecord] at found
  split at found
  · next here =>
    obtain ⟨rfl, rfl⟩ := here
    obtain ⟨earlier, there, rfl⟩ := Option.map_eq_some_iff.mp found
    exact (kept earlier there).imp_left (fun same => ⟨earlier, there, same.symm⟩)
  · exact .inl ⟨record, found, rfl⟩

theorem recordAt?_touchRecord (cache : Cache) (space : NamespaceKey) (key : DocumentKey)
    (moment : Instant) (other : NamespaceKey) (document : DocumentKey) :
    (cache.touchRecord space key moment).recordAt? other document =
      if other = space ∧ document = key then
        (cache.recordAt? other document).map (fun record => { record with lastTouch := moment })
      else cache.recordAt? other document := by
  rw [touchRecord]
  split
  · next absent =>
    split
    · next here =>
      obtain ⟨rfl, rfl⟩ := here
      rw [absent, Option.map_none]
    · rfl
  · split <;> exact cache.recordAt?_modifyRecord space key _ other document

theorem touchRecord_ages (space : NamespaceKey) (key : DocumentKey) {moment : Instant}
    (recent : now ≤ moment) : Ages now cache (cache.touchRecord space key moment) := by
  refine ⟨fun other document record found => ?_⟩
  rw [recordAt?_touchRecord] at found
  split at found
  · obtain ⟨_, _, rfl⟩ := Option.map_eq_some_iff.mp found
    exact .inr recent
  · exact .inl ⟨record, found, rfl⟩

theorem recordOrNew_ages (cache : Cache) (space : NamespaceKey) (key : DocumentKey)
    (now : Instant) : Ages now cache (cache.recordOrNew space key now).2.2 := by
  cases found : cache.recordAt? space key with
  | some record =>
    rw [recordOrNew_found found]
    exact .refl now cache
  | none =>
    rw [recordOrNew_new found]
    refine ⟨fun other document record there => ?_⟩
    rw [recordAt?_withNewRecord, recordFor_new found] at there
    split at there
    · cases there
      exact .inr (Int.le_refl _)
    · exact .inl ⟨record, there, rfl⟩

theorem insertVersion_ages (cache : Cache) (space : NamespaceKey) (version : Version)
    (key : DocumentKey) (content : Content) (moment : Instant) :
    Ages now cache (cache.insertVersion space version key content moment) := by
  refine ages_of_same (fun other document => ?_)
  rw [insertVersion, recordAt?_setNamespace]
  split
  · next here =>
    rw [here]
    exact namespaceOrNew_get? cache space document
  · rfl

theorem resolve_ages {checksum : Bytes} {decode : Unit → Except DecodeError Payload.Decoded}
    {moment : Instant} {content : Content}
    (resolved : cache.resolve checksum decode moment = .ok (content, after)) :
    Ages now cache after :=
  ages_of_same (fun space key => by rw [recordAt?, resolve_namespaces resolved, recordAt?])

theorem readVersion_ages {space : NamespaceKey} {version : Version} {key : DocumentKey}
    {moment : Instant} {content : Content}
    (read : cache.readVersion space version key moment = some (content, after)) :
    Ages now cache after := by
  obtain ⟨_, _, same⟩ := Option.map_eq_some_iff.mp read
  cases same
  refine ages_of_same (fun other document => ?_)
  simp only [recordAt?, Table.get?_modify]
  split
  · cases cache.namespaces.get? other <;> rfl
  · rfl

theorem changeRecord_ages (cache : Cache) (id : UInt32)
    {change : Record → List Notification × Record}
    (kept : ∀ record, (change record).2.lastTouch = record.lastTouch) :
    Ages now cache (cache.changeRecord id change).2 := by
  unfold changeRecord
  split
  · exact .refl now cache
  · next space key record located =>
    refine modifyRecord_ages (fun held there => .inl ?_)
    rw [(located?_eq_some_iff.mp located).2] at there
    cases there
    exact kept record

theorem cleanup_ages (cache : Cache) (limit : Instant) :
    Ages now cache (cache.cleanup limit).2 := by
  refine ⟨fun space key record found => ?_⟩
  rw [recordAt?_cleanup] at found
  exact .inl ⟨record, (Option.filter_eq_some_iff.mp found).1, rfl⟩

theorem reset_ages (cache : Cache) : Ages now cache cache.reset.2 :=
  ⟨fun _ _ _ found => by cases found⟩

end

end Cache

/-! ## Readings of the clock -/

theorem Clock.read_read (clock : Clock) : clock.read.2.read.1 = clock.read.1 + 1 := by
  have shifted (base : Int) (reads : Nat) :
      base + (reads + 1 + 1 : Nat) = base + (reads + 1 : Nat) + 1 := by omega
  exact shifted _ clock.reads

theorem Clock.read_lt (clock : Clock) : clock.read.1 < clock.read.2.read.1 := by
  rw [read_read]
  exact Int.lt_succ _

theorem Clock.read_le (clock : Clock) : clock.read.1 ≤ clock.read.2.read.1 := by
  rw [read_read]
  exact Int.le_add_one (Int.le_refl _)

namespace Client

/-- The clock does not go back, and records are touched at present times only. -/
structure Advances (client after : Client) : Prop where
  clock : client.clock.read.1 ≤ after.clock.read.1
  ages : Cache.Ages client.clock.read.1 client.cache after.cache

variable {client after : Client} {space : NamespaceKey} {key : DocumentKey}

theorem Advances.refl (client : Client) : Advances client client := ⟨Int.le_refl _, .refl _ _⟩

theorem Advances.trans {middle : Client} (first : Advances client middle)
    (second : Advances middle after) : Advances client after :=
  ⟨Int.le_trans first.clock second.clock, first.ages.trans second.ages first.clock⟩

theorem advances_now (client : Client) : Advances client client.now.2 :=
  ⟨client.clock.read_le, .refl _ _⟩

theorem touchAt_advances (client : Client) (space : NamespaceKey) (key : DocumentKey) :
    Advances client (client.touchAt space key) :=
  ⟨client.clock.read_le, Cache.touchRecord_ages space key (Int.le_refl _)⟩

theorem changeRecord_advances (client : Client) (id : UInt32)
    {change : Record → List Notification × Record}
    (kept : ∀ record, (change record).2.lastTouch = record.lastTouch) :
    Advances client (client.changeRecord id change).2 :=
  ⟨Int.le_refl _, client.cache.changeRecord_ages id kept⟩

/-! ## Watches -/

/-- A watcher is attached to a record as it was touched. -/
theorem recordAt?_attach (client : Client) {touched : Instant}
    (fresh : ∀ record, client.cache.recordAt? space key = some record →
      record.lastTouch = touched) {held : Record} (same : held.lastTouch = touched)
    (watcher : Option (String × Reaction)) {record : Record}
    (found : (client.attach space key held watcher).2.2.cache.recordAt? space key =
      some record) : record.lastTouch = touched := by
  cases watcher with
  | none => exact fresh record found
  | some watcher =>
    simp only [attach] at found
    rw [Cache.recordAt?_modifyRecord, if_pos ⟨rfl, rfl⟩] at found
    obtain ⟨_, _, rfl⟩ := Option.map_eq_some_iff.mp found
    exact same

theorem attach_ages (client : Client) (space : NamespaceKey) (key : DocumentKey) {now : Instant}
    {held : Record} (recent : now ≤ held.lastTouch) (watcher : Option (String × Reaction)) :
    Cache.Ages now client.cache (client.attach space key held watcher).2.2.cache := by
  cases watcher with
  | none => exact .refl now _
  | some watcher => exact Cache.modifyRecord_ages (fun _ _ => .inr recent)

theorem attach_clock (client : Client) (space : NamespaceKey) (key : DocumentKey) (held : Record)
    (watcher : Option (String × Reaction)) :
    (client.attach space key held watcher).2.2.clock = client.clock := by
  cases watcher <;> rfl

/-- What a watch leaves of the clock, and when it touches its record. -/
structure Watches (client : Client) (space : NamespaceKey) (key : DocumentKey) (after : Client) :
    Prop where
  advances : Advances client after
  clock : after.clock = client.clock.read.2.read.2
  touch : ∀ record, after.cache.recordAt? space key = some record →
    record.lastTouch = client.clock.read.2.read.1

theorem Watches.push (watched : Watches client space key after) (command : Command) :
    Watches client space key (after.push command) :=
  ⟨⟨watched.advances.clock, watched.advances.ages⟩, watched.clock, watched.touch⟩

/-- The watcher joins a record that was touched with the second reading of the clock. -/
theorem attach_watches {ready : Client} (clock : ready.clock = client.clock.read.2.read.2)
    (ages : Cache.Ages client.clock.read.1 client.cache ready.cache)
    (touched : ∀ record, ready.cache.recordAt? space key = some record →
      record.lastTouch = client.clock.read.2.read.1) {held : Record}
    (same : held.lastTouch = client.clock.read.2.read.1) (watcher : Option (String × Reaction)) :
    Watches client space key (ready.attach space key held watcher).2.2 where
  advances := by
    have recent : client.clock.read.1 ≤ held.lastTouch := same ▸ client.clock.read_le
    refine ⟨?_, ages.trans (ready.attach_ages space key recent watcher) (Int.le_refl _)⟩
    rw [attach_clock, clock]
    exact Int.le_trans client.clock.read_le client.clock.read.2.read_le
  clock := (ready.attach_clock space key held watcher).trans clock
  touch _ found := ready.recordAt?_attach touched same watcher found

theorem accept_watches (client : Client) (space : NamespaceKey) (key : DocumentKey)
    (watcher : Option (String × Reaction)) :
    Watches client space key (client.accept space key watcher).client := by
  have ages := (client.cache.recordOrNew_ages space key client.clock.read.1).trans
    (Cache.touchRecord_ages space key client.clock.read_le) (Int.le_refl _)
  have touched (record : Record)
      (found : ((client.cache.recordOrNew space key client.clock.read.1).2.2.touchRecord space key
        client.clock.read.2.read.1).recordAt? space key = some record) :
      record.lastTouch = client.clock.read.2.read.1 := by
    rw [Cache.recordAt?_touchRecord, if_pos ⟨rfl, rfl⟩] at found
    obtain ⟨_, _, rfl⟩ := Option.map_eq_some_iff.mp found
    rfl
  unfold accept
  dsimp only
  split
  · exact (attach_watches rfl ages touched rfl watcher).push _
  · exact attach_watches rfl ages touched rfl watcher

theorem perform_watch_watches (client : Client) (space : NamespaceKey) (key : DocumentKey)
    (watcher : Option (String × Reaction)) :
    Watches client space key (client.perform (.watch space key watcher)).2 := by
  have watched : Watches { client with closed := false } space key _ :=
    accept_watches { client with closed := false } space key watcher
  rw [perform, register_accepts rfl]
  exact ⟨⟨watched.advances.clock, watched.advances.ages⟩, watched.clock, watched.touch⟩

/-! ## Other sections -/

theorem unwatch_advances (client : Client) (subscription watcher : UInt32) :
    Advances client (client.unwatch subscription watcher).2 := by
  unfold unwatch
  split
  · exact .refl client
  · next space key record located =>
    refine ⟨Int.le_refl _, Cache.modifyRecord_ages (fun held there => .inl ?_)⟩
    rw [(Cache.located?_eq_some_iff.mp located).2] at there
    cases there
    rfl

/-- Whether a client is closed makes no difference to what the cache answers. -/
theorem isSome_cached_closed (client : Client) (closed : Bool) (space : NamespaceKey)
    (key : DocumentKey) :
    (({ client with closed } : Client).cached space key none).isSome =
      (client.cached space key none).isSome := by
  rw [cached_unpinned, cached_unpinned]
  cases client.cache.recordAt? space key with
  | none => rfl
  | some record =>
    rw [Option.bind_some, Option.bind_some]
    split
    · rw [Option.isSome_map, Option.isSome_map]
    · rfl

theorem beginRead_advances (client : Client) (space : NamespaceKey) (key : DocumentKey)
    (pinned : Option Version) : Advances client (client.beginRead space key pinned).2 := by
  rcases client.beginRead_cases space key pinned with same | ⟨reply, after, found, same⟩
  · rw [same]
    exact .refl client
  · rw [same]
    cases found with
    | latest => exact client.touchAt_advances space key
    | pinned read => exact ⟨client.clock.read_le, Cache.readVersion_ages read⟩

theorem finishRead_advances (client : Client) (pending : PendingRead)
    (response : Except Error ReadResponse) :
    Advances client (client.finishRead pending response).2 := by
  have finished := client.finishesRead pending response
  generalize client.finishRead pending response = result at finished ⊢
  cases finished with
  | leaves => exact .refl client
  | stores resolved =>
    exact ⟨Int.le_trans client.clock.read_le client.clock.read.2.read_le,
      (Cache.resolve_ages resolved).trans (Cache.insertVersion_ages ..) (Int.le_refl _)⟩

/-- A reply that the server removed a subscription touches its record. -/
theorem applyRemoval_advances (client : Client) (id : UInt32) (space : NamespaceKey)
    (key : DocumentKey) : Advances client (client.applyRemoval id space key) := by
  have touched := client.touchAt_advances space key
  rcases client.applyRemoval_cases id space key with done | done <;> rw [done]
  · exact ⟨touched.clock, touched.ages⟩
  · exact ⟨touched.clock, touched.ages.trans (Cache.ages_of_same fun _ _ => rfl) (Int.le_refl _)⟩

theorem applyContent_advances (client : Client) (reply : WatchResponse) (space : NamespaceKey)
    (key : DocumentKey) : Advances client (client.applyContent reply space key).2 := by
  rw [applyContent_stages]
  split
  · exact client.advances_now.trans (changeRecord_advances _ _
      (fun record => (record.updateStatus_answered _).lastTouch))
  · next content cache resolved =>
    have stored : Advances client (client.holding
        (cache.insertVersion space ⟨reply.namespaceId, reply.version⟩ key content
          client.clock.read.2.read.1) client.clock.read.2.read.2) :=
      ⟨Int.le_trans client.clock.read_le client.clock.read.2.read_le,
        (Cache.resolve_ages resolved).trans (Cache.insertVersion_ages ..) (Int.le_refl _)⟩
    exact (stored.trans (touchAt_advances _ space key)).trans (changeRecord_advances _ _
      (fun record => (record.update_answered _ _).lastTouch))

theorem applyReply_advances (client : Client) (reply : WatchResponse) :
    Advances client (client.applyReply reply).2 := by
  unfold applyReply
  split
  · exact .refl client
  · next space key _ =>
    split
    · exact client.applyRemoval_advances reply.uid space key
    · exact client.applyContent_advances reply space key
    · exact (client.touchAt_advances space key).trans (changeRecord_advances _ _
        (fun record => (record.updateStatus_answered _).lastTouch))

theorem sweepAt_advances (client : Client) (moment : Instant) :
    Advances client (client.sweepAt moment) := by
  cases reached : client.clock.before? moment
      client.settings.inactivityThresholdSeconds.toNat with
  | none =>
    rw [sweepAt_unreached reached]
    exact .refl client
  | some limit =>
    rw [sweepAt_eq reached]
    exact ⟨Int.le_refl _, client.cache.cleanup_ages limit⟩

/-- No section but one that sets the clock takes it back, and each touches records at its own time
only. -/
theorem perform_advances (client : Client) {act : Section}
    (free : ∀ clock, act ≠ .setClock clock) : Advances client (client.perform act).2 := by
  cases act with
  | watch space key watcher => exact (client.perform_watch_watches space key watcher).advances
  | unwatch subscription watcher => exact client.unwatch_advances subscription watcher
  | beginRead space key pinned =>
    have read := ({ client with closed := false } : Client).beginRead_advances space key pinned
    exact ⟨read.clock, read.ages⟩
  | finishRead pending response => exact client.finishRead_advances pending response
  | reply reply => exact client.applyReply_advances reply
  | sweep moment => exact client.sweepAt_advances moment
  | setClock clock => exact absurd rfl (free clock)
  | failStream =>
    have afresh : Cache.Ages client.clock.read.1 client.cache client.cache.reset.2 :=
      client.cache.reset_ages
    simp only [perform]
    split
    · next serving =>
      simp only [cancelOutbound, serving]
      exact ⟨Int.le_refl _, afresh⟩
    · next serving =>
      simp only [cancelOutbound, serving]
      exact ⟨Int.le_refl _, afresh⟩
    · exact .refl client
  | finishClose =>
    simp only [perform]
    split
    · exact ⟨Int.le_refl _, client.cache.reset_ages⟩
    · exact .refl client
  | requestStream | openStream | startSweeps | scheduleSweep =>
    simp only [perform]
    split <;> exact ⟨Int.le_refl _, .refl _ _⟩
  | cancelStream =>
    simp only [perform, cancelOutbound]
    split <;> exact ⟨Int.le_refl _, .refl _ _⟩
  | stopStreamWorker =>
    simp only [perform, stopStreamWorker]
    split
    · split <;> exact ⟨Int.le_refl _, .refl _ _⟩
    · exact .refl client
  | stopSweepWorker =>
    simp only [perform, stopSweepWorker]
    split
    · split <;> exact ⟨Int.le_refl _, .refl _ _⟩
    · exact .refl client
  | poll | dropStream | beginClose | note => exact ⟨Int.le_refl _, .refl _ _⟩

theorem perform_clock_le {act : Section}
    (forward : ∀ clock, act = .setClock clock → client.clock.read.1 ≤ clock.read.1) :
    client.clock.read.1 ≤ (client.perform act).2.clock.read.1 := by
  by_cases sets : ∃ clock, act = .setClock clock
  · obtain ⟨clock, rfl⟩ := sets
    exact forward clock rfl
  · exact (client.perform_advances (fun clock same => sets ⟨clock, same⟩)).clock

end Client

/-! ## Runs -/

/-- The moment at which a section used the record of a document: it was a watch of the document, or
an unpinned read that the record answered. -/
def Occurrence.usedAt? (occurrence : Occurrence) (space : NamespaceKey) (key : DocumentKey) :
    Option Instant :=
  match occurrence.act with
  | .watch other document _ =>
    if other = space ∧ document = key then some occurrence.before.clock.read.2.read.1 else none
  | .beginRead other document none =>
    if other = space ∧ document = key ∧ (occurrence.before.cached space key none).isSome then
      some occurrence.before.clock.read.1
    else none
  | _ => none

/-- The clock was not set back. -/
def Forward (history : List Occurrence) : Prop :=
  ∀ occurrence ∈ history, ∀ clock, occurrence.act = .setClock clock →
    occurrence.before.clock.read.1 ≤ clock.read.1

/-- The clock shows no earlier time than some moment, and the record of a document, if there is one,
was not touched before it. -/
structure Client.UsedSince (client : Client) (space : NamespaceKey) (key : DocumentKey)
    (moment : Instant) : Prop where
  clock : moment ≤ client.clock.read.1
  touch : ∀ record, client.cache.recordAt? space key = some record → moment ≤ record.lastTouch

theorem Client.UsedSince.advance {client after : Client} {space : NamespaceKey} {key : DocumentKey}
    {moment : Instant} (used : client.UsedSince space key moment)
    (advances : Advances client after) : after.UsedSince space key moment where
  clock := Int.le_trans used.clock advances.clock
  touch record found := by
    rcases advances.ages.records space key record found with ⟨earlier, there, same⟩ | recent
    · rw [← same]
      exact used.touch earlier there
    · exact Int.le_trans used.clock recent

theorem Occurrence.usedSince {occurrence : Occurrence} {space : NamespaceKey} {key : DocumentKey}
    {moment : Instant} (used : occurrence.usedAt? space key = some moment) :
    occurrence.after.UsedSince space key moment := by
  obtain ⟨client, act⟩ := occurrence
  cases act with
  | watch other document watcher =>
    simp only [usedAt?] at used
    split at used
    · next here =>
      obtain ⟨rfl, rfl⟩ := here
      cases used
      have watched := client.perform_watch_watches other document watcher
      refine ⟨?_, fun record found => Int.le_of_eq (watched.touch record found).symm⟩
      rw [after, watched.clock]
      exact Clock.read_le _
    · cases used
  | beginRead other document pinned =>
    cases pinned with
    | some version => cases used
    | none =>
      simp only [usedAt?] at used
      split at used
      · next here =>
        obtain ⟨rfl, rfl, answered⟩ := here
        cases used
        rw [← client.isSome_cached_closed false] at answered
        obtain ⟨⟨reply, later⟩, cached⟩ := Option.isSome_iff_exists.mp answered
        have read : Occurrence.after ⟨client, .beginRead other document none⟩ =
            client.touchAt other document := by
          simp only [after, Client.perform, Client.beginRead, Client.ensureOpen,
            Bool.false_eq_true, if_false, cached]
          cases Client.lookup cached
          rfl
        rw [read]
        refine ⟨client.clock.read_le, fun record found => ?_⟩
        simp only [Client.touchAt, Client.now] at found
        rw [Cache.recordAt?_touchRecord, if_pos ⟨rfl, rfl⟩] at found
        obtain ⟨_, _, rfl⟩ := Option.map_eq_some_iff.mp found
        exact Int.le_refl _
      · cases used
  | _ => cases used

/-- What was used in a run stays used since, for as long as the clock is not set back. -/
theorem Run.usedSince {start client : Client} {history : List Occurrence}
    (run : Run start history client) (forward : Forward history) {occurrence : Occurrence}
    (member : occurrence ∈ history) {space : NamespaceKey} {key : DocumentKey} {moment : Instant}
    (used : occurrence.usedAt? space key = some moment) :
    client.UsedSince space key moment := by
  induction run with
  | start => cases member
  | @step history client act run ih =>
    rcases List.mem_append.mp member with earlier | last
    · have before := ih (fun other inside => forward other (List.mem_append_left _ inside)) earlier
      by_cases sets : ∃ clock, act = .setClock clock
      · obtain ⟨clock, rfl⟩ := sets
        have onwards := forward ⟨client, .setClock clock⟩
          (List.mem_append_right _ List.mem_cons_self) clock rfl
        exact ⟨Int.le_trans before.clock onwards, before.touch⟩
      · exact before.advance (client.perform_advances (fun clock same => sets ⟨clock, same⟩))
    · obtain rfl := List.mem_singleton.mp last
      exact Occurrence.usedSince used

/-- A sweep removes the idle and nothing else. Of any cache and at any limit it removes the records
without a watcher that were last touched before the limit, each from its namespace and from the
index of ids, and tells the ids of these records, the id of each once; all other records stay the
same, and so do the counter of ids, the generation and the namespaces. As long as a run gives no id
a second time, the ids told are different ones, and the records that stay keep their places in the
index. In no run a sweep removes a record that somebody watches, nor one that was watched, or
answered an unpinned read, at its limit or later, provided that the clock was not set back. -/
theorem sweep_removes_the_idle {start client : Client} {history : List Occurrence}
    (fresh : start.Fresh) (run : Run start history client) :
    (∀ (cache : Cache) (limit : Instant),
      cache.Sweeps limit (cache.cleanup limit).1 (cache.cleanup limit).2) ∧
    ((ledger history client).opened.length < 2 ^ 32 → ∀ limit : Instant,
      (client.cache.cleanup limit).1.Nodup ∧
      ∀ space key record, (client.cache.cleanup limit).2.recordAt? space key = some record →
        (client.cache.cleanup limit).2.bySubscription.get? record.subscription =
          some (space, key)) ∧
    ∀ moment limit : Instant,
      client.clock.before? moment client.settings.inactivityThresholdSeconds.toNat = some limit →
      (client.perform (.sweep moment)).2.cache = (client.cache.cleanup limit).2 ∧
      ∀ space key record, client.cache.recordAt? space key = some record →
        (0 < record.watchers.size ∨ Forward history ∧ ∃ occurrence ∈ history, ∃ used,
          occurrence.usedAt? space key = some used ∧ limit ≤ used) →
        (client.perform (.sweep moment)).2.cache.recordAt? space key = some record := by
  refine ⟨Cache.sweeps_cleanup, fun few limit => ?_, fun moment limit reached => ?_⟩
  · exact (run.balanced fresh few).placed.sweeps limit
  · have swept : (client.perform (.sweep moment)).2.cache = (client.cache.cleanup limit).2 := by
      rw [Client.perform, Client.sweepAt_eq reached]
    refine ⟨swept, fun space key record found reason => ?_⟩
    rw [swept]
    refine (client.cache.sweeps_cleanup limit).keeps space key record found ?_
    rcases reason with watched | ⟨forward, occurrence, member, used, here, recent⟩
    · exact .inl watched
    · exact .inr (Int.le_trans recent ((run.usedSince forward member here).touch record found))

/-- Three documents are watched, the second by nobody, and the third a day later. -/
private def watchingThree : List Section :=
  [.watch { root := "/srv" } { document := "a" } (some ("A", .idle)),
    .watch { root := "/srv" } { document := "b" } none,
    .setClock { elapsed := 86400000 },
    .watch { root := "/srv" } { document := "c" } none]

private theorem forward_watchingThree : Forward (Client.byDefault.occurrences watchingThree) := by
  intro occurrence member clock sets
  simp only [watchingThree, Client.occurrences, List.mem_cons, List.not_mem_nil, or_false] at member
  rcases member with rfl | rfl | rfl | rfl <;> cases sets
  decide +kernel

private theorem records_watchingThree :
    ∃ first second third,
      (Client.byDefault.performAll watchingThree).cache.recordAt? { root := "/srv" }
        { document := "a" } = some first ∧ first.watchers.size = 1 ∧
      (Client.byDefault.performAll watchingThree).cache.recordAt? { root := "/srv" }
        { document := "b" } = some second ∧ second.subscription = 1 ∧
        second.watchers.size = 0 ∧ second.lastTouch = 4 ∧
      (Client.byDefault.performAll watchingThree).cache.recordAt? { root := "/srv" }
        { document := "c" } = some third ∧ third.watchers.size = 0 :=
  ⟨_, _, _, rfl, rfl, rfl, rfl, rfl, rfl, rfl, rfl⟩

/-- The watched document stays, though nobody touched it for a day, and so does the one that was
opened just now. -/
theorem sweep_removes_the_idle_after_a_day :
    ∃ client first third,
      Run Client.byDefault (Client.byDefault.occurrences watchingThree) client ∧
      (client.cache.cleanup 86340000000002).1.Nodup ∧
      (client.perform (.sweep 86400000000002)).2.cache.recordAt? { root := "/srv" }
        { document := "a" } = some first ∧ first.watchers.size = 1 ∧
      (client.perform (.sweep 86400000000002)).2.cache.recordAt? { root := "/srv" }
        { document := "b" } = none ∧
      (client.perform (.sweep 86400000000002)).2.cache.bySubscription.get? 1 = none ∧
      (client.perform (.sweep 86400000000002)).2.cache.recordAt? { root := "/srv" }
        { document := "c" } = some third ∧ third.watchers.size = 0 := by
  have run : Run Client.byDefault (Client.byDefault.occurrences watchingThree)
      (Client.byDefault.performAll watchingThree) := Run.start.performAll watchingThree
  have few : (ledger (Client.byDefault.occurrences watchingThree)
      (Client.byDefault.performAll watchingThree)).opened.length < 2 ^ 32 := by decide +kernel
  obtain ⟨first, second, third, watched, watcher, unwatched, id, alone, old, opened, free⟩ :=
    records_watchingThree
  obtain ⟨sweeps, distinct, keeps⟩ := sweep_removes_the_idle Client.byDefault_fresh run
  obtain ⟨same, stays⟩ := keeps 86400000000002 86340000000002 (by decide +kernel)
  have idle : second.watchers.size = 0 ∧ second.lastTouch < 86340000000002 :=
    ⟨alone, old ▸ by decide⟩
  obtain ⟨gone, unindexed⟩ := (sweeps _ 86340000000002).drops _ _ _ unwatched idle
  have used : ∃ occurrence ∈ Client.byDefault.occurrences watchingThree, ∃ moment,
      occurrence.usedAt? { root := "/srv" } { document := "c" } = some moment ∧
        86340000000002 ≤ moment :=
    ⟨_, .tail _ (.tail _ (.tail _ List.mem_cons_self)), 86400000000002, by decide +kernel,
      by decide⟩
  rw [id] at unindexed
  rw [← same] at gone unindexed
  exact ⟨_, first, third, run, (distinct few _).1,
    stays _ _ _ watched (.inl (watcher ▸ Nat.one_pos)), watcher, gone, unindexed,
    stays _ _ _ opened (.inr ⟨forward_watchingThree, used⟩), free⟩

end ConfigWatch

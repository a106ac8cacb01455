import ConfigWatch.Proofs.Cache.Resolutions

/-!
# Operations that give no number

Most operations make no record and add no watcher. They leave the two counters of a cache and of
its records, and of what has a number they leave all or less, each under the number that it had.
-/

set_option autoImplicit false

namespace ConfigWatch

/-- A later state of a record in which no watcher was added. -/
structure Record.Keeps (earlier later : Record) : Prop where
  next : later.nextWatcher = earlier.nextWatcher
  watchers : ∀ number watcher, later.watchers.get? number = some watcher →
    earlier.watchers.get? number = some watcher

namespace Record

theorem Keeps.refl (record : Record) : record.Keeps record := ⟨rfl, fun _ _ found => found⟩

theorem Keeps.trans {first second third : Record} (left : first.Keeps second)
    (right : second.Keeps third) : first.Keeps third where
  next := right.next.trans left.next
  watchers number watcher found :=
    left.watchers number watcher (right.watchers number watcher found)

theorem Keeps.of_atRest {earlier later : Record} (same : later.atRest = earlier.atRest) :
    earlier.Keeps later := by
  have next : later.atRest.nextWatcher = earlier.atRest.nextWatcher := by rw [same]
  have watchers : later.atRest.watchers = earlier.atRest.watchers := by rw [same]
  refine ⟨next, fun number watcher found => ?_⟩
  have held : later.atRest.watchers.get? number = some watcher := found
  rwa [watchers] at held

theorem update_keeps (version : Version) (content : Content) (record : Record) :
    record.Keeps (record.update version content).2 := by
  unfold update
  split
  · exact Keeps.refl record
  · split
    · exact Keeps.refl record
    · split <;> exact ⟨rfl, fun _ _ found => found⟩

theorem updateStatus_keeps (status : ReplyStatus) (record : Record) :
    record.Keeps (record.updateStatus status).2 := by
  unfold updateStatus
  split
  · exact Keeps.refl record
  · split <;> exact ⟨rfl, fun _ _ found => found⟩

theorem deactivate_keeps (record : Record) : record.Keeps record.deactivate.2 := by
  unfold deactivate
  split
  · exact Keeps.refl record
  · exact ⟨rfl, fun _ _ found => nomatch found⟩

theorem removeWatcher_keeps (number : UInt32) (record : Record) :
    record.Keeps (record.removeWatcher number).2 := by
  refine ⟨rfl, fun other watcher found => ?_⟩
  have erased : (record.watchers.erase number).get? other = some watcher := found
  rw [Table.get?_erase] at erased
  split at erased
  · cases erased
  · exact erased

end Record

/-- A later state of a cache in which nothing got a number. -/
structure Cache.Keeps (earlier later : Cache) : Prop where
  next : later.nextSubscription = earlier.nextSubscription
  index : ∀ id place, later.bySubscription.get? id = some place →
    earlier.bySubscription.get? id = some place
  records : ∀ space key record, later.recordAt? space key = some record →
    ∃ held, earlier.recordAt? space key = some held ∧ held.Keeps record

namespace Cache

theorem Keeps.trans {first second third : Cache} (left : first.Keeps second)
    (right : second.Keeps third) : first.Keeps third where
  next := right.next.trans left.next
  index id place found := left.index id place (right.index id place found)
  records space key record found := by
    obtain ⟨held, there, keeps⟩ := right.records space key record found
    obtain ⟨first, here, keptFirst⟩ := left.records space key held there
    exact ⟨first, here, keptFirst.trans keeps⟩

theorem SameRecords.keeps {earlier later : Cache} (same : SameRecords earlier later) :
    earlier.Keeps later where
  next := same.next
  index id place found := by rwa [← same.subscriptions]
  records space key record found := by
    have rest := same.records space key
    rw [restAt?_eq_some found] at rest
    obtain ⟨held, there, equal⟩ := exists_recordAt? rest.symm
    exact ⟨held, there, .of_atRest equal.symm⟩

theorem modifyRecord_keeps {cache : Cache} {space : NamespaceKey} {key : DocumentKey}
    {change : Record → Record}
    (keeps : ∀ record, cache.recordAt? space key = some record → record.Keeps (change record)) :
    cache.Keeps (cache.modifyRecord space key change) where
  next := rfl
  index _ _ found := found
  records other document record found := by
    rw [recordAt?_modifyRecord] at found
    split at found
    · next here =>
      obtain ⟨rfl, rfl⟩ := here
      obtain ⟨held, there, rfl⟩ := Option.map_eq_some_iff.mp found
      exact ⟨held, there, keeps held there⟩
    · exact ⟨record, found, .refl record⟩

theorem changeRecord_keeps (cache : Cache) (id : UInt32)
    {change : Record → List Notification × Record}
    (keeps : ∀ record : Record, record.Keeps (change record).2) :
    cache.Keeps (cache.changeRecord id change).2 := by
  unfold changeRecord
  split
  · exact (SameRecords.refl cache).keeps
  · next space key record located =>
    refine modifyRecord_keeps (fun held found => ?_)
    rw [(located?_eq_some_iff.mp located).2] at found
    cases found
    exact keeps record

theorem cleanup_keeps (cache : Cache) (limit : Instant) : cache.Keeps (cache.cleanup limit).2 where
  next := rfl
  index id place found := by
    rw [bySubscription_cleanup] at found
    split at found
    · cases found
    · exact found
  records space key record found := by
    have rest := restAt?_cleanup cache limit space key
    rw [restAt?_eq_some found] at rest
    obtain ⟨held, there, equal⟩ := Option.map_eq_some_iff.mp rest.symm
    exact ⟨held, (Option.filter_eq_some_iff.mp there).1, .of_atRest equal.symm⟩

theorem forgetSubscription_keeps (cache : Cache) (id : UInt32) :
    cache.Keeps (cache.forgetSubscription id).2 where
  next := rfl
  index other place found := by
    have erased : (cache.bySubscription.erase id).get? other = some place := found
    rw [Table.get?_erase] at erased
    split at erased
    · cases erased
    · exact erased
  records _ _ record found := ⟨record, found, .refl record⟩

theorem ensureNamespace_keeps (cache : Cache) (space : NamespaceKey) :
    cache.Keeps (cache.ensureNamespace space) where
  next := rfl
  index _ _ found := found
  records other key record found := by
    have placed := recordAt?_setNamespace cache space (cache.namespaceOrNew space) other key
    have same : (cache.ensureNamespace space).recordAt? other key = cache.recordAt? other key := by
      refine placed.trans ?_
      split
      · next same =>
        subst same
        exact namespaceOrNew_get? cache other key
      · rfl
    exact ⟨record, same ▸ found, .refl record⟩

end Cache

/-! ## Scenarios -/

namespace CacheScenario

variable (scenario : CacheScenario)

theorem resolve_keeps {offer : PayloadOffer} {content : Content} {later : CacheScenario}
    (resolved : scenario.resolve offer = .ok (content, later)) :
    scenario.cache.Keeps later.cache := by
  rw [resolve_eq] at resolved
  cases result : (scenario.offered offer).result with
  | error cause =>
    rw [result] at resolved
    cases resolved
  | ok found =>
    rw [result] at resolved
    cases resolved
    exact (Cache.resolve_same result).keeps

theorem changeRecord_keeps (subscription : UInt32) {change : Record → List Notification × Record}
    (keeps : ∀ record : Record, record.Keeps (change record).2) :
    scenario.cache.Keeps (scenario.changeRecord subscription change).2.2.cache := by
  unfold changeRecord
  split
  · exact (Cache.SameRecords.refl scenario.cache).keeps
  · exact Cache.changeRecord_keeps scenario.cache subscription keeps

theorem touchAt_keeps (subscription : UInt32) (moment : Instant) :
    scenario.cache.Keeps (scenario.touchAt subscription moment).2.cache := by
  unfold touchAt
  split
  · exact (Cache.SameRecords.refl scenario.cache).keeps
  · exact (Cache.touchRecord_same ..).keeps

theorem removeWatcher_keeps (subscription watcher : UInt32) :
    scenario.cache.Keeps (scenario.removeWatcher subscription watcher).2.cache := by
  unfold removeWatcher
  split
  · exact (Cache.SameRecords.refl scenario.cache).keeps
  · next space key record located =>
    refine Cache.modifyRecord_keeps (fun held found => ?_)
    rw [(Cache.located?_eq_some_iff.mp located).2] at found
    cases found
    exact record.removeWatcher_keeps watcher

end CacheScenario

end ConfigWatch

import ConfigWatch.Cache.Cleanup
import ConfigWatch.Proofs.Table

/-!
# Records of a cache

What the operations on a cache do to its records and to the index of subscription ids. Most of
them only touch: a touch moves nothing but a time, so records are compared at rest, with the time
of their last touch left out.
-/

set_option autoImplicit false

namespace ConfigWatch

namespace Record

/-- A record without the time of its last touch. -/
def atRest (record : Record) : Record := { record with lastTouch := 0 }

end Record

namespace Cache

/-- The record of a document at rest. -/
def restAt? (cache : Cache) (space : NamespaceKey) (key : DocumentKey) : Option Record :=
  (cache.recordAt? space key).map Record.atRest

theorem restAt?_eq_some {cache : Cache} {space : NamespaceKey} {key : DocumentKey}
    {record : Record} (found : cache.recordAt? space key = some record) :
    cache.restAt? space key = some record.atRest := by
  rw [restAt?, found, Option.map_some]

theorem exists_recordAt? {cache : Cache} {space : NamespaceKey} {key : DocumentKey}
    {rest : Record} (found : cache.restAt? space key = some rest) :
    ∃ record, cache.recordAt? space key = some record ∧ record.atRest = rest :=
  Option.map_eq_some_iff.mp found

theorem recordAt?_modifyRecord (cache : Cache) (space : NamespaceKey) (key : DocumentKey)
    (change : Record → Record) (other : NamespaceKey) (document : DocumentKey) :
    (cache.modifyRecord space key change).recordAt? other document =
      if other = space ∧ document = key then (cache.recordAt? other document).map change
      else cache.recordAt? other document := by
  simp only [recordAt?, modifyRecord, Table.get?_modify]
  by_cases sameSpace : other = space
  · subst sameSpace
    cases cache.namespaces.get? other with
    | none => simp
    | some found => by_cases sameKey : document = key <;> simp [Table.get?_modify, sameKey]
  · simp [sameSpace]

theorem recordAt?_setNamespace (cache : Cache) (space : NamespaceKey) (found : Namespace)
    (other : NamespaceKey) (document : DocumentKey) :
    (cache.setNamespace space found).recordAt? other document =
      if other = space then found.records.get? document
      else cache.recordAt? other document := by
  simp only [recordAt?, setNamespace, Table.get?_insert]
  by_cases same : other = space <;> simp [same]

theorem namespaceOrNew_get? (cache : Cache) (space : NamespaceKey) (key : DocumentKey) :
    (cache.namespaceOrNew space).records.get? key = cache.recordAt? space key := by
  unfold namespaceOrNew recordAt?
  cases cache.namespaces.get? space <;> rfl

theorem located?_eq_some_iff {cache : Cache} {id : UInt32} {space : NamespaceKey}
    {key : DocumentKey} {record : Record} :
    cache.located? id = some (space, key, record) ↔
      cache.bySubscription.get? id = some (space, key) ∧
        cache.recordAt? space key = some record := by
  unfold located?
  cases index : cache.bySubscription.get? id with
  | none => simp
  | some place =>
    obtain ⟨otherSpace, otherKey⟩ := place
    cases found : cache.recordAt? otherSpace otherKey with
    | none =>
      simp only [Option.bind_eq_bind, Option.bind_some, found, Option.bind_none, reduceCtorEq,
        Option.some.injEq, Prod.mk.injEq, false_iff, not_and, and_imp]
      rintro rfl rfl
      simp [found]
    | some held =>
      simp only [Option.bind_eq_bind, Option.bind_some, found, pure, Option.some.injEq,
        Prod.mk.injEq]
      constructor
      · rintro ⟨rfl, rfl, rfl⟩
        exact ⟨⟨rfl, rfl⟩, found⟩
      · rintro ⟨⟨rfl, rfl⟩, same⟩
        rw [found, Option.some.injEq] at same
        exact ⟨rfl, rfl, same⟩

/-! ## Operations that leave every record at rest -/

/-- Two caches with the same records at rest, subscription ids and generation. -/
structure SameRecords (before after : Cache) : Prop where
  records : ∀ space key, after.restAt? space key = before.restAt? space key
  subscriptions : after.bySubscription = before.bySubscription
  next : after.nextSubscription = before.nextSubscription
  generation : after.generation = before.generation

namespace SameRecords

theorem refl (cache : Cache) : SameRecords cache cache := ⟨fun _ _ => rfl, rfl, rfl, rfl⟩

theorem trans {first second third : Cache} (left : SameRecords first second)
    (right : SameRecords second third) : SameRecords first third where
  records space key := (right.records space key).trans (left.records space key)
  subscriptions := right.subscriptions.trans left.subscriptions
  next := right.next.trans left.next
  generation := right.generation.trans left.generation

end SameRecords

theorem touchContent_same (cache : Cache) (content : Content) (now : Instant) :
    SameRecords cache (cache.touchContent content now) := ⟨fun _ _ => rfl, rfl, rfl, rfl⟩

theorem modifyRecord_touch_same (cache : Cache) (space : NamespaceKey) (key : DocumentKey)
    (now : Instant) :
    SameRecords cache
      (cache.modifyRecord space key (fun record => { record with lastTouch := now })) where
  records other document := by
    rw [restAt?, recordAt?_modifyRecord]
    split
    · rw [Option.map_map]
      rfl
    · rfl
  subscriptions := rfl
  next := rfl
  generation := rfl

theorem touchRecord_same (cache : Cache) (space : NamespaceKey) (key : DocumentKey)
    (now : Instant) : SameRecords cache (cache.touchRecord space key now) := by
  unfold touchRecord
  split
  · exact SameRecords.refl cache
  · have touched := modifyRecord_touch_same cache space key now
    split
    · exact touched
    · exact touched.trans (touchContent_same ..)

theorem resolve_same {cache after : Cache} {checksum : Bytes}
    {decode : Unit → Except DecodeError Payload.Decoded} {now : Instant} {content : Content}
    (resolved : cache.resolve checksum decode now = .ok (content, after)) :
    SameRecords cache after := by
  unfold resolve at resolved
  split at resolved
  · cases resolved
    exact touchContent_same ..
  · split at resolved
    · cases resolved
    · cases resolved
      exact ⟨fun _ _ => rfl, rfl, rfl, rfl⟩

theorem insertVersion_same (cache : Cache) (space : NamespaceKey) (version : Version)
    (key : DocumentKey) (content : Content) (now : Instant) :
    SameRecords cache (cache.insertVersion space version key content now) where
  records other document := by
    rw [restAt?, insertVersion, recordAt?_setNamespace]
    split
    · next same =>
      subst same
      exact congrArg (Option.map Record.atRest) (namespaceOrNew_get? cache other document)
    · rfl
  subscriptions := rfl
  next := rfl
  generation := rfl

theorem readVersion_same {cache after : Cache} {space : NamespaceKey} {version : Version}
    {key : DocumentKey} {now : Instant} {content : Content}
    (found : cache.readVersion space version key now = some (content, after)) :
    SameRecords cache after := by
  obtain ⟨held, _, same⟩ := Option.map_eq_some_iff.mp found
  cases same
  refine ⟨fun other document => ?_, rfl, rfl, rfl⟩
  simp only [restAt?, recordAt?, Table.get?_modify]
  split
  · cases cache.namespaces.get? other <;> rfl
  · rfl

theorem trim_same (cache : Cache) : SameRecords cache cache.trim := ⟨fun _ _ => rfl, rfl, rfl, rfl⟩

theorem prune_same (cache : Cache) (limit : Instant) : SameRecords cache (cache.prune limit) where
  records other document := by
    simp only [restAt?, recordAt?, prune, Table.get?_mapValues]
    cases cache.namespaces.get? other <;> rfl
  subscriptions := rfl
  next := rfl
  generation := rfl

/-! ## Sweeps and resets -/

theorem recordAt?_dropIdle (cache : Cache) (limit : Instant) (space : NamespaceKey)
    (key : DocumentKey) :
    (cache.dropIdle limit).recordAt? space key =
      (cache.recordAt? space key).filter (fun record => !record.isIdle limit) := by
  simp only [recordAt?, dropIdle, Table.get?_mapValues]
  cases cache.namespaces.get? space with
  | none => rfl
  | some found => simp [Namespace.dropIdle, Table.get?_filter]

theorem restAt?_cleanup (cache : Cache) (limit : Instant) (space : NamespaceKey)
    (key : DocumentKey) :
    (cache.cleanup limit).2.restAt? space key =
      ((cache.recordAt? space key).filter (fun record => !record.isIdle limit)).map
        Record.atRest := by
  have same := (trim_same (cache.dropIdle limit)).trans (prune_same _ limit)
  rw [← recordAt?_dropIdle]
  exact same.records space key

/-- The records of a cache, namespace by namespace. -/
def records (cache : Cache) : List Record :=
  cache.namespaces.values.flatMap (fun found => found.records.values)

theorem mem_records_iff {cache : Cache} {record : Record} :
    record ∈ cache.records ↔ ∃ space key, cache.recordAt? space key = some record := by
  simp only [records, List.mem_flatMap, Table.mem_values_iff, recordAt?, Option.bind_eq_some_iff]
  constructor
  · rintro ⟨found, ⟨space, here⟩, key, there⟩
    exact ⟨space, key, found, here, there⟩
  · rintro ⟨space, key, found, here, there⟩
    exact ⟨found, ⟨space, here⟩, key, there⟩

theorem records_pairwise {cache : Cache} {related : Record → Record → Prop}
    (relates : ∀ space key left other document right, cache.recordAt? space key = some left →
      cache.recordAt? other document = some right → (space, key) ≠ (other, document) →
        related left right) :
    cache.records.Pairwise related := by
  refine List.pairwise_flatMap.mpr ⟨fun found member => ?_, Table.values_pairwise ?_⟩
  · obtain ⟨space, here⟩ := Table.mem_values_iff.mp member
    refine Table.values_pairwise (fun key left document right leftFound rightFound differ => ?_)
    refine relates space key left space document right ?_ ?_ (by simp [differ])
    · simp [recordAt?, here, leftFound]
    · simp [recordAt?, here, rightFound]
  · intro space left other right leftHere rightHere differ leftRecord leftHeld rightRecord rightHeld
    obtain ⟨key, leftFound⟩ := Table.mem_values_iff.mp leftHeld
    obtain ⟨document, rightFound⟩ := Table.mem_values_iff.mp rightHeld
    refine relates space key leftRecord other document rightRecord ?_ ?_ (by simp [differ])
    · simp [recordAt?, leftHere, leftFound]
    · simp [recordAt?, rightHere, rightFound]

theorem idleSubscriptions_eq (cache : Cache) (limit : Instant) :
    cache.idleSubscriptions limit =
      sortIds ((cache.records.filter (fun record => record.isIdle limit)).map
        Record.subscription) := by
  rw [records, List.filter_flatMap, List.map_flatMap]
  rfl

theorem mem_idleSubscriptions_iff {cache : Cache} {limit : Instant} {id : UInt32} :
    id ∈ cache.idleSubscriptions limit ↔ ∃ space key record,
      cache.recordAt? space key = some record ∧ record.isIdle limit = true ∧
        record.subscription = id := by
  simp only [idleSubscriptions_eq, sortIds, List.mem_mergeSort, List.mem_map, List.mem_filter,
    mem_records_iff]
  constructor
  · rintro ⟨record, ⟨⟨space, key, found⟩, idle⟩, same⟩
    exact ⟨space, key, record, found, idle, same⟩
  · rintro ⟨space, key, record, found, idle, same⟩
    exact ⟨record, ⟨⟨space, key, found⟩, idle⟩, same⟩

theorem bySubscription_cleanup (cache : Cache) (limit : Instant) (id : UInt32) :
    (cache.cleanup limit).2.bySubscription.get? id =
      if id ∈ cache.idleSubscriptions limit then none else cache.bySubscription.get? id := by
  have dropped : (cache.cleanup limit).2.bySubscription = cache.bySubscription.filter
      (fun id _ => !(cache.idleSubscriptions limit).contains id) := rfl
  rw [dropped, Table.get?_filter]
  by_cases member : id ∈ cache.idleSubscriptions limit <;>
    cases cache.bySubscription.get? id <;> simp [member]

theorem reset_notifications (cache : Cache) :
    cache.reset.1 = cache.records.flatMap (fun record => record.deactivate.1) := by
  simp only [reset, records, List.flatMap_assoc]

end Cache

end ConfigWatch

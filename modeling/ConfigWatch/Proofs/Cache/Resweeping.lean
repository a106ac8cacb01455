import ConfigWatch.Proofs.Cache.Pruning
import ConfigWatch.Proofs.Cache.Sweeping
import ConfigWatch.Proofs.Client.Evictions

/-!
# Sweeps that were missed

A sweep does what a sweep before it at an earlier limit did, and what is left to do. So it makes no
difference to the cache whether there was one, and the two remove the records that the later alone
removes.
-/

set_option autoImplicit false

namespace ConfigWatch

variable {earlier later : Instant}

theorem Record.isIdle_mono (order : earlier ≤ later) {record : Record}
    (idle : record.isIdle earlier = true) : record.isIdle later = true := by
  rw [isIdle_eq_true_iff] at idle ⊢
  exact ⟨idle.1, Int.lt_of_lt_of_le idle.2 order⟩

theorem Record.not_isIdle_mono (order : earlier ≤ later) {record : Record}
    (busy : (!record.isIdle later) = true) : (!record.isIdle earlier) = true := by
  rw [Bool.not_eq_true'] at busy ⊢
  rw [← Bool.not_eq_true] at busy ⊢
  exact fun idle => busy (isIdle_mono order idle)

/-! ## Namespaces -/

namespace Namespace

theorem dropIdle_dropIdle (order : earlier ≤ later) (space : Namespace) :
    (space.dropIdle earlier).dropIdle later = space.dropIdle later := by
  simp only [dropIdle]
  rw [Table.filter_filter_of_imp]
  intro _ _ busy
  exact Record.not_isIdle_mono order busy

theorem HoldsVersion.of_dropIdle (order : earlier ≤ later) {space : Namespace} {version : Version}
    {key : DocumentKey} (held : (space.dropIdle later).HoldsVersion version key) :
    (space.dropIdle earlier).HoldsVersion version key := by
  obtain ⟨record, content, found, latest⟩ := held
  rw [dropIdle, Table.get?_filter, Option.filter_eq_some_iff] at found
  refine ⟨record, content, ?_, latest⟩
  rw [dropIdle, Table.get?_filter, Option.filter_eq_some_iff]
  exact ⟨found.1, Record.not_isIdle_mono order found.2⟩

theorem isHeld_congr {space other : Namespace} (same : space.records = other.records)
    (version : Version) (key : DocumentKey) :
    space.isHeld version key = other.isHeld version key := by
  rw [isHeld, isHeld, same]

/-- In a namespace a sweep absorbs a sweep at an earlier limit. What it keeps of the versions the
earlier one has kept, since that had no fewer records to hold them. -/
theorem resweep (order : earlier ≤ later) (space : Namespace)
    {first second : VersionEntry → Bool}
    (wider : ∀ entry, second entry = true → first entry = true) :
    (((space.dropIdle earlier).prune first).dropIdle later).prune second =
      (space.dropIdle later).prune second := by
  have same := congrArg Namespace.records (dropIdle_dropIdle order space)
  have records : (((space.dropIdle earlier).prune first).dropIdle later).records =
      (space.dropIdle later).records := same
  have versions : (space.versions.filter
      (fun key entry => (space.dropIdle earlier).isHeld key.1 key.2 || first entry)).filter
        (fun key entry => (space.dropIdle later).isHeld key.1 key.2 || second entry) =
      space.versions.filter
        (fun key entry => (space.dropIdle later).isHeld key.1 key.2 || second entry) := by
    apply Table.filter_filter_of_imp
    intro key entry keeps
    rw [Bool.or_eq_true] at keeps ⊢
    rcases keeps with held | recent
    · exact .inl (isHeld_eq_true_iff.mpr ((isHeld_eq_true_iff.mp held).of_dropIdle order))
    · exact .inr (wider entry recent)
  change Namespace.mk _ _ _ = Namespace.mk _ _ _
  rw [Namespace.mk.injEq]
  refine ⟨rfl, records, ?_⟩
  simp only [isHeld_congr records]
  exact versions

end Namespace

/-! ## Caches -/

namespace Cache

variable {cache : Cache}

theorem records_prune (cache : Cache) (limit : Instant) :
    (cache.prune limit).records = cache.records := by
  simp only [records, prune, Table.values_mapValues, List.flatMap_map]
  rfl

theorem records_dropIdle (cache : Cache) (limit : Instant) :
    (cache.dropIdle limit).records = cache.records.filter (fun record => !record.isIdle limit) := by
  simp only [records, dropIdle, Table.values_mapValues, List.flatMap_map, List.filter_flatMap]
  have busy (space : Namespace) : (space.dropIdle limit).records.values =
      space.records.values.filter (fun record => !record.isIdle limit) := by
    rw [Namespace.dropIdle, Table.values, Table.values, List.filter_map]
    rfl
  simp only [busy]

/-- The ids that two sweeps tell, the second at a later limit, are those that the second would have
told alone. -/
theorem perm_idleSubscriptions (order : earlier ≤ later) {after : Cache}
    (left : after.records = cache.records.filter (fun record => !record.isIdle earlier)) :
    (cache.idleSubscriptions earlier ++ after.idleSubscriptions later).Perm
      (cache.idleSubscriptions later) := by
  have sorted (ids : List UInt32) : (sortIds ids).Perm ids := List.mergeSort_perm _ _
  let idle := cache.records.filter (fun record => record.isIdle later)
  have before : cache.records.filter (fun record => record.isIdle earlier) =
      idle.filter (fun record => record.isIdle earlier) := by
    rw [List.filter_filter]
    apply List.filter_congr
    intro record _
    cases gone : record.isIdle earlier with
    | false => rfl
    | true => exact (Record.isIdle_mono order gone).symm
  have since : after.records.filter (fun record => record.isIdle later) =
      idle.filter (fun record => !record.isIdle earlier) := by
    rw [left, List.filter_filter, List.filter_filter]
    apply List.filter_congr
    intro record _
    exact Bool.and_comm _ _
  rw [idleSubscriptions_eq, idleSubscriptions_eq, idleSubscriptions_eq, before, since]
  apply ((sorted _).append (sorted _)).trans
  rw [← List.map_append]
  exact ((List.filter_append_perm _ idle).map Record.subscription).trans (sorted _).symm

theorem excess_trimBy {order : List (Bytes × Content)} (sorted : cache.ByAge order) :
    (cache.trimBy order).excess = 0 := by
  have target : (cache.trimBy order).trimTarget = cache.trimTarget := rfl
  have capacity : (cache.trimBy order).capacity = cache.capacity := rfl
  rw [excess, sorted.size_trimBy, target, capacity]
  by_cases within : cache.byChecksum.size ≤ cache.capacity
  · rw [excess_within within]
    exact if_pos within
  · rw [excess_above (Nat.not_le.mp within)]
    split
    · rfl
    · omega

theorem trimBy_of_excess (none : cache.excess = 0) (order : List (Bytes × Content)) :
    cache.trimBy order = cache := by
  have same : (cache.trimBy order).byChecksum = cache.byChecksum := by
    rw [trimBy, none]
    apply Table.ext_entries
    exact List.filter_eq_self.mpr (fun _ _ => rfl)
  change { cache with byChecksum := (cache.trimBy order).byChecksum } = cache
  rw [same]

theorem namespaces_sweepBy (cache : Cache) (limit : Instant) (order : List (Bytes × Content)) :
    (cache.sweepBy limit order).namespaces = cache.namespaces.mapValues (fun _ space =>
      (space.dropIdle limit).prune (fun entry =>
        (cache.trimBy order).byChecksum.contains entry.content.checksum &&
          decide (limit ≤ entry.lastTouch))) := by
  simp only [sweepBy, prune, trimBy, dropIdle, Table.mapValues_mapValues]
  rfl

theorem records_sweepBy (cache : Cache) (limit : Instant) (order : List (Bytes × Content)) :
    (cache.sweepBy limit order).records =
      cache.records.filter (fun record => !record.isIdle limit) := by
  rw [sweepBy, records_prune, ← records_dropIdle]
  rfl

/-- A sweep absorbs a sweep at an earlier limit. It finds the index trimmed, so that the order in
which it would trim has no effect. -/
theorem sweepBy_sweepBy (order : earlier ≤ later) {first : List (Bytes × Content)}
    (sorted : cache.ByAge first) (second : List (Bytes × Content)) :
    (cache.sweepBy earlier first).sweepBy later second = cache.sweepBy later first := by
  have settled : (cache.sweepBy earlier first).excess = 0 := cache.excess_trimBy sorted
  have index : ((cache.sweepBy earlier first).trimBy second).byChecksum =
      (cache.trimBy first).byChecksum := by
    rw [trimBy_of_excess settled]
    rfl
  have namespaces : ((cache.sweepBy earlier first).sweepBy later second).namespaces =
      (cache.sweepBy later first).namespaces := by
    rw [namespaces_sweepBy, namespaces_sweepBy, namespaces_sweepBy, Table.mapValues_mapValues,
      index]
    congr 1
    funext _ space
    apply space.resweep order
    intro entry keeps
    rw [Bool.and_eq_true, decide_eq_true_eq] at keeps ⊢
    exact ⟨keeps.1, Int.le_trans order keeps.2⟩
  have told := perm_idleSubscriptions order (cache.records_sweepBy earlier first)
  have subscriptions : ((cache.sweepBy earlier first).sweepBy later second).bySubscription =
      (cache.sweepBy later first).bySubscription := by
    apply Table.ext_entries
    refine (List.filter_filter ..).trans (List.filter_congr ?_)
    intro entry _
    rw [Bool.eq_iff_iff]
    simp only [Bool.and_eq_true, Bool.not_eq_true', ← Bool.not_eq_true, List.contains_iff_mem,
      ← told.mem_iff, List.mem_append, not_or]
    exact and_comm
  change Cache.mk _ _ _ _ _ _ _ = Cache.mk _ _ _ _ _ _ _
  rw [Cache.mk.injEq]
  exact ⟨namespaces, subscriptions, index, rfl, rfl, rfl, rfl⟩

/-- What a sweep may come to: it tells the ids of the records that it removes in some order, and
goes through the indexed contents in some order of their ages. -/
structure SweepsTo (cache : Cache) (limit : Instant) (ids : List UInt32) (after : Cache) :
    Prop where
  ids : ids.Perm (cache.idleSubscriptions limit)
  after : ∃ order, cache.ByAge order ∧ after = cache.sweepBy limit order

theorem sweepsTo_cleanup (cache : Cache) (limit : Instant) :
    cache.SweepsTo limit (cache.cleanup limit).1 (cache.cleanup limit).2 :=
  ⟨.refl _, _, cache.byAge_entriesByAge, cache.cleanup_eq limit⟩

theorem SweepsTo.told {ids : List UInt32} {after : Cache}
    (swept : cache.SweepsTo earlier ids after) (order : earlier ≤ later) :
    (cache.idleSubscriptions earlier ++ after.idleSubscriptions later).Perm
      (cache.idleSubscriptions later) := by
  obtain ⟨sequence, _, rfl⟩ := swept.after
  exact perm_idleSubscriptions order (cache.records_sweepBy earlier sequence)

theorem SweepsTo.absorbed {first second ids : List UInt32} {middle after single : Cache}
    (begun : cache.SweepsTo earlier first middle) (again : middle.SweepsTo later second after)
    (alone : cache.SweepsTo later ids single) (order : earlier ≤ later)
    (apart : cache.TouchedApart) : after = single ∧ (first ++ second).Perm ids := by
  constructor
  · obtain ⟨sequence, sorted, rfl⟩ := begun.after
    obtain ⟨rest, _, rfl⟩ := again.after
    obtain ⟨other, ages, rfl⟩ := alone.after
    rw [sweepBy_sweepBy order sorted, sorted.unique ages apart]
  · exact ((begun.ids.append again.ids).trans (begun.told order)).trans alone.ids.symm

theorem cleanup_cleanup (order : earlier ≤ later) (cache : Cache) :
    ((cache.cleanup earlier).2.cleanup later).2 = (cache.cleanup later).2 := by
  rw [cleanup_eq _ later, cleanup_eq _ earlier, cleanup_eq _ later]
  exact sweepBy_sweepBy order cache.byAge_entriesByAge _

theorem cleanup_again (cache : Cache) (limit : Instant) :
    (cache.cleanup limit).2.cleanup limit = ([], (cache.cleanup limit).2) := by
  apply Prod.ext
  · have told := (cache.sweepsTo_cleanup limit).told (Int.le_refl limit)
    have length := told.length_eq
    rw [List.length_append, Nat.add_eq_left, List.length_eq_zero_iff] at length
    exact length
  · exact cleanup_cleanup (Int.le_refl limit) cache

end Cache

/-- Missed sweeps do not matter. Of any cache whose contents were touched at different times, a
sweep at some limit and then one at a later limit leave what the later one alone leaves, in whatever
order each goes through the contents, and together they tell the ids that it alone tells, each as
often. So a sweep that is repeated tells no ids and changes nothing. In a run that does not set the
clock back the contents were touched at different times; and as long as it gives no id a second
time, no id is told twice. -/
theorem missed_sweeps_do_not_matter {start client : Client} {history : List Occurrence}
    (fresh : start.Fresh) (run : Run start history client) :
    (∀ cache : Cache, cache.TouchedApart → ∀ earlier later : Instant, earlier ≤ later →
      ∀ first middle second after ids single, cache.SweepsTo earlier first middle →
        middle.SweepsTo later second after → cache.SweepsTo later ids single →
          after = single ∧ (first ++ second).Perm ids) ∧
    (∀ (cache : Cache) (earlier later : Instant), earlier ≤ later →
      ((cache.cleanup earlier).2.cleanup later).2 = (cache.cleanup later).2 ∧
      ((cache.cleanup earlier).1 ++ ((cache.cleanup earlier).2.cleanup later).1).Perm
        (cache.cleanup later).1) ∧
    (∀ (cache : Cache) (limit : Instant),
      (cache.cleanup limit).2.cleanup limit = ([], (cache.cleanup limit).2)) ∧
    (Forward history → client.cache.TouchedApart) ∧
    ((ledger history client).opened.length < 2 ^ 32 → ∀ limit ids after,
      client.cache.SweepsTo limit ids after → ids.Nodup) := by
  refine ⟨?_, ?_, Cache.cleanup_again, run.touchedApart fresh, ?_⟩
  · intro cache apart earlier later order first middle second after ids single begun again alone
    exact begun.absorbed again alone order apart
  · intro cache earlier later order
    exact ⟨Cache.cleanup_cleanup order cache, (cache.sweepsTo_cleanup earlier).told order⟩
  · intro few limit ids after swept
    have placed := (run.balanced fresh few).placed
    exact swept.ids.nodup_iff.mpr (placed.idleSubscriptions_nodup limit)

/-- Two documents are watched by nobody, the second later. -/
private def openingTwo : List Section :=
  [.watch { root := "/srv" } { document := "a" } none,
    .watch { root := "/srv" } { document := "b" } none]

private theorem forward_openingTwo : Forward (Client.byDefault.occurrences openingTwo) := by
  intro occurrence member clock sets
  simp only [openingTwo, Client.occurrences, List.mem_cons, List.not_mem_nil, or_false] at member
  rcases member with rfl | rfl <;> cases sets

/-- A first sweep removes one of the documents and a second the other; without the first the second
removes both. -/
theorem missed_sweeps_do_not_matter_of_two :
    let cache := (Client.byDefault.performAll openingTwo).cache
    let swept := (cache.cleanup 3).2
    cache.TouchedApart ∧ swept.cleanup 3 = ([], swept) ∧ (cache.cleanup 3).1.Perm [0] ∧
      (swept.cleanup 5).1.Perm [1] ∧ (swept.cleanup 5).2 = (cache.cleanup 5).2 ∧
      ((cache.cleanup 3).1 ++ (swept.cleanup 5).1).Perm [0, 1] ∧ (cache.cleanup 5).1.Nodup := by
  intro cache swept
  have run : Run Client.byDefault (Client.byDefault.occurrences openingTwo)
      (Client.byDefault.performAll openingTwo) := Run.start.performAll openingTwo
  obtain ⟨absorbs, _, again, always, distinct⟩ :=
    missed_sweeps_do_not_matter Client.byDefault_fresh run
  have apart := always forward_openingTwo
  obtain ⟨same, together⟩ := absorbs cache apart 3 5 (by decide) _ _ _ _ _ _
    (cache.sweepsTo_cleanup 3) (swept.sweepsTo_cleanup 5) (cache.sweepsTo_cleanup 5)
  have sorted (ids : List UInt32) : (Cache.sortIds ids).Perm ids := List.mergeSort_perm _ _
  refine ⟨apart, again cache 3, sorted [0], sorted [1], same,
    together.trans (sorted [0, 1]), ?_⟩
  exact distinct (by decide +kernel) 5 _ _ (cache.sweepsTo_cleanup 5)

end ConfigWatch

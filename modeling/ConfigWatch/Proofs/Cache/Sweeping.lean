import ConfigWatch.Proofs.Client.Coherence

/-!
# What a sweep removes

A sweep removes the records that nobody watches and that were not touched since its limit, each from
its namespace and from the index of subscription ids, and tells their ids. A record that it leaves
is the same down to the time of its last touch.
-/

set_option autoImplicit false

namespace ConfigWatch

theorem Record.isIdle_eq_true_iff {record : Record} {limit : Instant} :
    record.isIdle limit = true ↔ record.watchers.size = 0 ∧ record.lastTouch < limit := by
  rw [isIdle, Bool.and_eq_true, beq_iff_eq, decide_eq_true_eq]

namespace Cache

theorem recordAt?_prune (cache : Cache) (limit : Instant) (space : NamespaceKey)
    (key : DocumentKey) : (cache.prune limit).recordAt? space key = cache.recordAt? space key := by
  simp only [recordAt?, prune, Table.get?_mapValues]
  cases cache.namespaces.get? space <;> rfl

theorem recordAt?_cleanup (cache : Cache) (limit : Instant) (space : NamespaceKey)
    (key : DocumentKey) :
    (cache.cleanup limit).2.recordAt? space key =
      (cache.recordAt? space key).filter (fun record => !record.isIdle limit) := by
  rw [← recordAt?_dropIdle, cleanup, recordAt?_prune]
  rfl

/-- What a sweep comes to: the records that are idle at its limit leave, with their ids, and all
others stay as they are. -/
structure Sweeps (cache : Cache) (limit : Instant) (ids : List UInt32) (after : Cache) : Prop where
  drops : ∀ space key record, cache.recordAt? space key = some record →
    record.watchers.size = 0 ∧ record.lastTouch < limit →
      after.recordAt? space key = none ∧ after.bySubscription.get? record.subscription = none
  keeps : ∀ space key record, cache.recordAt? space key = some record →
    0 < record.watchers.size ∨ limit ≤ record.lastTouch →
      after.recordAt? space key = some record
  vacant : ∀ space key, cache.recordAt? space key = none → after.recordAt? space key = none
  removed : ids.Perm ((cache.records.filter (fun record => record.isIdle limit)).map
    Record.subscription)
  index : ∀ id, after.bySubscription.get? id =
    if id ∈ ids then none else cache.bySubscription.get? id
  next : after.nextSubscription = cache.nextSubscription
  generation : after.generation = cache.generation
  namespaces : ∀ space, after.namespaces.contains space = cache.namespaces.contains space

theorem sweeps_cleanup (cache : Cache) (limit : Instant) :
    cache.Sweeps limit (cache.cleanup limit).1 (cache.cleanup limit).2 where
  drops space key record found unused := by
    have idle := Record.isIdle_eq_true_iff.mpr unused
    have member : record.subscription ∈ cache.idleSubscriptions limit :=
      mem_idleSubscriptions_iff.mpr ⟨space, key, record, found, idle, rfl⟩
    rw [recordAt?_cleanup, found, bySubscription_cleanup, if_pos member]
    simp [idle]
  keeps space key record found used := by
    have busy : record.isIdle limit = false := by
      rw [← Bool.not_eq_true, Record.isIdle_eq_true_iff]
      rcases used with watched | recent
      · exact fun idle => Nat.ne_of_gt watched idle.1
      · exact fun idle => (Int.not_lt.mpr recent) idle.2
    rw [recordAt?_cleanup, found]
    simp [busy]
  vacant space key absent := by
    rw [recordAt?_cleanup, absent, Option.filter_none]
  removed := by
    rw [cleanup, idleSubscriptions_eq]
    exact List.mergeSort_perm _ _
  index id := bySubscription_cleanup cache limit id
  next := rfl
  generation := rfl
  namespaces space := by
    simp only [cleanup, prune, trim, dropIdle, Table.contains_mapValues]

/-- While every record is at the place of its id, a sweep tells no id twice, and takes no id away
from a record that it leaves. -/
theorem Placed.sweeps {cache : Cache} (placed : cache.Placed) (limit : Instant) :
    (cache.cleanup limit).1.Nodup ∧
      ∀ space key record, (cache.cleanup limit).2.recordAt? space key = some record →
        (cache.cleanup limit).2.bySubscription.get? record.subscription = some (space, key) :=
  ⟨placed.idleSubscriptions_nodup limit, fun _ _ _ found => (placed.cleanup limit).index found⟩

end Cache

end ConfigWatch

import ConfigWatch.Proofs.Cache.Catalogue
import ConfigWatch.Proofs.Decimal.Exactness
import Mathlib.Algebra.GroupWithZero.Nat

/-!
# How the index of checksums is trimmed

A sweep that finds more contents indexed than the capacity allows leaves three quarters of the
capacity, and those are the contents that were touched last. While no two contents were touched at
one moment there is only one such choice, in whatever order the contents are gone through.
-/

set_option autoImplicit false

namespace ConfigWatch.Cache

variable {cache : Cache}

theorem trimTarget_eq (small : cache.capacity < 2 ^ 50) :
    cache.trimTarget = cache.capacity * 3 / 4 := by
  apply Double.floor_threeQuarters
  · omega
  · decide
  · decide

/-- No two indexed contents were last touched at one moment. -/
def TouchedApart (cache : Cache) : Prop :=
  ∀ checksum content other found, cache.byChecksum.get? checksum = some content →
    cache.byChecksum.get? other = some found →
    cache.contentTouch content = cache.contentTouch found → checksum = other

/-- An order that a sort by age may leave the indexed contents in, the one touched first in front.
Of contents that were touched at one moment any may come before the other. -/
structure ByAge (cache : Cache) (order : List (Bytes × Content)) : Prop where
  perm : order.Perm cache.byChecksum.entries
  ages : order.Pairwise (fun left right =>
    cache.contentTouch left.2 ≤ cache.contentTouch right.2)

def entriesByAge (cache : Cache) : List (Bytes × Content) :=
  cache.byChecksum.entries.mergeSort (fun left right =>
    decide (cache.contentTouch left.2 ≤ cache.contentTouch right.2))

theorem byAge_entriesByAge (cache : Cache) : cache.ByAge cache.entriesByAge := by
  constructor
  case perm => exact List.mergeSort_perm _ _
  case ages =>
    let older (left right : Bytes × Content) : Bool :=
      decide (cache.contentTouch left.2 ≤ cache.contentTouch right.2)
    have trans (first second third : Bytes × Content) (left : older first second = true)
        (right : older second third = true) : older first third = true :=
      decide_eq_true (Int.le_trans (of_decide_eq_true left) (of_decide_eq_true right))
    have total (first second : Bytes × Content) :
        (older first second || older second first) = true := by
      rw [Bool.or_eq_true, decide_eq_true_eq, decide_eq_true_eq]
      exact Int.le_total _ _
    have sorted := List.pairwise_mergeSort trans total cache.byChecksum.entries
    exact sorted.imp of_decide_eq_true

theorem ByAge.unique {order other : List (Bytes × Content)} (sorted : cache.ByAge order)
    (again : cache.ByAge other) (apart : cache.TouchedApart) : order = other := by
  have perm := sorted.perm.trans again.perm.symm
  apply perm.eq_of_pairwise ?_ sorted.ages again.ages
  intro left right leftMember rightMember before after
  have here := Table.get?_eq_some_iff.mpr (sorted.perm.subset leftMember)
  have there := Table.get?_eq_some_iff.mpr (again.perm.subset rightMember)
  have key := apart left.1 left.2 right.1 right.2 here there (Int.le_antisymm before after)
  rw [key, there, Option.some.injEq] at here
  exact Prod.ext key here.symm

/-- How many contents a trim drops. -/
def excess (cache : Cache) : Nat :=
  if cache.byChecksum.size ≤ cache.capacity then 0 else cache.byChecksum.size - cache.trimTarget

/-- The second stage of a sweep, with the indexed contents in some order: the first ones go. -/
def trimBy (cache : Cache) (order : List (Bytes × Content)) : Cache :=
  { cache with byChecksum := cache.byChecksum.filter (fun checksum _ =>
      !((order.take cache.excess).map Prod.fst).contains checksum) }

theorem trim_eq (cache : Cache) : cache.trim = cache.trimBy cache.entriesByAge := by
  have dropped : cache.trimmedChecksums =
      (cache.entriesByAge.take cache.excess).map Prod.fst := by
    rw [trimmedChecksums, excess]
    split
    · rfl
    · exact List.map_take.symm
  rw [trim, dropped, trimBy]

theorem trimBy_eq {order : List (Bytes × Content)} (sorted : cache.ByAge order)
    (apart : cache.TouchedApart) : cache.trimBy order = cache.trim := by
  rw [trim_eq, sorted.unique cache.byAge_entriesByAge apart]

/-- A sweep that goes through the indexed contents in some order. -/
def sweepBy (cache : Cache) (limit : Instant) (order : List (Bytes × Content)) : Cache :=
  ((cache.dropIdle limit).trimBy order).prune limit

theorem cleanup_eq (cache : Cache) (limit : Instant) :
    (cache.cleanup limit).2 = cache.sweepBy limit cache.entriesByAge := by
  rw [cleanup, sweepBy, trim_eq]
  rfl

/-! ## What is left -/

private theorem filter_untaken {order : List (Bytes × Content)}
    (distinct : (order.map Prod.fst).Nodup) (count : Nat) :
    order.filter (fun entry => !((order.take count).map Prod.fst).contains entry.1) =
      order.drop count := by
  have split : (order.take count).map Prod.fst ++ (order.drop count).map Prod.fst =
      order.map Prod.fst := by
    rw [← List.map_append, List.take_append_drop]
  rw [← split, List.nodup_append] at distinct
  obtain ⟨_, _, apart⟩ := distinct
  conv => lhs; arg 2; rw [← List.take_append_drop count order]
  rw [List.filter_append]
  have gone : (order.take count).filter
      (fun entry => !((order.take count).map Prod.fst).contains entry.1) = [] := by
    rw [List.filter_eq_nil_iff]
    intro entry member
    rw [List.contains_iff_mem.mpr (List.mem_map_of_mem member)]
    decide
  have stays : (order.drop count).filter
      (fun entry => !((order.take count).map Prod.fst).contains entry.1) = order.drop count := by
    rw [List.filter_eq_self]
    intro entry member
    have untaken : entry.1 ∉ (order.take count).map Prod.fst := by
      intro taken
      exact apart _ taken _ (List.mem_map_of_mem member) rfl
    simpa using untaken
  rw [gone, stays, List.nil_append]

theorem ByAge.left {order : List (Bytes × Content)} (sorted : cache.ByAge order) :
    (cache.trimBy order).byChecksum.entries.Perm (order.drop cache.excess) := by
  have distinct : (order.map Prod.fst).Nodup :=
    (sorted.perm.map Prod.fst).nodup_iff.mpr cache.byChecksum.keys_nodup
  rw [← filter_untaken distinct]
  exact sorted.perm.symm.filter _

theorem excess_within (within : cache.byChecksum.size ≤ cache.capacity) : cache.excess = 0 :=
  if_pos within

theorem excess_above (full : cache.capacity < cache.byChecksum.size) :
    cache.excess = cache.byChecksum.size - cache.trimTarget :=
  if_neg (Nat.not_le.mpr full)

theorem trim_within (within : cache.byChecksum.size ≤ cache.capacity) :
    cache.trim.byChecksum = cache.byChecksum := by
  rw [trim_eq, trimBy, excess_within within]
  apply Table.ext_entries
  exact List.filter_eq_self.mpr (fun _ _ => rfl)

theorem ByAge.size_trimBy {order : List (Bytes × Content)} (sorted : cache.ByAge order) :
    (cache.trimBy order).byChecksum.size = cache.byChecksum.size - cache.excess := by
  rw [Table.size, sorted.left.length_eq, List.length_drop, sorted.perm.length_eq, Table.size]

theorem size_trim (cache : Cache) :
    cache.trim.byChecksum.size = cache.byChecksum.size - cache.excess := by
  rw [trim_eq, cache.byAge_entriesByAge.size_trimBy]

/-- Of two indexed contents the one that stays was touched later than the one that goes. -/
theorem lt_of_trim (apart : cache.TouchedApart) {kept dropped : Bytes} {content other : Content}
    (stays : cache.trim.byChecksum.get? kept = some content)
    (found : cache.byChecksum.get? dropped = some other)
    (goes : cache.trim.byChecksum.get? dropped = none) :
    cache.contentTouch other < cache.contentTouch content := by
  have sorted := cache.byAge_entriesByAge
  have last : (kept, content) ∈ cache.entriesByAge.drop cache.excess := by
    rw [trim_eq] at stays
    exact sorted.left.subset (Table.get?_eq_some_iff.mp stays)
  have first : (dropped, other) ∈ cache.entriesByAge.take cache.excess := by
    have member : (dropped, other) ∈ cache.entriesByAge :=
      sorted.perm.symm.subset (Table.get?_eq_some_iff.mp found)
    rw [← List.take_append_drop cache.excess cache.entriesByAge] at member
    rcases List.mem_append.mp member with taken | left
    · exact taken
    · have still := Table.get?_eq_some_iff.mpr (sorted.left.symm.subset left)
      rw [← trim_eq, goes] at still
      cases still
  have ages := sorted.ages
  rw [← List.take_append_drop cache.excess cache.entriesByAge, List.pairwise_append] at ages
  have before := ages.2.2 _ first _ last
  have there : cache.byChecksum.get? kept = some content := by
    rw [trim, Table.get?_filter] at stays
    exact (Option.filter_eq_some_iff.mp stays).1
  apply Int.lt_iff_le_and_ne.mpr ⟨before, ?_⟩
  intro same
  rw [apart dropped other kept content found there same, stays] at goes
  cases goes

/-! ## Sweeps -/

/-- What a sweep comes to in the index of checksums. An index within the capacity stays the same. Of
a larger one three quarters of the capacity are left, the contents that were touched last, whatever
order a sort by age puts the contents in; so many go as the index is larger than that. -/
structure Evicts (cache after : Cache) : Prop where
  within : cache.byChecksum.size ≤ cache.capacity → after.byChecksum = cache.byChecksum
  left : cache.capacity < cache.byChecksum.size →
    after.byChecksum.size = cache.capacity * 3 / 4
  kept : ∀ checksum content, after.byChecksum.get? checksum = some content →
    cache.byChecksum.get? checksum = some content
  touches : ∀ content, after.contentTouch content = cache.contentTouch content
  later : ∀ kept dropped content other, after.byChecksum.get? kept = some content →
    cache.byChecksum.get? dropped = some other → after.byChecksum.get? dropped = none →
      cache.contentTouch other < cache.contentTouch content
  only : ∀ order, cache.ByAge order → (cache.trimBy order).byChecksum = after.byChecksum
  excess : cache.capacity < cache.byChecksum.size →
    (cache.trimmedChecksums.length : Int) = cache.byChecksum.size - cache.trimTarget ∧
      cache.trimmedChecksums.length ≤ cache.byChecksum.size
  bounded : after.byChecksum.size ≤ cache.capacity

/-- Which records a sweep removes first makes no difference to the index of checksums. -/
theorem byChecksum_cleanup (cache : Cache) (limit : Instant) :
    (cache.cleanup limit).2.byChecksum = cache.trim.byChecksum := rfl

theorem evicts_cleanup (small : cache.capacity < 2 ^ 50) (apart : cache.TouchedApart)
    (limit : Instant) : cache.Evicts (cache.cleanup limit).2 := by
  have target := trimTarget_eq small
  have size := cache.size_trim
  constructor
  case within => exact trim_within
  case left =>
    intro full
    rw [byChecksum_cleanup, size, excess_above full]
    omega
  case kept => exact fun checksum content found => get?_cleanup found
  case touches => exact fun _ => rfl
  case later => exact fun kept dropped content other => lt_of_trim apart
  case only =>
    intro order sorted
    rw [trimBy_eq sorted apart, byChecksum_cleanup]
  case excess =>
    intro full
    have length : cache.trimmedChecksums.length = cache.byChecksum.size - cache.trimTarget := by
      rw [trimmedChecksums, if_neg (Nat.not_le.mpr full), List.length_take, checksumsByAge,
        List.length_map, List.length_mergeSort]
      exact Nat.min_eq_left (Nat.sub_le _ _)
    rw [length]
    omega
  case bounded =>
    rw [byChecksum_cleanup, size]
    by_cases full : cache.capacity < cache.byChecksum.size
    · rw [excess_above full]
      omega
    · rw [excess_within (Nat.not_lt.mp full)]
      exact Nat.not_lt.mp full

end ConfigWatch.Cache

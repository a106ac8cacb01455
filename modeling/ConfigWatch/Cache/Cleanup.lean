import ConfigWatch.Cache.Basic

/-!
# Cleaning up

A sweep has three stages. Idle records leave, with their subscription ids; then, if more contents
are indexed than the capacity allows, the least recently touched ones are dropped; last, version
entries are kept only if a record still holds them, or if their content is still indexed and they
were used recently.
-/

set_option autoImplicit false

namespace ConfigWatch

namespace Record

/-- Whether nobody watches the record and nothing touched it since a limit. -/
def isIdle (record : Record) (limit : Instant) : Bool :=
  record.watchers.size == 0 && decide (record.lastTouch < limit)

end Record

namespace Namespace

def idleRecords (space : Namespace) (limit : Instant) : List Record :=
  space.records.values.filter (fun record => record.isIdle limit)

def dropIdle (space : Namespace) (limit : Instant) : Namespace :=
  { space with records := space.records.filter (fun _ record => !record.isIdle limit) }

def isHeld (space : Namespace) (version : Version) (key : DocumentKey) : Bool :=
  match space.records.get? key with
  | none => false
  | some record => (record.latest.map Prod.fst) == some version

/-- Keeps the version entries that a record holds or that pass a test. -/
def prune (space : Namespace) (keep : VersionEntry → Bool) : Namespace :=
  { space with
    versions := space.versions.filter (fun key entry => space.isHeld key.1 key.2 || keep entry) }

end Namespace

namespace Cache

def sortIds (ids : List UInt32) : List UInt32 := ids.mergeSort (fun left right => left ≤ right)

/-- The ids of the records that a sweep removes, in ascending order; a client may remove them in
any other. -/
def idleSubscriptions (cache : Cache) (limit : Instant) : List UInt32 :=
  sortIds (cache.namespaces.values.flatMap (fun space =>
    (space.idleRecords limit).map Record.subscription))

def dropIdle (cache : Cache) (limit : Instant) : Cache :=
  let removed := cache.idleSubscriptions limit
  { cache with
    namespaces := cache.namespaces.mapValues (fun _ space => space.dropIdle limit)
    bySubscription := cache.bySubscription.filter (fun id _ => !removed.contains id) }

/-- The part of the capacity that is left when the index is trimmed: three quarters. -/
def trimRatio : Double := ⟨0x3fe8000000000000⟩

/-- The number of contents that are left when the index is trimmed: the product of the capacity
and the ratio, as doubles have it, rounded down. -/
def trimTarget (cache : Cache) : Nat := ((Double.ofNat cache.capacity).product trimRatio).floor

/-- The indexed checksums, the least recently touched first. -/
def checksumsByAge (cache : Cache) : List Bytes :=
  (cache.byChecksum.entries.mergeSort (fun left right =>
    decide (cache.contentTouch left.2 ≤ cache.contentTouch right.2))).map Prod.fst

def trimmedChecksums (cache : Cache) : List Bytes :=
  if cache.byChecksum.size ≤ cache.capacity then []
  else cache.checksumsByAge.take (cache.byChecksum.size - cache.trimTarget)

/-- The second stage: an index above the capacity is cut down to the target. -/
def trim (cache : Cache) : Cache :=
  let dropped := cache.trimmedChecksums
  { cache with
    byChecksum := cache.byChecksum.filter (fun checksum _ => !dropped.contains checksum) }

/-- The third stage: version entries that are neither held nor both indexed and recent leave. -/
def prune (cache : Cache) (limit : Instant) : Cache :=
  { cache with
    namespaces := cache.namespaces.mapValues (fun _ space =>
      space.prune (fun entry =>
        cache.byChecksum.contains entry.content.checksum && decide (limit ≤ entry.lastTouch))) }

/-- A sweep: the three stages in turn, and the ids of the records removed. -/
def cleanup (cache : Cache) (limit : Instant) : List UInt32 × Cache :=
  (cache.idleSubscriptions limit, ((cache.dropIdle limit).trim).prune limit)

end Cache

end ConfigWatch

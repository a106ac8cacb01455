import ConfigWatch.Proofs.Cache.Trimming
import Mathlib.Data.List.Nodup
import Mathlib.Data.List.Perm.Subperm

/-!
# How versions are pruned

A sweep leaves the versions that the remaining records hold. Of the others it leaves those whose
content is still indexed once the index is trimmed and that were used since its limit. So when no
version was used since, as many versions are left as there are records at most.
-/

set_option autoImplicit false

namespace ConfigWatch

namespace Namespace

variable {space : Namespace} {version : Version} {key : DocumentKey}

/-- The record of a document holds a version. -/
def HoldsVersion (space : Namespace) (version : Version) (key : DocumentKey) : Prop :=
  ∃ record content, space.records.get? key = some record ∧ record.latest = some (version, content)

theorem isHeld_eq_true_iff :
    space.isHeld version key = true ↔ space.HoldsVersion version key := by
  rw [isHeld, HoldsVersion]
  cases space.records.get? key with
  | none => simp
  | some record => simp [Option.map_eq_some_iff]

theorem HoldsVersion.unique {other : Version} (here : space.HoldsVersion version key)
    (there : space.HoldsVersion other key) : version = other := by
  obtain ⟨record, content, found, latest⟩ := here
  obtain ⟨again, last, same, held⟩ := there
  obtain rfl := Option.some.inj (found.symm.trans same)
  exact congrArg Prod.fst (Option.some.inj (latest.symm.trans held))

/-- A namespace whose records hold all of its versions has a version for each record at most. -/
theorem size_versions_le (held : ∀ version key entry,
    space.versions.get? (version, key) = some entry → space.HoldsVersion version key) :
    space.versions.size ≤ space.records.size := by
  have holds (pair : Version × DocumentKey) (member : pair ∈ space.versions.entries.map Prod.fst) :
      space.HoldsVersion pair.1 pair.2 := by
    obtain ⟨⟨_, entry⟩, listed, rfl⟩ := List.mem_map.mp member
    exact held _ _ entry (Table.get?_eq_some_iff.mpr listed)
  have documents : ((space.versions.entries.map Prod.fst).map Prod.snd).Nodup := by
    apply List.Nodup.map_on ?_ space.versions.keys_nodup
    intro left leftMember right rightMember same
    have there := holds right rightMember
    rw [← same] at there
    exact Prod.ext ((holds left leftMember).unique there) same
  have recorded : (space.versions.entries.map Prod.fst).map Prod.snd ⊆
      space.records.entries.map Prod.fst := by
    intro key member
    obtain ⟨pair, listed, rfl⟩ := List.mem_map.mp member
    obtain ⟨record, _, found, _⟩ := holds pair listed
    exact List.mem_map.mpr ⟨_, Table.get?_eq_some_iff.mp found, rfl⟩
  have fewer := (List.subperm_of_subset documents recorded).length_le
  rwa [List.length_map, List.length_map, List.length_map] at fewer

end Namespace

namespace Cache

/-- What is known of a document at a version, and when it was last stored or read there. -/
def entryAt? (cache : Cache) (space : NamespaceKey) (version : Version) (key : DocumentKey) :
    Option VersionEntry :=
  (cache.namespaces.get? space).bind (fun found => found.versions.get? (version, key))

/-- The record of a document in a namespace holds a version. -/
def HoldsVersion (cache : Cache) (space : NamespaceKey) (version : Version)
    (key : DocumentKey) : Prop :=
  ∃ found, cache.namespaces.get? space = some found ∧ found.HoldsVersion version key

variable {cache : Cache} {limit : Instant} {space : NamespaceKey} {version : Version}
  {key : DocumentKey} {entry : VersionEntry}

theorem entryAt?_dropIdle (cache : Cache) (limit : Instant) (space : NamespaceKey)
    (version : Version) (key : DocumentKey) :
    (cache.dropIdle limit).entryAt? space version key = cache.entryAt? space version key := by
  simp only [entryAt?, dropIdle, Table.get?_mapValues]
  cases cache.namespaces.get? space <;> rfl

theorem holdsVersion_prune (cache : Cache) (limit : Instant) (space : NamespaceKey)
    (version : Version) (key : DocumentKey) :
    (cache.prune limit).HoldsVersion space version key ↔ cache.HoldsVersion space version key := by
  simp only [HoldsVersion, prune, Table.get?_mapValues, Option.map_eq_some_iff,
    exists_exists_and_eq_and]
  rfl

theorem entryAt?_prune_eq_some_iff :
    (cache.prune limit).entryAt? space version key = some entry ↔
      cache.entryAt? space version key = some entry ∧ (cache.HoldsVersion space version key ∨
        cache.byChecksum.contains entry.content.checksum = true ∧ limit ≤ entry.lastTouch) := by
  simp only [entryAt?, HoldsVersion, prune, Table.get?_mapValues]
  cases cache.namespaces.get? space with
  | none => simp
  | some found =>
    simp only [Option.map_some, Option.bind_some, Namespace.prune, Table.get?_filter,
      Option.filter_eq_some_iff, Bool.or_eq_true, Bool.and_eq_true, decide_eq_true_eq,
      Namespace.isHeld_eq_true_iff, Option.some.injEq, exists_eq_left']

/-- What a sweep comes to in the versions that are known of documents. The ones that stay are as
they were; their contents are the same objects, touched as before. -/
structure Prunes (cache : Cache) (limit : Instant) (after : Cache) : Prop where
  entries : ∀ space version key entry, after.entryAt? space version key = some entry ↔
    cache.entryAt? space version key = some entry ∧ (after.HoldsVersion space version key ∨
      after.byChecksum.contains entry.content.checksum = true ∧ limit ≤ entry.lastTouch)
  touches : ∀ content, after.contentTouch content = cache.contentTouch content
  unused : ∀ space found, after.namespaces.get? space = some found →
    (∀ version key entry, cache.entryAt? space version key = some entry →
      entry.lastTouch < limit) →
    (∀ version key entry, found.versions.get? (version, key) = some entry →
      found.HoldsVersion version key) ∧
    found.versions.size ≤ found.records.size

/-- Which contents the index has lost by then decides what the versions lose, not how. -/
theorem entryAt?_sweepBy_eq_some_iff {order : List (Bytes × Content)} :
    (cache.sweepBy limit order).entryAt? space version key = some entry ↔
      cache.entryAt? space version key = some entry ∧
        ((cache.sweepBy limit order).HoldsVersion space version key ∨
          (cache.sweepBy limit order).byChecksum.contains entry.content.checksum = true ∧
            limit ≤ entry.lastTouch) := by
  have known : ((cache.dropIdle limit).trimBy order).entryAt? space version key =
      cache.entryAt? space version key := cache.entryAt?_dropIdle limit space version key
  rw [sweepBy, entryAt?_prune_eq_some_iff, holdsVersion_prune, known]
  rfl

theorem prunes_sweepBy (cache : Cache) (limit : Instant) (order : List (Bytes × Content)) :
    cache.Prunes limit (cache.sweepBy limit order) := by
  constructor
  case entries => exact fun _ _ _ _ => entryAt?_sweepBy_eq_some_iff
  case touches => exact fun _ => rfl
  case unused =>
    intro space found here unused
    have held (version : Version) (key : DocumentKey) (entry : VersionEntry)
        (kept : found.versions.get? (version, key) = some entry) :
        found.HoldsVersion version key := by
      have left : (cache.sweepBy limit order).entryAt? space version key = some entry :=
        Option.bind_eq_some_iff.mpr ⟨found, here, kept⟩
      obtain ⟨known, held | ⟨_, used⟩⟩ := entryAt?_sweepBy_eq_some_iff.mp left
      · obtain ⟨again, same, held⟩ := held
        obtain rfl := Option.some.inj (here.symm.trans same)
        exact held
      · exact absurd (unused version key entry known) (Int.not_lt.mpr used)
    exact ⟨held, Namespace.size_versions_le held⟩

theorem prunes_cleanup (cache : Cache) (limit : Instant) :
    cache.Prunes limit (cache.cleanup limit).2 := by
  rw [cleanup_eq]
  exact cache.prunes_sweepBy limit _

end Cache

end ConfigWatch

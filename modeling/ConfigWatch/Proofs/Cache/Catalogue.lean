import ConfigWatch.Proofs.Cache.Contents

/-!
# The catalogue of contents

Which contents a cache holds, and which of them it finds under their checksums. The catalogue is
the index by checksum with the number of contents decoded so far, which is the id of the next one.
Only storing, sweeping and starting afresh change it.
-/

set_option autoImplicit false

namespace ConfigWatch

/-- The index by checksum, and how many contents were decoded. -/
structure Catalogue where
  index : Table Bytes Content
  decoded : Nat

namespace Cache

def catalogue (cache : Cache) : Catalogue := ⟨cache.byChecksum, cache.touches.size⟩

/-- A content that a record holds, or a document at a version, or the index. -/
inductive Holds (cache : Cache) (content : Content) : Prop where
  | latest {space : NamespaceKey} {key : DocumentKey} {record : Record} {version : Version} :
      cache.recordAt? space key = some record → record.latest = some (version, content) →
      Holds cache content
  | entered {space : NamespaceKey} {key : DocumentKey} {version : Version} :
      cache.contentAt? space version key = some content → Holds cache content
  | indexed {checksum : Bytes} : cache.byChecksum.get? checksum = some content →
      Holds cache content

/-! ## Operations that leave the catalogue alone -/

theorem catalogue_touchContent (cache : Cache) (content : Content) (now : Instant) :
    (cache.touchContent content now).catalogue = cache.catalogue := by
  simp only [catalogue, touchContent, Array.size_setIfInBounds]

theorem catalogue_touchRecord (cache : Cache) (space : NamespaceKey) (key : DocumentKey)
    (now : Instant) : (cache.touchRecord space key now).catalogue = cache.catalogue := by
  unfold touchRecord
  split
  · rfl
  · split
    · rfl
    · exact catalogue_touchContent ..

theorem catalogue_recordOrNew (cache : Cache) (space : NamespaceKey) (key : DocumentKey)
    (now : Instant) : (cache.recordOrNew space key now).2.2.catalogue = cache.catalogue := by
  simp only [recordOrNew]
  split <;> rfl

theorem catalogue_readVersion {cache after : Cache} {space : NamespaceKey} {version : Version}
    {key : DocumentKey} {now : Instant} {content : Content}
    (read : cache.readVersion space version key now = some (content, after)) :
    after.catalogue = cache.catalogue := by
  obtain ⟨_, _, same⟩ := Option.map_eq_some_iff.mp read
  cases same
  exact catalogue_touchContent ..

theorem catalogue_changeRecord (cache : Cache) (id : UInt32)
    (change : Record → List Notification × Record) :
    (cache.changeRecord id change).2.catalogue = cache.catalogue := by
  simp only [changeRecord]
  split <;> rfl

/-! ## Storing -/

/-- What becomes of the catalogue when a content is stored, or none: a content is found under its
checksum, or is a new one, and is indexed. -/
inductive Files (before after : Cache) : Option Content → Prop where
  | keeps : after.catalogue = before.catalogue → Files before after none
  | finds {content : Content} : before.byChecksum.get? content.checksum = some content →
      after.catalogue = before.catalogue → Files before after (some content)
  | decodes {content : Content} : before.byChecksum.get? content.checksum = none →
      content.id = before.touches.size →
      after.catalogue =
        ⟨before.byChecksum.insert content.checksum content, before.touches.size + 1⟩ →
      Files before after (some content)

theorem Files.andKeeps {before after later : Cache} {stored : Option Content}
    (files : Files before after stored) (keeps : later.catalogue = after.catalogue) :
    Files before later stored := by
  cases files with
  | keeps same => exact .keeps (keeps.trans same)
  | finds found same => exact .finds found (keeps.trans same)
  | decodes lost own new => exact .decodes lost own (keeps.trans new)

theorem resolve_files {cache after : Cache} {checksum : Bytes}
    {decode : Unit → Except DecodeError Payload.Decoded} {now : Instant} {content : Content}
    (labelled : ∀ checksum content, cache.byChecksum.get? checksum = some content →
      content.checksum = checksum)
    (resolved : cache.resolve checksum decode now = .ok (content, after)) :
    Files cache after (some content) := by
  unfold resolve at resolved
  split at resolved
  · next found =>
    cases resolved
    refine .finds ?_ (catalogue_touchContent ..)
    rw [labelled checksum content found]
    exact found
  · next lost =>
    split at resolved
    · cases resolved
    · cases resolved
      exact .decodes lost rfl (by simp only [catalogue, Array.size_push])

/-! ## Sweeping -/

theorem get?_cleanup {cache : Cache} {limit : Instant} {checksum : Bytes} {content : Content}
    (found : (cache.cleanup limit).2.byChecksum.get? checksum = some content) :
    cache.byChecksum.get? checksum = some content := by
  rcases (cache.cleanup_gains limit).indexed checksum content found with there | ⟨_, stored, _⟩
  · exact there
  · cases stored

/-- An index within the capacity is not trimmed. -/
theorem get?_cleanup_within {cache : Cache} (within : cache.byChecksum.size ≤ cache.capacity)
    (limit : Instant) (checksum : Bytes) :
    (cache.cleanup limit).2.byChecksum.get? checksum = cache.byChecksum.get? checksum := by
  have untrimmed : (cache.dropIdle limit).trimmedChecksums = [] := if_pos within
  have trimmed : (cache.cleanup limit).2.byChecksum = cache.byChecksum.filter
      (fun checksum _ => !(cache.dropIdle limit).trimmedChecksums.contains checksum) := rfl
  rw [trimmed, untrimmed, Table.get?_filter]
  cases cache.byChecksum.get? checksum <;> rfl

/-- An index above a capacity of which no quarter is left is emptied. -/
theorem trim_empties {cache : Cache} (full : cache.capacity < cache.byChecksum.size)
    (small : cache.trimTarget = 0) : cache.trim = { cache with byChecksum := Table.empty } := by
  have length : cache.checksumsByAge.length = cache.byChecksum.size := by
    simp only [checksumsByAge, List.length_map, List.length_mergeSort, Table.size]
  have all : cache.trimmedChecksums = cache.checksumsByAge := by
    rw [trimmedChecksums, if_neg (Nat.not_le.mpr full), small, Nat.sub_zero, ← length,
      List.take_length]
  have dropped : ∀ entry ∈ cache.byChecksum.entries, entry.1 ∈ cache.checksumsByAge := by
    intro entry member
    exact List.mem_map.mpr ⟨entry, List.mem_mergeSort.mpr member, rfl⟩
  have emptied : cache.byChecksum.filter
      (fun checksum _ => !cache.checksumsByAge.contains checksum) = Table.empty := by
    apply Table.eq_empty
    apply List.filter_eq_nil_iff.mpr
    intro entry member
    simp [dropped entry member]
  simp only [trim, all, emptied]

end Cache

end ConfigWatch

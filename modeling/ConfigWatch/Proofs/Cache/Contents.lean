import ConfigWatch.Proofs.Cache.Records

/-!
# Contents of a cache

Where a cache holds contents apart from its records: under their checksums, and as the versions
of documents. An operation leaves there what it found, or less, or puts in the one content that
it stores.
-/

set_option autoImplicit false

namespace ConfigWatch

/-- A content that was stored, for a document at a version. -/
structure Stored where
  space : NamespaceKey
  key : DocumentKey
  version : Version
  content : Content

namespace Cache

/-- What an operation that may store a content leaves of contents and of the keys of namespaces. -/
structure Gains (before after : Cache) (stored : Option Stored) : Prop where
  labelled : ∀ space found, after.namespaces.get? space = some found →
    found.key = space ∨
      ∃ earlier, before.namespaces.get? space = some earlier ∧ found.key = earlier.key
  indexed : ∀ checksum content, after.byChecksum.get? checksum = some content →
    before.byChecksum.get? checksum = some content ∨
      ∃ gain ∈ stored, gain.content = content ∧ content.checksum = checksum
  entered : ∀ space version key content, after.contentAt? space version key = some content →
    before.contentAt? space version key = some content ∨
      ⟨space, key, version, content⟩ ∈ stored

namespace Gains

theorem refl (cache : Cache) : Gains cache cache none :=
  ⟨fun _ found here => .inr ⟨found, here, rfl⟩, fun _ _ => .inl, fun _ _ _ _ => .inl⟩

private theorem labelled_trans {first second third : Cache}
    (left : ∀ space found, second.namespaces.get? space = some found →
      found.key = space ∨
        ∃ earlier, first.namespaces.get? space = some earlier ∧ found.key = earlier.key)
    (right : ∀ space found, third.namespaces.get? space = some found →
      found.key = space ∨
        ∃ earlier, second.namespaces.get? space = some earlier ∧ found.key = earlier.key)
    (space : NamespaceKey) (found : Namespace) (here : third.namespaces.get? space = some found) :
    found.key = space ∨
      ∃ earlier, first.namespaces.get? space = some earlier ∧ found.key = earlier.key := by
  rcases right space found here with own | ⟨earlier, there, same⟩
  · exact .inl own
  · rw [same]
    exact left space earlier there

theorem andThen {first second third : Cache} {stored : Option Stored}
    (left : Gains first second stored) (right : Gains second third none) :
    Gains first third stored where
  labelled := labelled_trans left.labelled right.labelled
  indexed checksum content here := by
    rcases right.indexed checksum content here with there | ⟨_, none, _⟩
    · exact left.indexed checksum content there
    · cases none
  entered space version key content here := by
    rcases right.entered space version key content here with there | none
    · exact left.entered space version key content there
    · cases none

theorem weaken {before after : Cache} (gains : Gains before after none)
    (stored : Option Stored) : Gains before after stored where
  labelled := gains.labelled
  indexed checksum content here := by
    rcases gains.indexed checksum content here with there | ⟨_, none, _⟩
    · exact .inl there
    · cases none
  entered space version key content here := by
    rcases gains.entered space version key content here with there | none
    · exact .inl there
    · cases none

theorem following {first second third : Cache} {stored : Option Stored}
    (right : Gains second third stored) (left : Gains first second none) :
    Gains first third stored where
  labelled := labelled_trans left.labelled right.labelled
  indexed checksum content here := by
    rcases right.indexed checksum content here with there | new
    · rcases left.indexed checksum content there with earlier | ⟨_, none, _⟩
      · exact .inl earlier
      · cases none
    · exact .inr new
  entered space version key content here := by
    rcases right.entered space version key content here with there | new
    · rcases left.entered space version key content there with earlier | none
      · exact .inl earlier
      · cases none
    · exact .inr new

end Gains

/-! ## Operations that store nothing -/

theorem namespaceOrNew_content? (cache : Cache) (space : NamespaceKey) (version : Version)
    (key : DocumentKey) :
    (cache.namespaceOrNew space).content? version key = cache.contentAt? space version key := by
  unfold namespaceOrNew contentAt?
  cases cache.namespaces.get? space <;> rfl

theorem namespaceOrNew_labelled (cache : Cache) (space : NamespaceKey) :
    (cache.namespaceOrNew space).key = space ∨
      ∃ earlier, cache.namespaces.get? space = some earlier ∧
        (cache.namespaceOrNew space).key = earlier.key := by
  unfold namespaceOrNew
  cases cache.namespaces.get? space with
  | none => exact .inl rfl
  | some earlier => exact .inr ⟨earlier, rfl, rfl⟩

/-- A change of one namespace that shows in none of its contents. -/
theorem gains_of_modify {cache after : Cache} {space : NamespaceKey}
    (change : Namespace → Namespace)
    (namespaces : after.namespaces = cache.namespaces.modify space change)
    (index : after.byChecksum = cache.byChecksum)
    (label : ∀ found, (change found).key = found.key)
    (contents : ∀ found version key,
      (change found).content? version key = found.content? version key) :
    Gains cache after none := by
  refine ⟨fun other found here => ?_, fun checksum content here => .inl (index ▸ here),
    fun other version key content here => ?_⟩
  · rw [namespaces, Table.get?_modify] at here
    split at here
    · obtain ⟨earlier, there, rfl⟩ := Option.map_eq_some_iff.mp here
      exact .inr ⟨earlier, there, label earlier⟩
    · exact .inr ⟨found, here, rfl⟩
  · obtain ⟨found, there, held⟩ := Option.bind_eq_some_iff.mp here
    rw [namespaces, Table.get?_modify] at there
    refine .inl (Option.bind_eq_some_iff.mpr ?_)
    split at there
    · obtain ⟨earlier, present, rfl⟩ := Option.map_eq_some_iff.mp there
      exact ⟨earlier, present, contents earlier version key ▸ held⟩
    · exact ⟨found, there, held⟩

/-- A namespace that takes the place of another, or is new. -/
theorem gains_of_insert {cache after : Cache} {space : NamespaceKey} {found : Namespace}
    {stored : Option Stored}
    (namespaces : after.namespaces = cache.namespaces.insert space found)
    (label : found.key = (cache.namespaceOrNew space).key)
    (contents : ∀ version key content, found.content? version key = some content →
      cache.contentAt? space version key = some content ∨ ⟨space, key, version, content⟩ ∈ stored)
    (indexed : ∀ checksum content, after.byChecksum.get? checksum = some content →
      cache.byChecksum.get? checksum = some content ∨
        ∃ gain ∈ stored, gain.content = content ∧ content.checksum = checksum) :
    Gains cache after stored := by
  refine ⟨fun other place here => ?_, indexed, fun other version key content here => ?_⟩
  · rw [namespaces, Table.get?_insert] at here
    split at here
    · next same =>
      cases here
      rw [same, label]
      exact cache.namespaceOrNew_labelled space
    · exact .inr ⟨place, here, rfl⟩
  · obtain ⟨place, there, held⟩ := Option.bind_eq_some_iff.mp here
    rw [namespaces, Table.get?_insert] at there
    split at there
    · next same =>
      cases there
      rw [same]
      exact contents version key content held
    · exact .inl (Option.bind_eq_some_iff.mpr ⟨place, there, held⟩)

theorem touchContent_gains (cache : Cache) (content : Content) (now : Instant) :
    Gains cache (cache.touchContent content now) none :=
  ⟨fun _ found here => .inr ⟨found, here, rfl⟩, fun _ _ => .inl, fun _ _ _ _ => .inl⟩

theorem modifyRecord_gains (cache : Cache) (space : NamespaceKey) (key : DocumentKey)
    (change : Record → Record) : Gains cache (cache.modifyRecord space key change) none :=
  gains_of_modify (fun found => { found with records := found.records.modify key change })
    rfl rfl (fun _ => rfl) (fun _ _ _ => rfl)

theorem touchRecord_gains (cache : Cache) (space : NamespaceKey) (key : DocumentKey)
    (now : Instant) : Gains cache (cache.touchRecord space key now) none := by
  unfold touchRecord
  split
  · exact Gains.refl cache
  · have touched := modifyRecord_gains cache space key
      (fun record => { record with lastTouch := now })
    split
    · exact touched
    · exact touched.andThen (touchContent_gains ..)

theorem recordOrNew_gains (cache : Cache) (space : NamespaceKey) (key : DocumentKey)
    (now : Instant) : Gains cache (cache.recordOrNew space key now).2.2 none := by
  simp only [recordOrNew]
  split
  · exact Gains.refl cache
  · refine gains_of_insert rfl rfl (fun version document content held => .inl ?_) (fun _ _ => .inl)
    rw [← namespaceOrNew_content?]
    exact held

theorem readVersion_gains {cache after : Cache} {space : NamespaceKey} {version : Version}
    {key : DocumentKey} {now : Instant} {content : Content}
    (read : cache.readVersion space version key now = some (content, after)) :
    Gains cache after none := by
  obtain ⟨held, _, same⟩ := Option.map_eq_some_iff.mp read
  cases same
  refine gains_of_modify (fun found =>
      { found with
        versions := found.versions.modify (version, key)
          (fun entry => { entry with lastTouch := now }) })
    rfl rfl (fun _ => rfl) (fun found number document => ?_)
  simp only [Namespace.content?, Table.get?_modify]
  split
  · rw [Option.map_map]
    rfl
  · rfl

theorem cleanup_gains (cache : Cache) (limit : Instant) :
    Gains cache (cache.cleanup limit).2 none where
  labelled space found here := by
    simp only [cleanup, prune, trim, dropIdle, Table.get?_mapValues, Option.map_map] at here
    obtain ⟨earlier, there, rfl⟩ := Option.map_eq_some_iff.mp here
    exact .inr ⟨earlier, there, rfl⟩
  indexed checksum content here := by
    have trimmed : (cache.cleanup limit).2.byChecksum =
        (cache.dropIdle limit).trim.byChecksum := rfl
    rw [trimmed, trim, Table.get?_filter] at here
    exact .inl (Option.filter_eq_some_iff.mp here).1
  entered space version key content here := by
    obtain ⟨found, there, held⟩ := Option.bind_eq_some_iff.mp here
    simp only [cleanup, prune, trim, dropIdle, Table.get?_mapValues, Option.map_map] at there
    obtain ⟨earlier, present, rfl⟩ := Option.map_eq_some_iff.mp there
    obtain ⟨entry, kept, same⟩ := Option.map_eq_some_iff.mp held
    simp only [Function.comp_apply, Namespace.prune, Namespace.dropIdle, Table.get?_filter] at kept
    have known := (Option.filter_eq_some_iff.mp kept).1
    exact .inl (Option.bind_eq_some_iff.mpr
      ⟨earlier, present, Option.map_eq_some_iff.mpr ⟨entry, known, same⟩⟩)

theorem reset_gains (cache : Cache) : Gains cache cache.reset.2 none where
  labelled _ _ here := by cases here
  indexed _ _ here := by cases here
  entered _ _ _ _ here := by cases here

/-! ## Storing a content -/

theorem resolve_origin {cache after : Cache} {checksum : Bytes}
    {decode : Unit → Except DecodeError Payload.Decoded} {now : Instant} {content : Content}
    (resolved : cache.resolve checksum decode now = .ok (content, after)) :
    cache.byChecksum.get? checksum = some content ∨
      content.checksum = checksum ∧ decode () = .ok ⟨content.value, content.positions⟩ := by
  unfold resolve at resolved
  split at resolved
  · next held =>
    cases resolved
    exact .inl held
  · split at resolved
    · cases resolved
    · next decoded =>
      cases resolved
      exact .inr ⟨rfl, decoded⟩

theorem resolve_namespaces {cache after : Cache} {checksum : Bytes}
    {decode : Unit → Except DecodeError Payload.Decoded} {now : Instant} {content : Content}
    (resolved : cache.resolve checksum decode now = .ok (content, after)) :
    after.namespaces = cache.namespaces := by
  unfold resolve at resolved
  split at resolved
  · cases resolved
    rfl
  · split at resolved
    · cases resolved
    · cases resolved
      rfl

theorem resolve_indexed {cache after : Cache} {checksum other : Bytes}
    {decode : Unit → Except DecodeError Payload.Decoded} {now : Instant} {content held : Content}
    (resolved : cache.resolve checksum decode now = .ok (content, after))
    (here : after.byChecksum.get? other = some held) :
    cache.byChecksum.get? other = some held ∨ content = held ∧ held.checksum = other := by
  unfold resolve at resolved
  split at resolved
  · cases resolved
    exact .inl here
  · split at resolved
    · cases resolved
    · cases resolved
      simp only [Table.get?_insert] at here
      split at here
      · next same =>
        cases here
        exact .inr ⟨rfl, same.symm⟩
      · exact .inl here

theorem store_gains {cache after : Cache} {checksum : Bytes}
    {decode : Unit → Except DecodeError Payload.Decoded} {now : Instant} {content : Content}
    (resolved : cache.resolve checksum decode now = .ok (content, after)) (space : NamespaceKey)
    (version : Version) (key : DocumentKey) (moment : Instant) :
    Gains cache (after.insertVersion space version key content moment)
      (some ⟨space, key, version, content⟩) := by
  have same : after.namespaceOrNew space = cache.namespaceOrNew space := by
    rw [namespaceOrNew, resolve_namespaces resolved, namespaceOrNew]
  have placed : (after.insertVersion space version key content moment).namespaces =
      cache.namespaces.insert space
        ((cache.namespaceOrNew space).insertVersion version key content moment) := by
    rw [insertVersion, setNamespace, resolve_namespaces resolved, same]
  refine gains_of_insert placed rfl (fun number document held here => ?_)
    (fun other held here => ?_)
  · rw [← namespaceOrNew_content?]
    simp only [Namespace.content?, Namespace.insertVersion, Table.get?_insert] at here ⊢
    split at here
    · next pair =>
      cases pair
      cases here
      exact .inr rfl
    · exact .inl here
  · rcases resolve_indexed resolved here with earlier | ⟨rfl, same⟩
    · exact .inl earlier
    · exact .inr ⟨_, rfl, rfl, same⟩

end Cache

end ConfigWatch

import ConfigWatch.Proofs.Cache.Records
import ConfigWatch.Proofs.Cache.Renaming

/-!
# Caches with a past

A cache that started afresh differs from a new one in what it leaves behind: contents and
registrations are counted on, and so is the generation. With a past every number is higher by a
fixed amount, and no operation looks further: it may be done before the past is added or after it.
-/

set_option autoImplicit false

namespace ConfigWatch

/-- What lies behind a client that starts afresh: the touch times of the contents that were
decoded, the registrations made, the generations and the outbound streams opened. -/
structure Past where
  touches : Array Instant := #[]
  registrations : Nat := 0
  generations : Nat := 0
  streams : Nat := 0

namespace Past

/-- The numbers of contents and of registrations with a past. -/
def names (past : Past) : Renaming where
  content id := past.touches.size + id
  registration number := past.registrations + number

end Past

variable (past : Past)

/-- A cache as it is with a past. -/
def Cache.withPast (cache : Cache) : Cache :=
  { cache with
    namespaces := cache.namespaces.mapValues (fun _ => Namespace.rename past.names)
    byChecksum := cache.byChecksum.mapValues (fun _ => Content.rename past.names)
    generation := past.generations + cache.generation
    touches := past.touches ++ cache.touches }

namespace Namespace

variable (names : Renaming) (space : Namespace)

theorem content?_rename (version : Version) (key : DocumentKey) :
    (space.rename names).content? version key =
      (space.content? version key).map (Content.rename names) := by
  simp only [content?, rename, Table.get?_mapValues, Option.map_map]
  rfl

theorem dropIdle_rename (limit : Instant) :
    (space.rename names).dropIdle limit = (space.dropIdle limit).rename names := by
  simp only [dropIdle, rename]
  rw [Table.mapValues_filter _ _ (fun _ record => !record.isIdle limit)]
  intro key record
  rw [Record.isIdle_rename]

theorem isHeld_rename (version : Version) (key : DocumentKey) :
    (space.rename names).isHeld version key = space.isHeld version key := by
  simp only [isHeld, rename, Table.get?_mapValues]
  cases space.records.get? key with
  | none => rfl
  | some record =>
    simp only [Option.map_some, Record.latest_rename, Option.map_map]
    rfl

theorem prune_rename (keep : VersionEntry → Bool)
    (agree : ∀ entry, keep (entry.rename names) = keep entry) :
    (space.rename names).prune keep = (space.prune keep).rename names := by
  simp only [prune]
  rw [rename, rename, Table.mapValues_filter _ _ (fun key entry =>
    (space.rename names).isHeld key.1 key.2 || keep entry)]
  · rfl
  · intro key entry
    rw [isHeld_rename, agree]

end Namespace

namespace Cache

variable (cache : Cache)

@[simp] theorem bySubscription_withPast :
    (cache.withPast past).bySubscription = cache.bySubscription := rfl

@[simp] theorem generation_withPast :
    (cache.withPast past).generation = past.generations + cache.generation := rfl

theorem recordAt?_withPast (space : NamespaceKey) (key : DocumentKey) :
    (cache.withPast past).recordAt? space key =
      (cache.recordAt? space key).map (Record.rename past.names) := by
  simp only [recordAt?, withPast, Table.get?_mapValues]
  cases cache.namespaces.get? space with
  | none => rfl
  | some found => exact Table.get?_mapValues ..

theorem located?_withPast (id : UInt32) :
    (cache.withPast past).located? id = (cache.located? id).map (fun located =>
      (located.1, located.2.1, located.2.2.rename past.names)) := by
  simp only [located?, bySubscription_withPast]
  cases cache.bySubscription.get? id with
  | none => rfl
  | some place =>
    simp only [Option.bind_eq_bind, Option.bind_some, recordAt?_withPast]
    cases cache.recordAt? place.1 place.2 <;> rfl

theorem record?_withPast (id : UInt32) :
    (cache.withPast past).record? id = (cache.record? id).map (Record.rename past.names) := by
  simp only [record?, located?_withPast, Option.map_map]
  rfl

theorem modifyRecord_withPast (space : NamespaceKey) (key : DocumentKey)
    (change changes : Record → Record)
    (agree : ∀ record, (change record).rename past.names = changes (record.rename past.names)) :
    (cache.withPast past).modifyRecord space key changes =
      (cache.modifyRecord space key change).withPast past := by
  simp only [modifyRecord, withPast]
  rw [Table.mapValues_modify _ _ _ (fun found : Namespace =>
    { found with records := found.records.modify key changes })]
  intro found
  simp only [Namespace.rename]
  rw [Table.mapValues_modify _ _ _ changes]
  exact agree

theorem setRecord_withPast (space : NamespaceKey) (key : DocumentKey) (record : Record) :
    (cache.withPast past).modifyRecord space key (fun _ => record.rename past.names) =
      (cache.modifyRecord space key (fun _ => record)).withPast past :=
  modifyRecord_withPast past cache space key _ _ (fun _ => rfl)

theorem contentTouch_withPast (content : Content) :
    (cache.withPast past).contentTouch (content.rename past.names) =
      cache.contentTouch content := by
  simp [contentTouch, withPast, Content.rename, Past.names, Array.getD_eq_getD_getElem?,
    Array.getElem?_append_right]

theorem touchContent_withPast (content : Content) (now : Instant) :
    (cache.withPast past).touchContent (content.rename past.names) now =
      (cache.touchContent content now).withPast past := by
  simp [touchContent, withPast, Content.rename, Past.names, Array.setIfInBounds_append_right]

theorem touchRecord_withPast (space : NamespaceKey) (key : DocumentKey) (now : Instant) :
    (cache.withPast past).touchRecord space key now =
      (cache.touchRecord space key now).withPast past := by
  have touched := modifyRecord_withPast past cache space key
    (fun record => { record with lastTouch := now })
    (fun record => { record with lastTouch := now }) (fun _ => rfl)
  simp only [touchRecord, recordAt?_withPast]
  cases cache.recordAt? space key with
  | none => rfl
  | some record =>
    simp only [Option.map_some, Record.latest_rename, touched]
    cases record.latest with
    | none => rfl
    | some held => exact touchContent_withPast past _ held.2 now

theorem namespaceOrNew_withPast (space : NamespaceKey) :
    (cache.withPast past).namespaceOrNew space =
      (cache.namespaceOrNew space).rename past.names := by
  simp only [namespaceOrNew, withPast, Table.get?_mapValues]
  cases cache.namespaces.get? space <;> rfl

theorem recordOrNew_withPast (space : NamespaceKey) (key : DocumentKey) (now : Instant) :
    (cache.withPast past).recordOrNew space key now =
      ((cache.recordOrNew space key now).1,
        (cache.recordOrNew space key now).2.1.rename past.names,
        (cache.recordOrNew space key now).2.2.withPast past) := by
  simp only [recordOrNew, namespaceOrNew_get?, recordAt?_withPast]
  cases cache.recordAt? space key with
  | some record => rfl
  | none =>
    simp only [Option.map_none, namespaceOrNew_withPast]
    simp only [withPast, Table.mapValues_insert, Namespace.rename]
    rfl

theorem resolve_withPast (checksum : Bytes) (decode : Unit → Except DecodeError Payload.Decoded)
    (now : Instant) :
    (cache.withPast past).resolve checksum decode now =
      (cache.resolve checksum decode now).map (fun resolved =>
        (resolved.1.rename past.names, resolved.2.withPast past)) := by
  have index : (cache.withPast past).byChecksum.get? checksum =
      (cache.byChecksum.get? checksum).map (Content.rename past.names) := Table.get?_mapValues ..
  simp only [resolve, index]
  cases cache.byChecksum.get? checksum with
  | some content =>
    exact congrArg (fun cache => Except.ok (content.rename past.names, cache))
      (touchContent_withPast past cache content now)
  | none =>
    simp only [Option.map_none]
    cases decode () with
    | error cause => rfl
    | ok decoded =>
      simp [Except.map, withPast, Content.rename, Past.names, Table.mapValues_insert]

theorem insertVersion_withPast (space : NamespaceKey) (version : Version) (key : DocumentKey)
    (content : Content) (now : Instant) :
    (cache.withPast past).insertVersion space version key (content.rename past.names) now =
      (cache.insertVersion space version key content now).withPast past := by
  simp only [insertVersion, namespaceOrNew_withPast, setNamespace]
  simp only [withPast, Table.mapValues_insert, Namespace.insertVersion, Namespace.rename]
  rfl

theorem contentAt?_withPast (space : NamespaceKey) (version : Version) (key : DocumentKey) :
    (cache.withPast past).contentAt? space version key =
      (cache.contentAt? space version key).map (Content.rename past.names) := by
  simp only [contentAt?, withPast, Table.get?_mapValues]
  cases cache.namespaces.get? space with
  | none => rfl
  | some found => exact found.content?_rename past.names version key

theorem readVersion_withPast (space : NamespaceKey) (version : Version) (key : DocumentKey)
    (now : Instant) :
    (cache.withPast past).readVersion space version key now =
      (cache.readVersion space version key now).map (fun read =>
        (read.1.rename past.names, read.2.withPast past)) := by
  simp only [readVersion, contentAt?_withPast, Option.map_map]
  refine congrArg (Option.map · _) (funext fun content => ?_)
  have touched : (past.touches ++ cache.touches).setIfInBounds
      (past.touches.size + content.id) now = past.touches ++
        cache.touches.setIfInBounds content.id now := by
    simp [Array.setIfInBounds_append_right]
  simp only [Function.comp_def, withPast, Content.rename, Past.names, touched]
  rw [Table.mapValues_modify _ _ _ (fun found : Namespace =>
    { found with
      versions := found.versions.modify (version, key) (fun entry =>
        { entry with lastTouch := now }) })]
  intro found
  simp only [Namespace.rename]
  rw [Table.mapValues_modify _ _ _ (fun entry : VersionEntry =>
    { entry with lastTouch := now })]
  exact fun _ => rfl

theorem changeRecord_withPast (id : UInt32)
    {change : Record → List Notification × Record}
    {changes : Record → List Notification × Record}
    (agree : ∀ record, changes (record.rename past.names) =
      ((change record).1.map (Notification.rename past.names),
        (change record).2.rename past.names)) :
    (cache.withPast past).changeRecord id changes =
      ((cache.changeRecord id change).1.map (Notification.rename past.names),
        (cache.changeRecord id change).2.withPast past) := by
  simp only [changeRecord, located?_withPast]
  cases cache.located? id with
  | none => rfl
  | some located =>
    obtain ⟨space, key, record⟩ := located
    simp only [Option.map_some, agree, setRecord_withPast]

/-! ## Sweeps and fresh starts -/

theorem idleSubscriptions_withPast (limit : Instant) :
    (cache.withPast past).idleSubscriptions limit = cache.idleSubscriptions limit := by
  have idle (space : Namespace) :
      ((space.rename past.names).idleRecords limit).map Record.subscription =
        (space.idleRecords limit).map Record.subscription := by
    simp only [Namespace.idleRecords, Namespace.rename, Table.values_mapValues, List.filter_map,
      List.map_map, Function.comp_def, Record.isIdle_rename, Record.subscription_rename]
  simp only [idleSubscriptions, withPast, Table.values_mapValues, List.flatMap_map, idle]

theorem dropIdle_withPast (limit : Instant) :
    (cache.withPast past).dropIdle limit = (cache.dropIdle limit).withPast past := by
  simp only [dropIdle, idleSubscriptions_withPast]
  simp only [withPast, Table.mapValues, List.map_map, Function.comp_def,
    Namespace.dropIdle_rename]

theorem trimmedChecksums_withPast :
    (cache.withPast past).trimmedChecksums = cache.trimmedChecksums := by
  have ages : (cache.withPast past).checksumsByAge = cache.checksumsByAge := by
    have sorted : (cache.withPast past).byChecksum.entries.mergeSort (fun left right =>
          decide ((cache.withPast past).contentTouch left.2 ≤
            (cache.withPast past).contentTouch right.2)) =
        (cache.byChecksum.entries.mergeSort (fun left right =>
          decide (cache.contentTouch left.2 ≤ cache.contentTouch right.2))).map
            (fun entry => (entry.1, entry.2.rename past.names)) := by
      refine (List.map_mergeSort (fun left _ right _ => ?_)).symm
      rw [contentTouch_withPast, contentTouch_withPast]
    rw [checksumsByAge, sorted, List.map_map]
    rfl
  have size : (cache.withPast past).byChecksum.size = cache.byChecksum.size :=
    Table.size_mapValues ..
  simp only [trimmedChecksums, ages, size]
  rfl

theorem trim_withPast : (cache.withPast past).trim = cache.trim.withPast past := by
  simp only [trim, trimmedChecksums_withPast]
  simp only [withPast]
  rw [Table.mapValues_filter _ _ (fun checksum _ =>
    !cache.trimmedChecksums.contains checksum)]
  exact fun _ _ => rfl

theorem prune_withPast (limit : Instant) :
    (cache.withPast past).prune limit = (cache.prune limit).withPast past := by
  have indexed (checksum : Bytes) :
      (cache.withPast past).byChecksum.contains checksum = cache.byChecksum.contains checksum :=
    Table.contains_mapValues ..
  simp only [prune, indexed]
  simp only [withPast, Table.mapValues, List.map_map, Function.comp_def]
  have pruned (space : Namespace) := Namespace.prune_rename past.names space
    (fun entry =>
      cache.byChecksum.contains entry.content.checksum && decide (limit ≤ entry.lastTouch))
    (fun _ => rfl)
  simp only [pruned]

theorem cleanup_withPast (limit : Instant) :
    (cache.withPast past).cleanup limit =
      ((cache.cleanup limit).1, (cache.cleanup limit).2.withPast past) := by
  simp only [cleanup, idleSubscriptions_withPast, dropIdle_withPast, trim_withPast,
    prune_withPast]

theorem reset_withPast :
    (cache.withPast past).reset =
      (cache.reset.1.map (Notification.rename past.names), cache.reset.2.withPast past) := by
  have told (space : Namespace) :
      (space.rename past.names).records.values.flatMap (fun record => record.deactivate.1) =
        (space.records.values.flatMap (fun record => record.deactivate.1)).map
          (Notification.rename past.names) := by
    simp only [Namespace.rename, Table.values_mapValues, List.flatMap_map, List.map_flatMap,
      Record.deactivate_rename]
  simp only [reset, withPast, Table.values_mapValues, List.flatMap_map, List.map_flatMap, told]
  rfl

end Cache

end ConfigWatch

import ConfigWatch.Proofs.Client.Storing
import ConfigWatch.Proofs.Client.Subscriptions
import Mathlib.Data.List.Nodup

/-!
# Ids and keys

Everything in a cache stands where its own key says. While ids last, the index of subscription
ids and the ids of records are inverse to each other, and no id is given out twice under one
generation, whatever sweeps have removed.
-/

set_option autoImplicit false

namespace ConfigWatch

namespace Cache

/-- Records, namespaces and contents stand under their own keys. -/
structure Labelled (cache : Cache) : Prop where
  records : ∀ space key record, cache.restAt? space key = some record → record.key = key
  namespaces : ∀ space found, cache.namespaces.get? space = some found → found.key = space
  checksums : ∀ checksum content, cache.byChecksum.get? checksum = some content →
    content.checksum = checksum

theorem Labelled.record {cache : Cache} (labelled : cache.Labelled) {space : NamespaceKey}
    {key : DocumentKey} {record : Record} (found : cache.recordAt? space key = some record) :
    record.key = key :=
  labelled.records space key record.atRest (restAt?_eq_some found)

theorem Labelled.recordFor {cache : Cache} (labelled : cache.Labelled) (space : NamespaceKey)
    (key : DocumentKey) (now : Instant) : (cache.recordFor space key now).key = key := by
  cases found : cache.recordAt? space key with
  | none => rw [recordFor_new found]
  | some record =>
    rw [recordFor_found found]
    exact labelled.record found

end Cache

namespace Client

private theorem perform_record_key {client : Client} (indexed : client.cache.Indexed)
    (labelled : client.cache.Labelled) (act : Section) {space : NamespaceKey} {key : DocumentKey}
    {rest : Record} (found : (client.perform act).2.cache.restAt? space key = some rest) :
    rest.key = key := by
  cases yields indexed found with
  | kept there => exact labelled.records space key rest there
  | @watched watcher same =>
    rw [same]
    have own := labelled.recordFor space key 0
    cases watcher <;> exact own
  | @unwatched _ _ earlier _ there same =>
    rw [same]
    exact labelled.records space key earlier there
  | replied _ there same =>
    rw [same, (client.verdict_answered _ _).key]
    exact labelled.records space key _ there

theorem perform_labelled {client : Client} (indexed : client.cache.Indexed)
    (labelled : client.cache.Labelled) (act : Section) :
    (client.perform act).2.cache.Labelled := by
  have gains := client.perform_gains act
  refine ⟨fun space key rest found => perform_record_key indexed labelled act found,
    fun space found here => ?_, fun checksum content here => ?_⟩
  · rcases gains.labelled space found here with own | ⟨earlier, there, same⟩
    · exact own
    · exact same.trans (labelled.namespaces space earlier there)
  · rcases gains.indexed checksum content here with there | ⟨_, _, _, own⟩
    · exact labelled.checksums checksum content there
    · exact own

end Client

theorem Run.labelled {start client : Client} {history : List Occurrence} (fresh : start.Fresh)
    (run : Run start history client) : client.cache.Labelled := by
  induction run with
  | start =>
    rw [fresh.eq]
    exact ⟨fun _ _ _ found => (by cases found), fun _ _ found => (by cases found),
      fun _ _ found => (by cases found)⟩
  | step act run ih => exact Client.perform_labelled (run.indexed fresh) ih act

/-! ## Ids -/

namespace Ledger

variable {ledger : Ledger} {cache : Cache}

theorem Balanced.next_toNat (balanced : ledger.Balanced cache)
    (few : ledger.opened.length < 2 ^ 32) :
    cache.nextSubscription.toNat = ledger.opened.length := by
  rw [balanced.next, UInt32.toNat_ofNat_of_lt' few]

theorem Balanced.opened_nodup (balanced : ledger.Balanced cache)
    (few : ledger.opened.length < 2 ^ 32) : (ledger.opened.map Prod.fst).Nodup := by
  rw [balanced.numbered]
  refine List.Nodup.map_on (fun left leftMember right rightMember same => ?_) List.nodup_range
  have leftBound := List.mem_range.mp leftMember
  have rightBound := List.mem_range.mp rightMember
  have equal := congrArg UInt32.toNat same
  rwa [UInt32.toNat_ofNat_of_lt' (leftBound.trans few),
    UInt32.toNat_ofNat_of_lt' (rightBound.trans few)] at equal

theorem Balanced.lt_next (balanced : ledger.Balanced cache)
    (few : ledger.opened.length < 2 ^ 32) {id : UInt32} (given : id ∈ ledger.opened.map Prod.fst) :
    id < cache.nextSubscription := by
  rw [balanced.numbered, List.mem_map] at given
  obtain ⟨number, earlier, rfl⟩ := given
  have bound := List.mem_range.mp earlier
  rw [UInt32.lt_iff_toNat_lt, balanced.next_toNat few,
    UInt32.toNat_ofNat_of_lt' (bound.trans few)]
  exact bound

end Ledger

/-- The server removes a subscription that the client holds: the client subscribes again. -/
theorem Client.applyRemoval_known {client : Client} (indexed : client.cache.Indexed) {id : UInt32}
    {space : NamespaceKey} {key : DocumentKey}
    (index : client.cache.bySubscription.get? id = some (space, key)) :
    client.applyRemoval id space key =
      (client.touchAt space key).push (.subscribe id space key) := by
  have same : Cache.SameRecords client.cache (client.touchAt space key).cache :=
    Cache.touchRecord_same ..
  have still := indexed.of_same same
  rw [← same.subscriptions] at index
  obtain ⟨record, located, _, alive⟩ := still.located? index
  have active : record.isActive = true := by simpa [Record.isActive] using alive
  simp only [applyRemoval, Cache.record?, located, Option.map_some, active, if_true]

/-- What holds of the ids and the keys of a cache. -/
structure Cache.Coherent (cache : Cache) : Prop where
  index : ∀ id space key, cache.bySubscription.get? id = some (space, key) ↔
    ∃ record, cache.recordAt? space key = some record ∧ record.key = key ∧
      record.subscription = id
  below : ∀ id, cache.bySubscription.contains id = true → id < cache.nextSubscription
  active : ∀ space key record, cache.recordAt? space key = some record → record.isActive = true
  namespaces : ∀ space found, cache.namespaces.get? space = some found → found.key = space
  checksums : ∀ checksum content, cache.byChecksum.get? checksum = some content →
    content.checksum = checksum

theorem Run.coherent {start client : Client} {history : List Occurrence} (fresh : start.Fresh)
    (run : Run start history client) (few : (ledger history client).opened.length < 2 ^ 32) :
    client.cache.Coherent := by
  have indexed := run.indexed fresh
  have labelled := run.labelled fresh
  have balanced := run.balanced fresh few
  refine ⟨fun id space key => ⟨fun index => ?_, ?_⟩, fun id used => ?_,
    fun space key record found => ?_, labelled.namespaces, labelled.checksums⟩
  · obtain ⟨record, located, same, _⟩ := indexed.located? index
    obtain ⟨_, found⟩ := Cache.located?_eq_some_iff.mp located
    exact ⟨record, found, labelled.record found, same⟩
  · rintro ⟨record, found, _, rfl⟩
    exact balanced.placed.index found
  · obtain ⟨⟨space, key⟩, index⟩ := Option.isSome_iff_exists.mp used
    exact balanced.lt_next few (List.mem_map_of_mem (balanced.standing index).1)
  · have alive := (indexed.alive space key _ (Cache.restAt?_eq_some found)).active
    simpa [Record.isActive, Record.atRest] using alive

/-- Ids and keys are in order in every state that a run with ids to spare leads to: the index and
the records are inverse to each other, ids in use lie below the next id and none was given out
twice, no record is deactivated, and no removal by the server makes the client forget an id. -/
theorem ids_coherent {start client : Client} {history : List Occurrence} (fresh : start.Fresh)
    (run : Run start history client) (few : (ledger history client).opened.length < 2 ^ 32) :
    client.cache.Coherent ∧
    (client.cache.nextSubscription.toNat = (ledger history client).opened.length ∧
      ((ledger history client).opened.map Prod.fst).Nodup ∧
      ∀ id ∈ (ledger history client).opened.map Prod.fst, id < client.cache.nextSubscription) ∧
    (∀ id space key, client.cache.bySubscription.get? id = some (space, key) →
      client.applyRemoval id space key =
        (client.touchAt space key).push (.subscribe id space key)) := by
  have balanced := run.balanced fresh few
  exact ⟨run.coherent fresh few,
    ⟨balanced.next_toNat few, balanced.opened_nodup few, fun _ => balanced.lt_next few⟩,
    fun _ _ _ => Client.applyRemoval_known (run.indexed fresh)⟩

/-- Of two documents that were watched one is swept, and watched again. -/
private def rewatching : List Section :=
  [.watch { root := "/srv" } { document := "a" } none,
    .watch { root := "/srv" } { document := "b" } (some ("B", .idle)),
    .sweep 61000000000,
    .watch { root := "/srv" } { document := "a" } none]

theorem ids_coherent_rewatching :
    let history := Client.byDefault.occurrences rewatching
    let client := Client.byDefault.performAll rewatching
    (ledger history client).opened.length < 2 ^ 32 ∧
      ((ledger history client).opened.map Prod.fst).Nodup ∧
      client.cache.nextSubscription.toNat = 3 ∧
      ∃ record, client.cache.recordAt? { root := "/srv" } { document := "a" } = some record ∧
        record.subscription = 2 := by
  intro history client
  have run : Run Client.byDefault history client := Run.start.performAll rewatching
  have given : (ledger history client).opened.map Prod.fst = [0, 1, 2] := by decide +kernel
  have three : (ledger history client).opened.length = 3 := by
    rw [← List.length_map (f := Prod.fst), given]
    rfl
  have few : (ledger history client).opened.length < 2 ^ 32 := by
    rw [three]
    decide
  have index : client.cache.bySubscription.get? 2 =
      some ({ root := "/srv" }, { document := "a" }) := by decide +kernel
  obtain ⟨coherent, ⟨next, distinct, _⟩, _⟩ := ids_coherent Client.byDefault_fresh run few
  obtain ⟨record, found, _, same⟩ := (coherent.index _ _ _).mp index
  exact ⟨few, distinct, next.trans three, record, found, same⟩

end ConfigWatch

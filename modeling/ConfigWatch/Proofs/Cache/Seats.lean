import ConfigWatch.Proofs.Cache.Observation
import Mathlib.Data.List.Basic

/-!
# Seats

Every watcher sits at one record, under an id. Watchers are told apart by the serial numbers of
their registrations, so a registration has at most one seat, and the record of that seat is its
home.
-/

set_option autoImplicit false

namespace ConfigWatch

/-- The events of some notifications that are for a registration. -/
def eventsFor (registration : Nat) (notifications : List Notification) : List Event :=
  (notifications.filter
    (fun notification => decide (notification.watcher.registration = registration))).map
    Notification.event

theorem eventsFor_append (registration : Nat) (left right : List Notification) :
    eventsFor registration (left ++ right) =
      eventsFor registration left ++ eventsFor registration right := by
  simp [eventsFor]

private theorem filter_eq_find? {α : Type} (tag : α → Nat) {items : List α}
    (differ : items.Pairwise (fun left right => tag left ≠ tag right)) (wanted : Nat) :
    items.filter (fun item => decide (tag item = wanted)) =
      (items.find? (fun item => decide (tag item = wanted))).toList := by
  induction items with
  | nil => rfl
  | cons item rest ih =>
    obtain ⟨apart, restDiffer⟩ := List.pairwise_cons.mp differ
    by_cases same : tag item = wanted
    · have none : rest.filter (fun item => decide (tag item = wanted)) = [] := by
        rw [List.filter_eq_nil_iff]
        intro other member
        simpa [← same] using (apart other member).symm
      simp [same, none]
    · simp [same, ih restDiffer]

private theorem find?_eq_some_of_mem {α : Type} (tag : α → Nat) {items : List α}
    (differ : items.Pairwise (fun left right => tag left ≠ tag right)) {item : α}
    (member : item ∈ items) :
    items.find? (fun other => decide (tag other = tag item)) = some item := by
  have alone : item ∈ items.filter (fun other => decide (tag other = tag item)) :=
    List.mem_filter.mpr ⟨member, by simp⟩
  rw [filter_eq_find? tag differ] at alone
  exact Option.mem_toList.mp alone

/-- An announcement reaches a registration once, if it reaches it at all. -/
theorem Record.eventsFor_announce {record : Record}
    (differ : record.watchers.values.Pairwise
      (fun left right => left.registration ≠ right.registration)) (registration : Nat) :
    eventsFor registration record.announce =
      if ∃ watcher ∈ record.watchers.values, watcher.registration = registration then
        record.currentEvent.toList
      else [] := by
  have alone := filter_eq_find? Watcher.registration differ registration
  cases current : record.currentEvent with
  | none => simp [announce, current, eventsFor]
  | some event =>
    have told : eventsFor registration record.announce =
        (record.watchers.values.filter
          (fun watcher => decide (watcher.registration = registration))).map (fun _ => event) := by
      simp [announce, current, eventsFor, List.filter_map, Function.comp_def]
    rw [told, alone]
    cases found : record.watchers.values.find?
        (fun watcher => decide (watcher.registration = registration)) with
    | none =>
      rw [List.find?_eq_none] at found
      rw [if_neg]
      · rfl
      · rintro ⟨watcher, member, same⟩
        exact found watcher member (decide_eq_true same)
    | some watcher =>
      have member := List.mem_of_find?_eq_some found
      have same := List.find?_some found
      rw [if_pos ⟨watcher, member, of_decide_eq_true same⟩]
      rfl

namespace Cache

/-- A watcher sits at the record of a document, under an id. -/
def Seat (cache : Cache) (space : NamespaceKey) (key : DocumentKey) (id : UInt32)
    (watcher : Watcher) : Prop :=
  ∃ record, cache.restAt? space key = some record ∧ record.watchers.get? id = some watcher

/-- Only registrations that were made have seats, and none has two. -/
structure Seated (cache : Cache) (registrations : Nat) : Prop where
  below : ∀ space key id watcher, cache.Seat space key id watcher →
    watcher.registration < registrations
  unique : ∀ space key id watcher other document number sitter,
    cache.Seat space key id watcher → cache.Seat other document number sitter →
    watcher.registration = sitter.registration → space = other ∧ key = document ∧ id = number

theorem Seat.of_record {cache : Cache} {space : NamespaceKey} {key : DocumentKey} {id : UInt32}
    {watcher : Watcher} {record : Record} (found : cache.recordAt? space key = some record)
    (sits : record.watchers.get? id = some watcher) : cache.Seat space key id watcher :=
  ⟨record.atRest, restAt?_eq_some found, sits⟩

theorem Seat.record {cache : Cache} {space : NamespaceKey} {key : DocumentKey} {id : UInt32}
    {watcher : Watcher} (seat : cache.Seat space key id watcher) :
    ∃ record, cache.recordAt? space key = some record ∧
      record.watchers.get? id = some watcher := by
  obtain ⟨rest, found, sits⟩ := seat
  obtain ⟨record, there, rfl⟩ := exists_recordAt? found
  exact ⟨record, there, sits⟩

/-- The records with their watchers. -/
def seats (cache : Cache) : List (Record × Watcher) :=
  cache.records.flatMap (fun record =>
    record.watchers.values.map (fun watcher => (record, watcher)))

/-- The record at rest at which a registration has its seat. -/
def home? (cache : Cache) (registration : Nat) : Option Record :=
  (cache.seats.find? (fun seat => decide (seat.2.registration = registration))).map
    (fun seat => seat.1.atRest)

theorem mem_seats_iff {cache : Cache} {record : Record} {watcher : Watcher} :
    (record, watcher) ∈ cache.seats ↔ ∃ space key id,
      cache.recordAt? space key = some record ∧ record.watchers.get? id = some watcher := by
  simp only [seats, List.mem_flatMap, List.mem_map, Table.mem_values_iff, mem_records_iff,
    Prod.mk.injEq]
  constructor
  · rintro ⟨held, ⟨space, key, found⟩, sitter, ⟨id, sits⟩, rfl, rfl⟩
    exact ⟨space, key, id, found, sits⟩
  · rintro ⟨space, key, id, found, sits⟩
    exact ⟨record, ⟨space, key, found⟩, watcher, ⟨id, sits⟩, rfl, rfl⟩

namespace Seated

variable {cache : Cache} {registrations : Nat}

theorem watchers_pairwise (seated : cache.Seated registrations) {space : NamespaceKey}
    {key : DocumentKey} {record : Record} (found : cache.recordAt? space key = some record) :
    record.watchers.values.Pairwise
      (fun left right => left.registration ≠ right.registration) := by
  refine Table.values_pairwise (fun id left number right leftSits rightSits differ same => ?_)
  exact differ (seated.unique _ _ _ _ _ _ _ _ (Seat.of_record found leftSits)
    (Seat.of_record found rightSits) same).2.2

theorem seats_pairwise (seated : cache.Seated registrations) :
    cache.seats.Pairwise (fun left right => left.2.registration ≠ right.2.registration) := by
  have records : cache.records.Pairwise (fun left right =>
      ∀ leftSitter ∈ left.watchers.values, ∀ rightSitter ∈ right.watchers.values,
        leftSitter.registration ≠ rightSitter.registration) := by
    refine records_pairwise (fun space key left other document right here there differ => ?_)
    intro leftSitter leftMember rightSitter rightMember same
    obtain ⟨id, leftSits⟩ := Table.mem_values_iff.mp leftMember
    obtain ⟨number, rightSits⟩ := Table.mem_values_iff.mp rightMember
    obtain ⟨sameSpace, sameKey, _⟩ := seated.unique _ _ _ _ _ _ _ _ (Seat.of_record here leftSits)
      (Seat.of_record there rightSits) same
    exact differ (Prod.ext_iff.mpr ⟨sameSpace, sameKey⟩)
  refine List.pairwise_flatMap.mpr ⟨fun record member => ?_, records.imp ?_⟩
  · obtain ⟨space, key, found⟩ := mem_records_iff.mp member
    exact List.pairwise_map.mpr (seated.watchers_pairwise found)
  · intro left right apart leftSeat leftMember rightSeat rightMember
    obtain ⟨leftSitter, leftSits, rfl⟩ := List.mem_map.mp leftMember
    obtain ⟨rightSitter, rightSits, rfl⟩ := List.mem_map.mp rightMember
    exact apart leftSitter leftSits rightSitter rightSits

theorem home?_eq_some_iff (seated : cache.Seated registrations) {registration : Nat}
    {rest : Record} :
    cache.home? registration = some rest ↔ ∃ space key id watcher,
      cache.restAt? space key = some rest ∧ rest.watchers.get? id = some watcher ∧
        watcher.registration = registration := by
  rw [home?, Option.map_eq_some_iff]
  constructor
  · rintro ⟨⟨record, watcher⟩, found, rfl⟩
    obtain ⟨space, key, id, there, sits⟩ := mem_seats_iff.mp (List.mem_of_find?_eq_some found)
    have same := List.find?_some found
    exact ⟨space, key, id, watcher, restAt?_eq_some there, sits, of_decide_eq_true same⟩
  · rintro ⟨space, key, id, watcher, found, sits, rfl⟩
    obtain ⟨record, there, rfl⟩ := exists_recordAt? found
    have member : (record, watcher) ∈ cache.seats := mem_seats_iff.mpr ⟨space, key, id, there, sits⟩
    exact ⟨(record, watcher),
      find?_eq_some_of_mem (fun seat : Record × Watcher => seat.2.registration)
        seated.seats_pairwise member, rfl⟩

end Seated

theorem home?_eq_none_iff {cache : Cache} {registration : Nat} :
    cache.home? registration = none ↔
      ∀ space key id watcher, cache.Seat space key id watcher →
        watcher.registration ≠ registration := by
  rw [home?, Option.map_eq_none_iff, List.find?_eq_none]
  constructor
  · intro absent space key id watcher seat
    obtain ⟨record, found, sits⟩ := seat.record
    simpa using absent (record, watcher) (mem_seats_iff.mpr ⟨space, key, id, found, sits⟩)
  · rintro absent ⟨record, watcher⟩ member
    obtain ⟨space, key, id, found, sits⟩ := mem_seats_iff.mp member
    simpa using absent space key id watcher (Seat.of_record found sits)

/-- A fresh start tells every registration that has a seat, once, that it was removed. -/
theorem Seated.eventsFor_reset {cache : Cache} {registrations : Nat}
    (seated : cache.Seated registrations)
    (active : ∀ record ∈ cache.records, record.state ≠ .deactivated) (registration : Nat) :
    eventsFor registration cache.reset.1 =
      (cache.home? registration).toList.map (fun record => record.event .removed) := by
  have ended : cache.reset.1 =
      cache.seats.map (fun seat => ⟨seat.2, seat.1.event .removed⟩) := by
    rw [reset_notifications, seats, List.map_flatMap]
    refine List.flatMap_congr (fun record member => ?_)
    rw [Record.deactivate, if_neg (active record member), Record.notifyAll, List.map_map]
    rfl
  have alone := filter_eq_find? (fun seat : Record × Watcher => seat.2.registration)
    seated.seats_pairwise registration
  rw [ended, eventsFor, List.filter_map, List.map_map]
  simp only [Function.comp_def]
  rw [alone, home?]
  cases cache.seats.find? (fun seat => decide (seat.2.registration = registration)) <;> rfl

end Cache

end ConfigWatch

import ConfigWatch.Cache.Cleanup
import ConfigWatch.Proofs.Table

/-!
# Renaming

Contents and registrations are told apart by numbers that mean nothing else. A renaming gives them
other numbers, throughout a record or a namespace. Nothing that is done to a record looks at the
numbers, so it may be done before a renaming or after it.
-/

set_option autoImplicit false

namespace ConfigWatch

/-- Other ids for contents and other serial numbers for registrations. -/
structure Renaming where
  content : Nat → Nat := id
  registration : Nat → Nat := id

variable (names : Renaming)

def Content.rename (content : Content) : Content :=
  { content with id := names.content content.id }

def Watcher.rename (watcher : Watcher) : Watcher :=
  { watcher with registration := names.registration watcher.registration }

def Event.rename (event : Event) : Event :=
  { event with content := event.content.map (Content.rename names) }

def Notification.rename (notification : Notification) : Notification :=
  ⟨notification.watcher.rename names, notification.event.rename names⟩

def VersionEntry.rename (entry : VersionEntry) : VersionEntry :=
  { entry with content := entry.content.rename names }

def Record.rename (record : Record) : Record :=
  { record with
    latest := record.latest.map (fun held => (held.1, held.2.rename names))
    watchers := record.watchers.mapValues (fun _ => Watcher.rename names) }

def Namespace.rename (space : Namespace) : Namespace :=
  { space with
    records := space.records.mapValues (fun _ => Record.rename names)
    versions := space.versions.mapValues (fun _ => VersionEntry.rename names) }

@[simp] theorem Content.checksum_rename (content : Content) :
    (content.rename names).checksum = content.checksum := rfl

/-! ## Records -/

namespace Record

variable (record : Record)

@[simp] theorem key_rename : (record.rename names).key = record.key := rfl

@[simp] theorem subscription_rename :
    (record.rename names).subscription = record.subscription := rfl

@[simp] theorem state_rename : (record.rename names).state = record.state := rfl

@[simp] theorem status_rename : (record.rename names).status = record.status := rfl

@[simp] theorem latest_rename : (record.rename names).latest =
    record.latest.map (fun held => (held.1, held.2.rename names)) := rfl

@[simp] theorem isActive_rename : (record.rename names).isActive = record.isActive := rfl

@[simp] theorem isIdle_rename (limit : Instant) :
    (record.rename names).isIdle limit = record.isIdle limit := by
  have size : (record.rename names).watchers.size = record.watchers.size := Table.size_mapValues ..
  rw [isIdle, isIdle, size]
  rfl

theorem event_rename (status : ReplyStatus) :
    (record.rename names).event status = (record.event status).rename names := by
  simp only [event, Event.rename, rename, Option.map_map]
  rfl

theorem currentEvent_rename :
    (record.rename names).currentEvent = record.currentEvent.map (Event.rename names) := by
  rw [currentEvent, currentEvent, status_rename, Option.map_map]
  exact congrArg (Option.map · record.status) (funext (event_rename names record))

theorem notifyAll_rename (status : ReplyStatus) : (record.rename names).notifyAll status =
    (record.notifyAll status).map (Notification.rename names) := by
  have watchers : (record.rename names).watchers.values =
      record.watchers.values.map (Watcher.rename names) := Table.values_mapValues ..
  rw [notifyAll, notifyAll, event_rename, watchers, List.map_map, List.map_map]
  rfl

theorem addWatcher_rename (watcher : Watcher) :
    (record.rename names).addWatcher (watcher.rename names) =
      ((record.addWatcher watcher).1, (record.addWatcher watcher).2.rename names) := by
  simp only [addWatcher, rename, Table.mapValues_insert]

theorem removeWatcher_rename (id : UInt32) : (record.rename names).removeWatcher id =
    ((record.removeWatcher id).1, (record.removeWatcher id).2.rename names) := by
  simp only [removeWatcher, rename, Table.mapValues_erase, Table.contains_mapValues]

@[simp] theorem isNews_rename (version : Version) :
    (record.rename names).isNews version = record.isNews version := by
  simp only [isNews, latest_rename]
  cases record.latest <;> rfl

@[simp] theorem changes_rename (content : Content) :
    (record.rename names).changes (content.rename names) = record.changes content := by
  simp only [changes, latest_rename]
  cases record.latest <;> rfl

theorem update_rename (version : Version) (content : Content) :
    (record.rename names).update version (content.rename names) =
      ((record.update version content).1.map (Notification.rename names),
        (record.update version content).2.rename names) := by
  have state : (record.rename names).state = record.state := rfl
  by_cases gone : record.state = .deactivated
  · rw [Record.update, if_pos (state.trans gone), Record.update, if_pos gone]
    rfl
  rw [Record.update, if_neg (state ▸ gone), Record.update, if_neg gone, isNews_rename,
    changes_rename, status_rename]
  have updated : ({ record.rename names with
        latest := some (version, content.rename names), state := .active, status := some .ok } :
          Record) =
      ({ record with
        latest := some (version, content), state := .active, status := some .ok } :
          Record).rename names := rfl
  cases record.isNews version with
  | false => rfl
  | true =>
    cases record.changes content || record.status != some .ok with
    | false => exact congrArg (Prod.mk []) updated
    | true => exact Prod.ext (updated ▸ notifyAll_rename names _ .ok) updated

theorem updateStatus_rename (status : ReplyStatus) :
    (record.rename names).updateStatus status =
      ((record.updateStatus status).1.map (Notification.rename names),
        (record.updateStatus status).2.rename names) := by
  have state : (record.rename names).state = record.state := rfl
  by_cases gone : record.state = .deactivated
  · rw [Record.updateStatus, if_pos (state.trans gone), Record.updateStatus, if_pos gone]
    rfl
  rw [Record.updateStatus, if_neg (state ▸ gone), Record.updateStatus, if_neg gone, status_rename]
  have updated : ({ record.rename names with state := .active, status := some status } :
        Record) =
      ({ record with state := .active, status := some status } : Record).rename names := rfl
  cases record.status != some status with
  | false => exact congrArg (Prod.mk []) updated
  | true => exact Prod.ext (updated ▸ notifyAll_rename names _ status) updated

theorem deactivate_rename : (record.rename names).deactivate =
    (record.deactivate.1.map (Notification.rename names),
      record.deactivate.2.rename names) := by
  have state : (record.rename names).state = record.state := rfl
  by_cases gone : record.state = .deactivated
  · rw [deactivate, if_pos (state.trans gone), deactivate, if_pos gone]
    rfl
  · rw [deactivate, if_neg (state ▸ gone), deactivate, if_neg gone, notifyAll_rename]
    rfl

/-- A renaming that keeps all the numbers in a record keeps the record. -/
theorem rename_same {content : Nat → Nat} {record : Record}
    (same : ∀ version held, record.latest = some (version, held) → content held.id = held.id) :
    record.rename ⟨content, id⟩ = record := by
  have watchers : record.watchers.mapValues (fun _ => Watcher.rename ⟨content, id⟩) =
      record.watchers := Table.mapValues_same (fun _ _ _ => rfl)
  have latest : record.latest.map (fun held => (held.1, held.2.rename ⟨content, id⟩)) =
      record.latest := by
    cases held : record.latest with
    | none => rfl
    | some pair => exact congrArg (fun id => some (pair.1, { pair.2 with id })) (same _ _ held)
  rw [rename, watchers, latest]

end Record

end ConfigWatch

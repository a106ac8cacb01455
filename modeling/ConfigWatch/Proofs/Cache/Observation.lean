import ConfigWatch.Proofs.Cache.Records
import Mathlib.Tactic.SplitIfs

/-!
# What watchers can tell about a record

A record shows the outcome of the last reply and the checksum of the content it holds. Watchers
are told when a reply changes what the record shows, and not otherwise.
-/

set_option autoImplicit false

namespace ConfigWatch

/-- What an event shows: its outcome and the checksum of its content. -/
def Event.shown (event : Event) : ReplyStatus × Option Bytes :=
  (event.status, event.content.map Content.checksum)

theorem Version.supersedes_eq_false_iff {version current : Version} :
    version.supersedes current = false ↔
      version.namespaceId = current.namespaceId ∧ version.number ≤ current.number := by
  rw [supersedes, compare?, UInt32.le_iff_toNat_le]
  split
  · next ordering compared =>
    split at compared
    · next same =>
      obtain rfl := Option.some.inj compared
      simp [same, Nat.compare_eq_gt]
    · cases compared
  · next compared =>
    split at compared
    · cases compared
    · next differs => simp [differs]

namespace Record

/-- What a record shows: the outcome of the last reply, if there was one, and the checksum of the
content held, if there is one. -/
def shown (record : Record) : Option ReplyStatus × Option Bytes :=
  (record.status, record.latest.map (fun held => held.2.checksum))

/-- One notification of the present state for every watcher. -/
def announce (record : Record) : List Notification :=
  record.currentEvent.toList.flatMap (fun event =>
    record.watchers.values.map (fun watcher => ⟨watcher, event⟩))

/-- What watchers are to be told when a record becomes another. -/
def news (earlier later : Record) : List Notification :=
  if earlier.shown = later.shown then [] else later.announce

/-- The relation of a record to what a reply makes of it: the subscription and the watchers stay,
some outcome is held, and the watchers are told the news. -/
structure Answered (earlier later : Record) (told : List Notification) : Prop where
  key : later.key = earlier.key
  subscription : later.subscription = earlier.subscription
  watchers : later.watchers = earlier.watchers
  nextWatcher : later.nextWatcher = earlier.nextWatcher
  lastTouch : later.lastTouch = earlier.lastTouch
  told : told = news earlier later

theorem shown_currentEvent (record : Record) :
    record.currentEvent.map Event.shown =
      record.shown.1.map (fun status => (status, record.shown.2)) := by
  simp [currentEvent, shown, Event.shown, event, Function.comp_def]

theorem shown_eq_of_currentEvent {left right : Record} {shown : ReplyStatus × Option Bytes}
    (here : left.currentEvent.map Event.shown = some shown)
    (there : right.currentEvent.map Event.shown = some shown) : left.shown = right.shown := by
  rw [shown_currentEvent] at here there
  obtain ⟨status, held, rfl⟩ := Option.map_eq_some_iff.mp here
  obtain ⟨other, heldToo, same⟩ := Option.map_eq_some_iff.mp there
  obtain ⟨rfl, content⟩ := Prod.ext_iff.mp same
  exact Prod.ext (held.trans heldToo.symm) content.symm

theorem announce_eq_notifyAll {record : Record} {status : ReplyStatus}
    (outcome : record.status = some status) : record.announce = record.notifyAll status := by
  simp [announce, currentEvent, outcome, notifyAll]

theorem shown_updated_eq_iff {record : Record} {version : Version} {content : Content} :
    record.shown = ({ record with
      latest := some (version, content), state := .active, status := some .ok } : Record).shown ↔
      record.changes content = false ∧ record.status = some .ok := by
  unfold shown changes
  cases record.latest <;> simp [and_comm]

theorem update_answered (record : Record) (version : Version) (content : Content) :
    Answered record (record.update version content).2 (record.update version content).1 := by
  have unchanged : Answered record record [] := ⟨rfl, rfl, rfl, rfl, rfl, by simp [news]⟩
  unfold update
  split
  · exact unchanged
  · split
    · exact unchanged
    · split
      · next told =>
        refine ⟨rfl, rfl, rfl, rfl, rfl, ?_⟩
        have differs : ¬ record.shown = ({ record with
            latest := some (version, content), state := .active, status := some .ok } :
              Record).shown := by
          rw [shown_updated_eq_iff]
          rintro ⟨sameContent, sameOutcome⟩
          simp [sameContent, sameOutcome] at told
        rw [news, if_neg differs, announce_eq_notifyAll rfl]
      · next untold =>
        refine ⟨rfl, rfl, rfl, rfl, rfl, ?_⟩
        rw [news, if_pos]
        rw [shown_updated_eq_iff]
        simpa using untold

theorem updateStatus_answered (record : Record) (status : ReplyStatus) :
    Answered record (record.updateStatus status).2 (record.updateStatus status).1 := by
  unfold updateStatus
  split
  · exact ⟨rfl, rfl, rfl, rfl, rfl, by simp [news]⟩
  · split
    · next told =>
      refine ⟨rfl, rfl, rfl, rfl, rfl, ?_⟩
      have differs : ¬ record.shown =
          ({ record with state := .active, status := some status } : Record).shown := by
        simpa [shown] using told
      rw [news, if_neg differs, announce_eq_notifyAll rfl]
    · next untold =>
      refine ⟨rfl, rfl, rfl, rfl, rfl, ?_⟩
      rw [news, if_pos]
      simpa [shown] using untold

theorem updateStatus_latest (record : Record) (status : ReplyStatus) :
    (record.updateStatus status).2.latest = record.latest := by
  unfold updateStatus
  split_ifs <;> rfl

theorem update_latest (record : Record) (version : Version) (content : Content) :
    (record.update version content).2.latest = record.latest ∨
      (record.update version content).2.latest = some (version, content) := by
  unfold update
  split_ifs
  · exact .inl rfl
  · exact .inl rfl
  · exact .inr rfl
  · exact .inr rfl

theorem update_of_stale {record : Record} {version : Version} {content : Content}
    (stale : record.isNews version = false) : record.update version content = ([], record) := by
  rw [update, if_pos stale, ite_self]

theorem updateStatus_of_active {record : Record} (active : record.state = .active)
    (status : ReplyStatus) :
    record.updateStatus status =
      (if record.status = some status then [] else record.notifyAll status,
        { record with status := some status }) := by
  have same : ({ record with state := .active, status := some status } : Record) =
      { record with status := some status } := by rw [← active]
  have alive : record.state ≠ .deactivated := by
    rw [active]
    decide
  rw [updateStatus, if_neg alive, same]
  by_cases known : record.status = some status
  · simp [known]
  · simp [known, notifyAll, event]

/-! ## At rest -/

theorem update_atRest (version : Version) (content : Content) (record : Record) :
    record.atRest.update version content =
      ((record.update version content).1, (record.update version content).2.atRest) := by
  have news : record.atRest.isNews version = record.isNews version := rfl
  have change : record.atRest.changes content = record.changes content := rfl
  have state : record.atRest.state = record.state := rfl
  have status : record.atRest.status = record.status := rfl
  simp only [update, news, change, state, status]
  split_ifs <;> rfl

theorem updateStatus_atRest (status : ReplyStatus) (record : Record) :
    record.atRest.updateStatus status =
      ((record.updateStatus status).1, (record.updateStatus status).2.atRest) := by
  have state : record.atRest.state = record.state := rfl
  have held : record.atRest.status = record.status := rfl
  simp only [updateStatus, state, held]
  split_ifs <;> rfl

/-! ## Stages -/

/-- A record of a cache: not deactivated, pending and without content just as long as there was no
outcome, and never with the outcome that ends it. -/
structure Alive (record : Record) : Prop where
  active : record.state ≠ .deactivated
  pending : record.state = .pending ↔ record.status = none
  empty : record.status = none → record.latest = none
  unended : record.status ≠ some .removed

theorem Alive.update {record : Record} (alive : record.Alive) (version : Version)
    (content : Content) : (record.update version content).2.Alive := by
  unfold Record.update
  split
  · exact alive
  · split
    · exact alive
    · split <;> exact ⟨by simp, by simp, by simp, by simp⟩

theorem Alive.updateStatus {record : Record} (alive : record.Alive) {status : ReplyStatus}
    (unended : status ≠ .removed) : (record.updateStatus status).2.Alive := by
  unfold Record.updateStatus
  split
  · exact alive
  · split <;> exact ⟨by simp, by simp, by simp, by simpa using unended⟩

/-- A record that holds a content was answered, and is active. -/
theorem Alive.active_of_latest {record : Record} (alive : record.Alive)
    {held : Version × Content} (latest : record.latest = some held) :
    record.state = .active := by
  cases state : record.state with
  | active => rfl
  | deactivated => exact absurd state alive.active
  | pending =>
    have empty := alive.empty (alive.pending.mp state)
    rw [latest] at empty
    cases empty

end Record

end ConfigWatch

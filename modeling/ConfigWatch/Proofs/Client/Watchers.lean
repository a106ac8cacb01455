import ConfigWatch.Proofs.Cache.Seats
import ConfigWatch.Proofs.Client.Coherence
import Mathlib.Order.Nat

/-!
# Who watches

A watch gives its watcher a seat. The seat lasts until the watcher is removed, until the cache
starts afresh, or until its id is given out again at the same record. Sweeps and replies leave all
seats as they are.
-/

set_option autoImplicit false

namespace ConfigWatch

namespace Cache

theorem SameRecords.seat_iff {before after : Cache} (same : SameRecords before after)
    {space : NamespaceKey} {key : DocumentKey} {id : UInt32} {watcher : Watcher} :
    after.Seat space key id watcher ↔ before.Seat space key id watcher := by
  rw [Seat, Seat, same.records]

theorem seat_cleanup_iff {cache : Cache} {limit : Instant} {space : NamespaceKey}
    {key : DocumentKey} {id : UInt32} {watcher : Watcher} :
    (cache.cleanup limit).2.Seat space key id watcher ↔ cache.Seat space key id watcher := by
  constructor
  · rintro ⟨rest, found, sits⟩
    exact ⟨rest, restAt?_of_cleanup found, sits⟩
  · intro seat
    obtain ⟨record, found, sits⟩ := seat.record
    refine ⟨record.atRest, restAt?_cleanup_eq_some_iff.mpr ⟨record, found, ?_, rfl⟩, sits⟩
    have watched : (record.watchers.size == 0) = false := by
      have member := Table.get?_eq_some_iff.mp sits
      cases entries : record.watchers.entries with
      | nil => simp [entries] at member
      | cons => simp [Table.size, entries]
    rw [Record.isIdle, watched, Bool.false_and]

theorem not_seat_reset {cache : Cache} {space : NamespaceKey} {key : DocumentKey} {id : UInt32}
    {watcher : Watcher} : ¬ cache.reset.2.Seat space key id watcher := by
  rintro ⟨rest, found, _⟩
  cases found

theorem seat_iff_recordFor {cache : Cache} {space : NamespaceKey} {key : DocumentKey}
    {id : UInt32} {watcher : Watcher} :
    cache.Seat space key id watcher ↔
      (cache.recordFor space key 0).watchers.get? id = some watcher := by
  cases found : cache.recordAt? space key with
  | none => simp [Seat, restAt?, found, recordFor_new found]
  | some record => simp [Seat, restAt?, found, recordFor_found found, Record.atRest]

theorem Seated.of_subset {before after : Cache} {registrations : Nat}
    (seated : before.Seated registrations)
    (subset : ∀ {space key id watcher}, after.Seat space key id watcher →
      before.Seat space key id watcher) : after.Seated registrations :=
  ⟨fun _ _ _ _ seat => seated.below _ _ _ _ (subset seat),
    fun _ _ _ _ _ _ _ _ left right => seated.unique _ _ _ _ _ _ _ _ (subset left) (subset right)⟩

end Cache

namespace Client

/-- The seats after a watch: the new watcher, if there is one, sits under the next id of the
record. -/
theorem Registers.seat_iff {client after : Client} {space : NamespaceKey} {key : DocumentKey}
    {watcher : Option (String × Reaction)} {initial : Option Notification}
    (effect : Registers client space key watcher initial after) {other : NamespaceKey}
    {document : DocumentKey} {id : UInt32} {sitter : Watcher} :
    after.cache.Seat other document id sitter ↔
      match watcher with
      | none => client.cache.Seat other document id sitter
      | some (label, reaction) =>
        if (other = space ∧ document = key) ∧
            id = (client.cache.recordFor space key 0).nextWatcher then
          sitter = { label, reaction, registration := client.registrations }
        else client.cache.Seat other document id sitter := by
  rw [Cache.Seat, effect.records]
  by_cases here : other = space ∧ document = key
  · obtain ⟨rfl, rfl⟩ := here
    rw [if_pos ⟨rfl, rfl⟩, Cache.seat_iff_recordFor]
    cases watcher with
    | none => simp [Record.joined, Record.atRest]
    | some watcher =>
      obtain ⟨label, reaction⟩ := watcher
      simp only [Record.joined, Record.addWatcher, Record.atRest, Option.some.injEq,
        exists_eq_left', Table.get?_insert, true_and]
      split
      · simp [eq_comm]
      · rfl
  · rw [if_neg here]
    cases watcher with
    | none => rfl
    | some watcher =>
      simp only [here, false_and, if_false]
      rfl

theorem Unwatches.seat_iff {client after : Client} {subscription watcher : UInt32}
    (effect : Unwatches client subscription watcher after) {space : NamespaceKey}
    {key : DocumentKey} {id : UInt32} {sitter : Watcher} :
    after.cache.Seat space key id sitter ↔ client.cache.Seat space key id sitter ∧
      ¬ (client.cache.bySubscription.get? subscription = some (space, key) ∧ id = watcher) := by
  rw [Cache.Seat, Cache.Seat, effect.records]
  by_cases here : client.cache.bySubscription.get? subscription = some (space, key)
  · rw [if_pos here]
    simp only [here, true_and, Option.map_eq_some_iff]
    constructor
    · rintro ⟨_, ⟨rest, found, rfl⟩, sits⟩
      simp only [Record.removeWatcher, Table.get?_erase] at sits
      split at sits
      · cases sits
      · next differs => exact ⟨⟨rest, found, sits⟩, differs⟩
    · rintro ⟨⟨rest, found, sits⟩, differs⟩
      refine ⟨_, ⟨rest, found, rfl⟩, ?_⟩
      simp only [Record.removeWatcher, Table.get?_erase, if_neg differs, sits]
  · rw [if_neg here]
    simp only [here, false_and, not_false_eq_true, and_true]

theorem Replies.seat_iff {client after : Client} {reply : WatchResponse} {space : NamespaceKey}
    {key : DocumentKey} {record : Record} {told : List Notification}
    (effect : Replies client reply space key record told after)
    (located : client.cache.located? reply.uid = some (space, key, record))
    {other : NamespaceKey} {document : DocumentKey} {id : UInt32} {sitter : Watcher} :
    after.cache.Seat other document id sitter ↔ client.cache.Seat other document id sitter := by
  rw [Cache.Seat, Cache.Seat, effect.records]
  split
  · next here =>
    obtain ⟨rfl, rfl⟩ := here
    obtain ⟨_, found⟩ := Cache.located?_eq_some_iff.mp located
    rw [Cache.restAt?_eq_some found]
    simp [(verdict_answered client reply record.atRest).watchers]
  · rfl

private theorem Registers.seated {client after : Client} {space : NamespaceKey}
    {key : DocumentKey} {watcher : Option (String × Reaction)} {initial : Option Notification}
    (effect : Registers client space key watcher initial after)
    (seated : client.cache.Seated client.registrations) :
    after.cache.Seated after.registrations := by
  rw [effect.registrations]
  cases watcher with
  | none => exact seated.of_subset effect.seat_iff.mp
  | some watcher =>
    obtain ⟨label, reaction⟩ := watcher
    have place {other : NamespaceKey} {document : DocumentKey} {id : UInt32} {sitter : Watcher}
        (seat : after.cache.Seat other document id sitter) :
        ((other = space ∧ document = key) ∧
            id = (client.cache.recordFor space key 0).nextWatcher ∧
            sitter.registration = client.registrations) ∨
          client.cache.Seat other document id sitter := by
      have seat := effect.seat_iff.mp seat
      dsimp only at seat
      split at seat
      · next here => exact .inl ⟨here.1, here.2, by rw [seat]⟩
      · exact .inr seat
    constructor
    · intro other document id sitter seat
      rcases place seat with ⟨_, _, new⟩ | old
      · simp [new]
      · exact Nat.lt_succ_of_lt (seated.below _ _ _ _ old)
    · intro other document id sitter another paper number guest left right same
      rcases place left with ⟨leftHere, leftId, leftNew⟩ | leftOld
      · rcases place right with ⟨rightHere, rightId, _⟩ | rightOld
        · exact ⟨leftHere.1.trans rightHere.1.symm, leftHere.2.trans rightHere.2.symm,
            leftId.trans rightId.symm⟩
        · have below := seated.below _ _ _ _ rightOld
          omega
      · rcases place right with ⟨_, _, rightNew⟩ | rightOld
        · have below := seated.below _ _ _ _ leftOld
          omega
        · exact seated.unique _ _ _ _ _ _ _ _ leftOld rightOld same

theorem perform_seated {client : Client} (indexed : client.cache.Indexed)
    (seated : client.cache.Seated client.registrations) (act : Section) :
    (client.perform act).2.cache.Seated (client.perform act).2.registrations := by
  have step := does indexed act
  generalize client.perform act = result at step
  cases step with
  | quiet same =>
    rw [same.registrations]
    exact seated.of_subset same.records.seat_iff.mp
  | watches effect => exact effect.seated seated
  | unwatches effect =>
    rw [effect.registrations]
    exact seated.of_subset (fun seat => (effect.seat_iff.mp seat).1)
  | replies located effect =>
    rw [effect.registrations]
    exact seated.of_subset (effect.seat_iff located).mp
  | sweeps reached => exact seated.of_subset Cache.seat_cleanup_iff.mp
  | resets _ cache registrations =>
    rw [cache, registrations]
    exact seated.of_subset (fun seat => absurd seat Cache.not_seat_reset)

/-- A registration gets no seat after it was made. -/
theorem seat_before {client : Client} (indexed : client.cache.Indexed) {act : Section}
    {space : NamespaceKey} {key : DocumentKey} {id : UInt32} {sitter : Watcher}
    (seat : (client.perform act).2.cache.Seat space key id sitter)
    (old : sitter.registration < client.registrations) :
    client.cache.Seat space key id sitter := by
  have step := does indexed act
  generalize client.perform act = result at step seat
  cases step with
  | quiet same => exact same.records.seat_iff.mp seat
  | @watches _ _ watcher _ _ effect =>
    have seat := effect.seat_iff.mp seat
    cases watcher with
    | none => exact seat
    | some watcher =>
      dsimp only at seat
      split at seat
      · subst seat
        exact absurd old (lt_irrefl _)
      · exact seat
  | unwatches effect => exact (effect.seat_iff.mp seat).1
  | replies located effect => exact (effect.seat_iff located).mp seat
  | sweeps reached => exact Cache.seat_cleanup_iff.mp seat
  | resets _ cache _ =>
    rw [cache] at seat
    exact absurd seat Cache.not_seat_reset

theorem registrations_le {client : Client} (indexed : client.cache.Indexed) (act : Section) :
    client.registrations ≤ (client.perform act).2.registrations := by
  have step := does indexed act
  generalize client.perform act = result at step
  cases step with
  | quiet same => exact same.registrations.ge
  | watches effect =>
    rw [effect.registrations]
    exact Nat.le_add_right ..
  | unwatches effect => exact effect.registrations.ge
  | replies located effect => exact effect.registrations.ge
  | sweeps reached => exact le_rfl
  | resets _ _ registrations => exact registrations.ge

theorem seat_of_registered {client : Client} (indexed : client.cache.Indexed) {act : Section}
    {registration : Nat} (made : client.registrations ≤ registration)
    (counted : registration < (client.perform act).2.registrations) :
    ∃ space key id sitter, (client.perform act).2.cache.Seat space key id sitter ∧
      sitter.registration = registration := by
  have step := does indexed act
  generalize client.perform act = result at step counted
  cases step with
  | quiet same =>
    rw [same.registrations] at counted
    omega
  | @watches space key watcher _ _ effect =>
    rw [effect.registrations] at counted
    cases watcher with
    | none => simp at counted; omega
    | some watcher =>
      obtain ⟨label, reaction⟩ := watcher
      have same : registration = client.registrations := by simp at counted; omega
      refine ⟨space, key, (client.cache.recordFor space key 0).nextWatcher,
        { label, reaction, registration := client.registrations }, effect.seat_iff.mpr ?_,
        same.symm⟩
      simp
  | unwatches effect =>
    rw [effect.registrations] at counted
    omega
  | replies located effect =>
    rw [effect.registrations] at counted
    omega
  | sweeps reached =>
    dsimp only at counted
    omega
  | resets _ _ registrations =>
    rw [registrations] at counted
    omega

end Client

theorem Run.seated {start client : Client} {history : List Occurrence} (fresh : start.Fresh)
    (run : Run start history client) : client.cache.Seated client.registrations := by
  induction run with
  | start =>
    rw [fresh.eq]
    constructor
    · rintro _ _ _ _ ⟨_, found, _⟩
      cases found
    · rintro _ _ _ _ _ _ _ _ ⟨_, found, _⟩
      cases found
  | step act run ih => exact Client.perform_seated (run.indexed fresh) ih act

/-! ## Ids of watchers -/

/-- From a watcher to the next id of its record it is as many steps as there were registrations at
the record since, its own included. -/
def Cache.Spaced (cache : Cache) (registrations : Nat) : Prop :=
  ∀ space key rest id watcher, cache.restAt? space key = some rest →
    rest.watchers.get? id = some watcher →
      ∃ later, rest.nextWatcher = id + UInt32.ofNat (later + 1) ∧
        watcher.registration + later < registrations

namespace Client

private theorem Registers.spaced {client after : Client} {space : NamespaceKey}
    {key : DocumentKey} {watcher : Option (String × Reaction)} {initial : Option Notification}
    (effect : Registers client space key watcher initial after)
    (spaced : client.cache.Spaced client.registrations) :
    after.cache.Spaced after.registrations := by
  intro other document rest id sitter found sits
  have grown : client.registrations ≤ after.registrations := by
    rw [effect.registrations]
    exact Nat.le_add_right ..
  rw [effect.records] at found
  split at found
  · next here =>
    obtain ⟨rfl, rfl⟩ := here
    obtain rfl := Option.some.inj found
    have before (held : (client.cache.recordFor other document 0).watchers.get? id = some sitter) :
        ∃ later, (client.cache.recordFor other document 0).nextWatcher =
            id + UInt32.ofNat (later + 1) ∧
          sitter.registration + later < client.registrations := by
      cases present : client.cache.recordAt? other document with
      | none =>
        rw [Cache.recordFor_new present] at held
        cases held
      | some record =>
        rw [Cache.recordFor_found present] at held ⊢
        exact spaced other document record.atRest id sitter (Cache.restAt?_eq_some present) held
    cases watcher with
    | none =>
      obtain ⟨later, next, below⟩ := before sits
      exact ⟨later, next, below.trans_le grown⟩
    | some watcher =>
      obtain ⟨label, reaction⟩ := watcher
      have count : after.registrations = client.registrations + 1 := effect.registrations
      simp only [Record.joined, Record.addWatcher, Record.atRest, Table.get?_insert] at sits ⊢
      split at sits
      · next new =>
        obtain rfl := Option.some.inj sits
        exact ⟨0, by rw [new]; rfl, by dsimp only; omega⟩
      · obtain ⟨later, next, below⟩ := before sits
        refine ⟨later + 1, ?_, by omega⟩
        rw [next, UInt32.ofNat_add (later + 1) 1, ← UInt32.add_assoc]
        rfl
  · obtain ⟨later, next, below⟩ := spaced other document rest id sitter found sits
    exact ⟨later, next, below.trans_le grown⟩

theorem perform_spaced {client : Client} (indexed : client.cache.Indexed)
    (spaced : client.cache.Spaced client.registrations) (act : Section) :
    (client.perform act).2.cache.Spaced (client.perform act).2.registrations := by
  have step := does indexed act
  generalize client.perform act = result at step
  cases step with
  | quiet same =>
    intro space key rest id watcher found sits
    rw [same.records.records] at found
    rw [same.registrations]
    exact spaced space key rest id watcher found sits
  | watches effect => exact effect.spaced spaced
  | unwatches effect =>
    intro space key rest id watcher found sits
    rw [effect.records] at found
    rw [effect.registrations]
    split at found
    · obtain ⟨earlier, there, rfl⟩ := Option.map_eq_some_iff.mp found
      simp only [Record.removeWatcher, Table.get?_erase] at sits
      split at sits
      · cases sits
      · exact spaced space key earlier id watcher there sits
    · exact spaced space key rest id watcher found sits
  | @replies reply space key record _ _ located effect =>
    intro other document rest id watcher found sits
    rw [effect.records] at found
    rw [effect.registrations]
    split at found
    · next here =>
      obtain ⟨rfl, rfl⟩ := here
      obtain rfl := Option.some.inj found
      obtain ⟨_, there⟩ := Cache.located?_eq_some_iff.mp located
      have answered := verdict_answered client reply record.atRest
      rw [answered.watchers] at sits
      rw [answered.nextWatcher]
      exact spaced other document _ id watcher (Cache.restAt?_eq_some there) sits
    · exact spaced other document rest id watcher found sits
  | sweeps reached =>
    intro space key rest id watcher found sits
    exact spaced space key rest id watcher (Cache.restAt?_of_cleanup found) sits
  | resets _ cache _ =>
    intro space key rest id watcher found sits
    rw [cache] at found
    cases found

end Client

theorem Run.spaced {start client : Client} {history : List Occurrence} (fresh : start.Fresh)
    (run : Run start history client) : client.cache.Spaced client.registrations := by
  induction run with
  | start =>
    rw [fresh.eq]
    intro _ _ _ _ _ found
    cases found
  | step act run ih => exact Client.perform_spaced (run.indexed fresh) ih act

end ConfigWatch

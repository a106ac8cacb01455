import ConfigWatch.Proofs.Client.Watchers
import Mathlib.Algebra.Group.Nat.Defs

/-!
# How registrations end

A registration loses its seat at most once, and in one of three ways: the watcher is removed, the
cache starts afresh, or the id of the watcher is given out again, which takes as many further
registrations as there are ids.
-/

set_option autoImplicit false

namespace ConfigWatch

theorem Cache.home?_isSome_iff {cache : Cache} {registration : Nat} :
    (cache.home? registration).isSome = true ↔ ∃ space key id watcher,
      cache.Seat space key id watcher ∧ watcher.registration = registration := by
  rw [← not_iff_not, Bool.not_eq_true, Option.isSome_eq_false_iff, Option.isNone_iff_eq_none,
    home?_eq_none_iff]
  simp only [not_exists, not_and]

theorem Cache.home?_reset (cache : Cache) (registration : Nat) :
    cache.reset.2.home? registration = none :=
  home?_eq_none_iff.mpr (fun _ _ _ _ seat => absurd seat not_seat_reset)

/-- Whether a section took the seat of a registration away. -/
def Occurrence.loses (registration : Nat) (occurrence : Occurrence) : Bool :=
  (occurrence.before.cache.home? registration).isSome &&
    (occurrence.after.cache.home? registration).isNone

/-- The sections that took the seat of a registration away. -/
def losses (history : List Occurrence) (registration : Nat) : List Occurrence :=
  history.filter (fun occurrence => occurrence.loses registration)

/-- The watcher of a registration was removed. -/
def Unwatched (history : List Occurrence) (registration : Nat) : Prop :=
  ∃ occurrence ∈ losses history registration, ∃ subscription watcher,
    occurrence.act = .unwatch subscription watcher

/-- The cache started afresh while a registration had its seat. -/
def Ended (history : List Occurrence) (registration : Nat) : Prop :=
  ∃ occurrence ∈ losses history registration,
    occurrence.act = .failStream ∨ occurrence.act = .finishClose

/-- A later watch took the seat of a registration. -/
def Displaced (history : List Occurrence) (registration : Nat) : Prop :=
  ∃ occurrence ∈ losses history registration, ∃ space key watcher,
    occurrence.act = .watch space key watcher

/-- What became of a registration: it has its seat, or lost it once, or was not made yet. -/
structure Fate (history : List Occurrence) (client : Client) (registration : Nat) : Prop where
  present : (client.cache.home? registration).isSome = true → losses history registration = []
  gone : registration < client.registrations → client.cache.home? registration = none →
    ∃ occurrence, losses history registration = [occurrence]
  future : client.registrations ≤ registration → losses history registration = []

theorem Cache.Seated.lt_of_home? {cache : Cache} {registrations registration : Nat}
    (seated : cache.Seated registrations)
    (present : (cache.home? registration).isSome = true) : registration < registrations := by
  obtain ⟨space, key, id, watcher, seat, rfl⟩ := home?_isSome_iff.mp present
  exact seated.below _ _ _ _ seat

/-- Without a seat before there is none after, except for a registration that was just made. -/
theorem Client.home?_perform_eq_none {client : Client} (indexed : client.cache.Indexed)
    {registration : Nat} (old : registration < client.registrations)
    (absent : client.cache.home? registration = none) (act : Section) :
    (client.perform act).2.cache.home? registration = none := by
  rw [Cache.home?_eq_none_iff] at absent ⊢
  rintro space key id watcher seat rfl
  exact absent space key id watcher (seat_before indexed seat old) rfl

private theorem Fate.step {history : List Occurrence} {client : Client} {registration : Nat}
    (indexed : client.cache.Indexed) (seated : client.cache.Seated client.registrations)
    (fate : Fate history client registration) (act : Section) :
    Fate (history ++ [⟨client, act⟩]) (client.perform act).2 registration := by
  have grown := client.registrations_le indexed act
  have added : losses (history ++ [⟨client, act⟩]) registration =
      losses history registration ++
        [⟨client, act⟩].filter (fun occurrence => occurrence.loses registration) :=
    List.filter_append ..
  cases before : client.cache.home? registration with
  | some home =>
    have present : (client.cache.home? registration).isSome = true := by rw [before]; rfl
    have made := seated.lt_of_home? present
    rw [fate.present present, List.nil_append] at added
    cases after : (client.perform act).2.cache.home? registration with
    | some later =>
      have keeps : Occurrence.loses registration ⟨client, act⟩ = false := by
        simp [Occurrence.loses, Occurrence.after, after]
      rw [List.filter_singleton, keeps] at added
      exact ⟨fun _ => added, fun _ absent => (by rw [after] at absent; cases absent),
        fun _ => added⟩
    | none =>
      have takes : Occurrence.loses registration ⟨client, act⟩ = true := by
        simp [Occurrence.loses, Occurrence.after, after, before]
      rw [List.filter_singleton, takes] at added
      exact ⟨fun still => (by rw [after] at still; cases still), fun _ _ => ⟨_, added⟩,
        fun unmade => absurd made (by omega)⟩
  | none =>
    have keeps : Occurrence.loses registration ⟨client, act⟩ = false := by
      simp [Occurrence.loses, before]
    rw [List.filter_singleton, keeps, cond_false, List.append_nil] at added
    by_cases made : registration < client.registrations
    · have absent := client.home?_perform_eq_none indexed made before act
      refine ⟨fun present => ?_, fun _ _ => ?_, fun unmade => absurd made (by omega)⟩
      · rw [absent] at present
        cases present
      · rw [added]
        exact fate.gone made before
    · have none := fate.future (by omega)
      rw [none] at added
      refine ⟨fun _ => added, fun now absent => ?_, fun _ => added⟩
      obtain ⟨space, key, id, sitter, seat, same⟩ :=
        client.seat_of_registered indexed (by omega) now
      exact absurd same (Cache.home?_eq_none_iff.mp absent space key id sitter seat)

theorem Run.fate {start client : Client} {history : List Occurrence} (fresh : start.Fresh)
    (run : Run start history client) (registration : Nat) : Fate history client registration := by
  induction run with
  | start =>
    have none : start.registrations = 0 := by rw [fresh.eq]
    exact ⟨fun _ => rfl, fun made => by omega, fun _ => rfl⟩
  | step act run ih => exact ih.step (run.indexed fresh) (run.seated fresh) act

theorem Fate.losses_cases {history : List Occurrence} {client : Client} {registration : Nat}
    (fate : Fate history client registration) :
    losses history registration = [] ∨
      ∃ occurrence, losses history registration = [occurrence] := by
  cases home : client.cache.home? registration with
  | some record => exact .inl (fate.present (by rw [home]; rfl))
  | none =>
    by_cases made : registration < client.registrations
    · exact .inr (fate.gone made home)
    · exact .inl (fate.future (Nat.not_lt.mp made))

theorem Fate.lost_once {history : List Occurrence} {client : Client} {registration : Nat}
    (fate : Fate history client registration) {left right : Occurrence}
    (here : left ∈ losses history registration) (there : right ∈ losses history registration) :
    left = right := by
  rcases fate.losses_cases with none | ⟨lost, one⟩
  · rw [none] at here
    cases here
  · rw [one, List.mem_singleton] at here there
    exact here.trans there.symm

/-- Only the removal of a watcher, a watch and a fresh start take seats away. -/
theorem Occurrence.act_of_loses {occurrence : Occurrence} {registration : Nat}
    (indexed : occurrence.before.cache.Indexed) (loses : occurrence.loses registration = true) :
    (∃ subscription watcher, occurrence.act = .unwatch subscription watcher) ∨
      (∃ space key watcher, occurrence.act = .watch space key watcher) ∨
        occurrence.act = .failStream ∨ occurrence.act = .finishClose := by
  obtain ⟨client, act⟩ := occurrence
  simp only [Occurrence.loses, Bool.and_eq_true, Option.isNone_iff_eq_none, Occurrence.after]
    at loses
  obtain ⟨before, after⟩ := loses
  obtain ⟨space, key, id, watcher, seat, same⟩ := Cache.home?_isSome_iff.mp before
  rw [Cache.home?_eq_none_iff] at after
  have step := client.does indexed act
  generalize client.perform act = result at step after
  cases step with
  | quiet quiet => exact absurd same (after _ _ _ _ (quiet.records.seat_iff.mpr seat))
  | watches effect => exact .inr (.inl ⟨_, _, _, rfl⟩)
  | unwatches effect => exact .inl ⟨_, _, rfl⟩
  | replies located effect => exact absurd same (after _ _ _ _ ((effect.seat_iff located).mpr seat))
  | sweeps reached => exact absurd same (after _ _ _ _ (Cache.seat_cleanup_iff.mpr seat))
  | resets act _ _ => exact .inr (.inr act)

/-- A watch takes a seat away only when its record has given out all ids since. -/
theorem Occurrence.displaces_far {occurrence : Occurrence} {registration : Nat}
    (spaced : occurrence.before.cache.Spaced occurrence.before.registrations)
    (loses : occurrence.loses registration = true) {space : NamespaceKey} {key : DocumentKey}
    {watcher : Option (String × Reaction)} (watches : occurrence.act = .watch space key watcher) :
    registration + 2 ^ 32 ≤ occurrence.before.registrations := by
  obtain ⟨client, act⟩ := occurrence
  dsimp only at watches spaced ⊢
  subst watches
  obtain ⟨initial, after, result, effect⟩ := client.perform_watch space key watcher
  simp only [Occurrence.loses, Bool.and_eq_true, Option.isNone_iff_eq_none, Occurrence.after,
    result] at loses
  obtain ⟨before, absent⟩ := loses
  obtain ⟨other, document, id, sitter, seat, rfl⟩ := Cache.home?_isSome_iff.mp before
  rw [Cache.home?_eq_none_iff] at absent
  have lost : ¬ after.cache.Seat other document id sitter := fun still =>
    absent _ _ _ _ still rfl
  rw [effect.seat_iff] at lost
  cases watcher with
  | none => exact absurd seat lost
  | some watcher =>
    obtain ⟨label, reaction⟩ := watcher
    dsimp only at lost
    split at lost
    · next here =>
      obtain ⟨⟨rfl, rfl⟩, sameId⟩ := here
      obtain ⟨record, found, sits⟩ := seat.record
      rw [Cache.recordFor_found found] at sameId
      obtain ⟨later, next, below⟩ := spaced _ _ _ _ _ (Cache.restAt?_eq_some found) sits
      have around : record.nextWatcher = id + UInt32.ofNat (later + 1) := next
      have number := congrArg UInt32.toNat (sameId.trans around)
      rw [UInt32.toNat_add, UInt32.toNat_ofNat'] at number
      have bound := id.toNat_lt
      omega
    · exact absurd seat lost

theorem Run.displaced_far {start client : Client} {history : List Occurrence}
    (fresh : start.Fresh) (run : Run start history client) {registration : Nat}
    (displaced : Displaced history registration) :
    registration + 2 ^ 32 ≤ client.registrations := by
  induction run with
  | start =>
    obtain ⟨_, member, _⟩ := displaced
    cases member
  | @step history client act run ih =>
    have indexed := run.indexed fresh
    have grown := client.registrations_le indexed act
    obtain ⟨occurrence, member, space, key, watcher, watches⟩ := displaced
    obtain ⟨there, loses⟩ := List.mem_filter.mp member
    rcases List.mem_append.mp there with old | new
    · have far := ih ⟨occurrence, List.mem_filter.mpr ⟨old, loses⟩, space, key, watcher, watches⟩
      omega
    · obtain rfl := List.mem_singleton.mp new
      have far := Occurrence.displaces_far (run.spaced fresh) loses watches
      dsimp only at far
      omega

/-- A registration that was made and has no seat any more lost it in one of the three ways. -/
theorem Run.unwatched_or_ended_or_displaced {start client : Client} {history : List Occurrence}
    (fresh : start.Fresh) (run : Run start history client) {registration : Nat}
    (made : registration < client.registrations)
    (absent : client.cache.home? registration = none) :
    Unwatched history registration ∨ Ended history registration ∨
      Displaced history registration := by
  obtain ⟨occurrence, lost⟩ := (run.fate fresh registration).gone made absent
  have member : occurrence ∈ losses history registration := by simp [lost]
  obtain ⟨there, loses⟩ := List.mem_filter.mp member
  obtain ⟨earlier, before⟩ := run.reaches there
  rcases Occurrence.act_of_loses (before.indexed fresh) loses with unwatch | watch | reset
  · exact .inl ⟨occurrence, member, unwatch⟩
  · exact .inr (.inr ⟨occurrence, member, watch⟩)
  · exact .inr (.inl ⟨occurrence, member, reset⟩)

end ConfigWatch

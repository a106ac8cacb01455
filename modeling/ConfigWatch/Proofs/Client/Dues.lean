import ConfigWatch.Proofs.Client.Departures
import ConfigWatch.Proofs.Client.Outcomes
import Mathlib.Data.List.Chain

/-!
# What registrations are due to be told

A registration is due to be told what its record shows when it is made, if a reply was applied to
the record before, and then what its record shows after each reply that changed it. When the cache
starts afresh it is due to be told that its subscription was removed. Sections give rise to just
the notifications that are due.
-/

set_option autoImplicit false

namespace ConfigWatch

namespace Occurrence

/-- The news that a registration is due to be told because of a section. -/
def due (occurrence : Occurrence) (registration : Nat) : List Event :=
  match occurrence.act with
  | .watch space key (some _) =>
    if occurrence.before.registrations = registration then
      ((occurrence.before.cache.restAt? space key).bind Record.currentEvent).toList
    else []
  | .reply _ =>
    match occurrence.before.cache.home? registration,
      occurrence.after.cache.home? registration with
    | some earlier, some later =>
      if earlier.shown = later.shown then [] else later.currentEvent.toList
    | _, _ => []
  | _ => []

/-- The end that a registration is due to be told because of a section: the cache started afresh
while the registration had its seat. -/
def ending (occurrence : Occurrence) (registration : Nat) : List Event :=
  match occurrence.act with
  | .failStream | .finishClose =>
    match occurrence.before.cache.home? registration,
      occurrence.after.cache.home? registration with
    | some record, none => [record.event .removed]
    | _, _ => []
  | _ => []

end Occurrence

/-- All the news that a registration was due to be told. -/
def dues (history : List Occurrence) (registration : Nat) : List Event :=
  history.flatMap (fun occurrence => occurrence.due registration)

/-- All the ends that a registration was due to be told. -/
def endings (history : List Occurrence) (registration : Nat) : List Event :=
  history.flatMap (fun occurrence => occurrence.ending registration)

/-! ## Homes before and after -/

namespace Cache

theorem currentEvent_recordFor (cache : Cache) (space : NamespaceKey) (key : DocumentKey) :
    (cache.recordFor space key 0).currentEvent =
      (cache.restAt? space key).bind Record.currentEvent := by
  cases found : cache.recordAt? space key with
  | none => rw [recordFor_new found, restAt?, found]; rfl
  | some record => rw [recordFor_found found, restAt?, found]; rfl

theorem home?_congr {before after : Cache} {made counted : Nat} (seated : before.Seated made)
    (seatedAfter : after.Seated counted)
    (same : ∀ space key, after.restAt? space key = before.restAt? space key)
    (registration : Nat) : after.home? registration = before.home? registration := by
  refine Option.ext (fun rest => ?_)
  rw [seatedAfter.home?_eq_some_iff, seated.home?_eq_some_iff]
  simp only [same]

end Cache

namespace Client

/-- A reply changes the record of those who sit at it, and the homes of others are as before. -/
theorem Replies.home?_cases {client after : Client} {reply : WatchResponse} {space : NamespaceKey}
    {key : DocumentKey} {record : Record} {told : List Notification}
    (effect : Replies client reply space key record told after)
    (located : client.cache.located? reply.uid = some (space, key, record))
    (seated : client.cache.Seated client.registrations)
    (seatedAfter : after.cache.Seated after.registrations) (registration : Nat) :
    ((∃ watcher ∈ record.watchers.values, watcher.registration = registration) ∧
        client.cache.home? registration = some record.atRest ∧
        after.cache.home? registration = some (client.verdict reply record.atRest).2) ∨
      ((∀ watcher ∈ record.watchers.values, watcher.registration ≠ registration) ∧
        after.cache.home? registration = client.cache.home? registration) := by
  obtain ⟨_, found⟩ := Cache.located?_eq_some_iff.mp located
  have answered := verdict_answered client reply record.atRest
  have there := effect.records space key
  rw [if_pos ⟨rfl, rfl⟩] at there
  by_cases sits : ∃ watcher ∈ record.watchers.values, watcher.registration = registration
  · obtain ⟨watcher, member, same⟩ := sits
    obtain ⟨id, held⟩ := Table.mem_values_iff.mp member
    have heldAfter : (client.verdict reply record.atRest).2.watchers.get? id = some watcher := by
      rw [answered.watchers]
      exact held
    exact .inl ⟨⟨watcher, member, same⟩,
      seated.home?_eq_some_iff.mpr
        ⟨space, key, id, watcher, Cache.restAt?_eq_some found, held, same⟩,
      seatedAfter.home?_eq_some_iff.mpr ⟨space, key, id, watcher, there, heldAfter, same⟩⟩
  · have absent (rest : Record) (same : rest.watchers = record.watchers) (id : UInt32)
        (watcher : Watcher) (held : rest.watchers.get? id = some watcher) :
        watcher.registration ≠ registration := by
      intro here
      rw [same] at held
      exact sits ⟨watcher, Table.mem_values_iff.mpr ⟨id, held⟩, here⟩
    refine .inr ⟨fun watcher member here => sits ⟨watcher, member, here⟩, ?_⟩
    refine Option.ext (fun rest => ?_)
    rw [seatedAfter.home?_eq_some_iff, seated.home?_eq_some_iff]
    constructor
    · rintro ⟨other, document, id, watcher, held, sitsAt, same⟩
      rw [effect.records] at held
      split at held
      · obtain rfl := Option.some.inj held
        exact absurd same (absent _ answered.watchers id watcher sitsAt)
      · exact ⟨other, document, id, watcher, held, sitsAt, same⟩
    · rintro ⟨other, document, id, watcher, held, sitsAt, same⟩
      refine ⟨other, document, id, watcher, ?_, sitsAt, same⟩
      rw [effect.records]
      split
      · next here =>
        obtain ⟨rfl, rfl⟩ := here
        rw [Cache.restAt?_eq_some found] at held
        obtain rfl := Option.some.inj held
        exact absurd same (absent _ rfl id watcher sitsAt)
      · exact held

theorem home?_shown {client : Client} (indexed : client.cache.Indexed)
    (seated : client.cache.Seated client.registrations) {act : Section}
    (other : ∀ reply, act ≠ .reply reply) {registration : Nat} {earlier later : Record}
    (before : client.cache.home? registration = some earlier)
    (after : (client.perform act).2.cache.home? registration = some later) :
    later.shown = earlier.shown := by
  have seatedAfter := perform_seated indexed seated act
  obtain ⟨space, key, id, watcher, held, sits, same⟩ := seatedAfter.home?_eq_some_iff.mp after
  have made : watcher.registration < client.registrations := by
    rw [same]
    exact seated.lt_of_home? (by rw [before]; rfl)
  obtain ⟨rest, found, sat⟩ := seat_before indexed ⟨later, held, sits⟩ made
  have home := seated.home?_eq_some_iff.mpr ⟨space, key, id, watcher, found, sat, same⟩
  obtain rfl : rest = earlier := Option.some.inj (home.symm.trans before)
  exact restAt?_shown indexed other found held

end Client

/-! ## What sections tell -/

namespace Client

theorem told_by_watch (client : Client) (space : NamespaceKey) (key : DocumentKey)
    (watcher : Option (String × Reaction)) (registration : Nat) :
    eventsFor registration (client.perform (.watch space key watcher)).1 =
      Occurrence.due ⟨client, .watch space key watcher⟩ registration := by
  obtain ⟨initial, after, result, effect⟩ := client.perform_watch space key watcher
  rw [result, effect.told]
  cases watcher with
  | none => rfl
  | some watcher =>
    obtain ⟨label, reaction⟩ := watcher
    rw [Record.welcome, Cache.currentEvent_recordFor, Occurrence.due]
    dsimp only
    cases (client.cache.restAt? space key).bind Record.currentEvent with
    | none => simp [eventsFor]
    | some event => by_cases new : client.registrations = registration <;> simp [eventsFor, new]

theorem told_by_reply {client : Client} (indexed : client.cache.Indexed)
    (seated : client.cache.Seated client.registrations) (reply : WatchResponse)
    (registration : Nat) :
    eventsFor registration (client.perform (.reply reply)).1 =
      Occurrence.due ⟨client, .reply reply⟩ registration := by
  have seatedAfter := perform_seated indexed seated (.reply reply)
  have step := does indexed (.reply reply)
  simp only [Occurrence.due, Occurrence.after]
  generalize client.perform (.reply reply) = result at step seatedAfter
  cases step with
  | quiet quiet =>
    rw [quiet.told, Cache.home?_congr seated seatedAfter quiet.records.records]
    cases client.cache.home? registration <;> simp [eventsFor]
  | @replies _ space key record _ after located effect =>
    obtain ⟨_, found⟩ := Cache.located?_eq_some_iff.mp located
    have answered := verdict_answered client reply record.atRest
    have differ := seated.watchers_pairwise found
    rw [effect.told, answered.told]
    dsimp only at seatedAfter ⊢
    rcases effect.home?_cases located seated seatedAfter registration with
      ⟨sits, before, later⟩ | ⟨absent, same⟩
    · rw [before, later, Record.news]
      dsimp only
      split
      · rfl
      · rw [Record.eventsFor_announce (by rw [answered.watchers]; exact differ), answered.watchers]
        exact if_pos sits
    · have untold : eventsFor registration
          (Record.news record.atRest (client.verdict reply record.atRest).2) = [] := by
        rw [Record.news]
        split
        · rfl
        · rw [Record.eventsFor_announce (by rw [answered.watchers]; exact differ),
            answered.watchers]
          refine if_neg ?_
          rintro ⟨watcher, member, here⟩
          exact absent watcher member here
      rw [untold, same]
      cases client.cache.home? registration <;> simp
  | resets act _ _ => rcases act with act | act <;> cases act

private theorem told_by_reset {client : Client} (indexed : client.cache.Indexed)
    (seated : client.cache.Seated client.registrations) {registration : Nat} {act : Section}
    (fresh : act = .failStream ∨ act = .finishClose) :
    eventsFor registration (client.perform act).1 =
      Occurrence.ending ⟨client, act⟩ registration := by
  have ending : Occurrence.ending ⟨client, act⟩ registration =
      match client.cache.home? registration, (client.perform act).2.cache.home? registration with
      | some record, none => [record.event .removed]
      | _, _ => [] := by
    rcases fresh with rfl | rfl <;> rfl
  have seatedAfter := perform_seated indexed seated act
  have step := does indexed act
  rw [ending]
  generalize client.perform act = result at step seatedAfter
  cases step with
  | quiet quiet =>
    rw [quiet.told, Cache.home?_congr seated seatedAfter quiet.records.records]
    cases client.cache.home? registration <;> rfl
  | resets _ cache _ =>
    have active : ∀ record ∈ client.cache.records, record.state ≠ .deactivated := by
      intro record member
      obtain ⟨space, key, found⟩ := Cache.mem_records_iff.mp member
      exact (indexed.alive space key _ (Cache.restAt?_eq_some found)).active
    rw [seated.eventsFor_reset active]
    dsimp only
    rw [cache, Cache.home?_reset]
    cases client.cache.home? registration <;> rfl
  | watches | unwatches | replies | sweeps => rcases fresh with act | act <;> cases act

end Client

/-- A section tells a registration what it is due to be told, and nothing else. -/
theorem Occurrence.eventsFor_told (occurrence : Occurrence)
    (indexed : occurrence.before.cache.Indexed)
    (seated : occurrence.before.cache.Seated occurrence.before.registrations)
    (registration : Nat) :
    eventsFor registration occurrence.told =
      occurrence.due registration ++ occurrence.ending registration := by
  obtain ⟨client, act⟩ := occurrence
  simp only [Occurrence.told] at indexed seated ⊢
  by_cases fresh : act = .failStream ∨ act = .finishClose
  · rw [Client.told_by_reset indexed seated fresh]
    rcases fresh with rfl | rfl <;> rfl
  cases act with
  | watch space key watcher =>
    rw [Client.told_by_watch, Occurrence.ending, List.append_nil]
  | reply reply => rw [Client.told_by_reply indexed seated, Occurrence.ending, List.append_nil]
  | failStream => exact absurd (.inl rfl) fresh
  | finishClose => exact absurd (.inr rfl) fresh
  | unwatch | sweep => rfl
  | beginRead | finishRead | requestStream | openStream | cancelStream | startSweeps
      | scheduleSweep | poll | dropStream | beginClose | stopStreamWorker | stopSweepWorker
      | note | setClock =>
    rw [(Client.perform_quiet rfl client).told]
    rfl

/-! ## One section -/

namespace Occurrence

variable {occurrence : Occurrence} {registration : Nat}

theorem due_of_absent (made : registration < occurrence.before.registrations)
    (absent : occurrence.before.cache.home? registration = none) :
    occurrence.due registration = [] := by
  unfold due
  split
  · exact if_neg (by omega)
  · rw [absent]
  · rfl

theorem ending_of_absent (absent : occurrence.before.cache.home? registration = none) :
    occurrence.ending registration = [] := by
  unfold ending
  split <;> first | rw [absent] | rfl

theorem ending_status {event : Event} (ending : event ∈ occurrence.ending registration) :
    event.status = .removed := by
  unfold Occurrence.ending at ending
  split at ending
  · split at ending
    · obtain rfl := List.mem_singleton.mp ending
      rfl
    · cases ending
  · split at ending
    · obtain rfl := List.mem_singleton.mp ending
      rfl
    · cases ending
  · cases ending

theorem lt_of_due (occurrence : Occurrence) (indexed : occurrence.before.cache.Indexed)
    (seated : occurrence.before.cache.Seated occurrence.before.registrations)
    (due : occurrence.due registration ≠ []) : registration < occurrence.after.registrations := by
  have seatedAfter := Client.perform_seated indexed seated occurrence.act
  obtain ⟨client, act⟩ := occurrence
  cases act with
  | watch space key watcher =>
    obtain ⟨initial, later, result, effect⟩ := client.perform_watch space key watcher
    cases watcher with
    | none => exact absurd rfl due
    | some watcher =>
      have new : client.registrations = registration := by
        by_contra other
        exact due (if_neg other)
      have counted : later.registrations = client.registrations + 1 := effect.registrations
      rw [after, result]
      dsimp only
      omega
  | reply reply =>
    cases later : (Occurrence.after ⟨client, .reply reply⟩).cache.home? registration with
    | none =>
      refine absurd ?_ due
      rw [Occurrence.due, later]
      cases client.cache.home? registration <;> rfl
    | some record => exact seatedAfter.lt_of_home? (by rw [← after, later]; rfl)
  | _ => exact absurd rfl due

theorem ended_of_ending (ending : occurrence.ending registration ≠ []) :
    (occurrence.before.cache.home? registration).isSome = true ∧
      occurrence.after.cache.home? registration = none := by
  unfold Occurrence.ending at ending
  split at ending
  · split at ending
    · next before after => exact ⟨by rw [before]; rfl, after⟩
    · exact absurd rfl ending
  · split at ending
    · next before after => exact ⟨by rw [before]; rfl, after⟩
    · exact absurd rfl ending
  · exact absurd rfl ending

/-- A reply that changes what the record of a registration shows gives rise to just one event, for
what the record shows then. Any other reply gives rise to none. -/
theorem due_of_reply {client : Client} (indexed : client.cache.Indexed)
    (seated : client.cache.Seated client.registrations) (reply : WatchResponse) {earlier : Record}
    (home : client.cache.home? registration = some earlier) :
    ∃ later, (client.perform (.reply reply)).2.cache.home? registration = some later ∧
      if earlier.shown = later.shown then due ⟨client, .reply reply⟩ registration = []
      else ∃ event, later.currentEvent = some event ∧
        due ⟨client, .reply reply⟩ registration = [event] := by
  have seatedAfter := Client.perform_seated indexed seated (.reply reply)
  have step := Client.does indexed (.reply reply)
  simp only [due, after, home]
  generalize client.perform (.reply reply) = result at step seatedAfter
  cases step with
  | quiet quiet =>
    have kept := Cache.home?_congr seated seatedAfter quiet.records.records registration
    rw [home] at kept
    refine ⟨earlier, kept, ?_⟩
    rw [kept, if_pos rfl]
    exact if_pos rfl
  | @replies _ space key record _ after located effect =>
    dsimp only at seatedAfter ⊢
    rcases effect.home?_cases located seated seatedAfter registration with
      ⟨_, before, later⟩ | ⟨_, kept⟩
    · obtain rfl : record.atRest = earlier := Option.some.inj (before.symm.trans home)
      refine ⟨_, later, ?_⟩
      rw [later]
      split
      · next same => exact if_pos same
      · next differs =>
        obtain ⟨_, found⟩ := Cache.located?_eq_some_iff.mp located
        have alive := indexed.alive space key _ (Cache.restAt?_eq_some found)
        have outcome := client.verdict_status reply alive
        split at outcome
        · rw [outcome] at differs
          exact absurd rfl differs
        · obtain ⟨status, held⟩ := Option.isSome_iff_exists.mp outcome
          refine ⟨(client.verdict reply record.atRest).2.event status, ?_, ?_⟩
          · rw [Record.currentEvent, held]
            rfl
          · dsimp only
            rw [if_neg differs, Record.currentEvent, held]
            rfl
    · rw [home] at kept
      refine ⟨earlier, kept, ?_⟩
      rw [kept, if_pos rfl]
      exact if_pos rfl
  | resets act _ _ => rcases act with act | act <;> cases act

theorem due_of_removal {client : Client} (indexed : client.cache.Indexed)
    (seated : client.cache.Seated client.registrations) {reply : WatchResponse}
    (removed : ReplyStatus.ofWatchCode reply.status = .removed) (registration : Nat) :
    due ⟨client, .reply reply⟩ registration = [] := by
  rw [← Client.told_by_reply indexed seated, Client.perform]
  cases index : client.cache.bySubscription.get? reply.uid with
  | none =>
    rw [Client.applyReply_unknown index]
    rfl
  | some place =>
    obtain ⟨record, located, _, active⟩ := indexed.located? index
    rw [(Client.replies located active).told, Client.verdict, removed]
    rfl

/-- Before the first event for a registration there is none, and it is for the record where the
registration takes its seat. -/
theorem due_of_registered {client : Client} (indexed : client.cache.Indexed)
    (seated : client.cache.Seated client.registrations) {act : Section} {later : Record}
    (absent : client.cache.home? registration = none)
    (home : (client.perform act).2.cache.home? registration = some later) :
    due ⟨client, act⟩ registration = later.currentEvent.toList := by
  have seatedAfter := Client.perform_seated indexed seated act
  obtain ⟨space, key, id, sitter, held, sits, rfl⟩ := seatedAfter.home?_eq_some_iff.mp home
  have vacant : ¬ client.cache.Seat space key id sitter := fun seat =>
    Cache.home?_eq_none_iff.mp absent space key id sitter seat rfl
  have seat : (client.perform act).2.cache.Seat space key id sitter := ⟨later, held, sits⟩
  have step := Client.does indexed act
  generalize client.perform act = result at step held seat
  cases step with
  | quiet quiet => exact absurd (quiet.records.seat_iff.mp seat) vacant
  | @watches other document watcher _ _ effect =>
    have seat := effect.seat_iff.mp seat
    cases watcher with
    | none => exact absurd seat vacant
    | some watcher =>
      obtain ⟨label, reaction⟩ := watcher
      dsimp only at seat
      split at seat
      · next here =>
        obtain ⟨⟨rfl, rfl⟩, _⟩ := here
        rw [effect.records, if_pos ⟨rfl, rfl⟩] at held
        obtain rfl := Option.some.inj held
        have new : client.registrations = sitter.registration := by rw [seat]
        rw [due]
        dsimp only
        rw [if_pos new]
        rw [← Cache.currentEvent_recordFor]
        rfl
      · exact absurd seat vacant
  | unwatches effect => exact absurd (effect.seat_iff.mp seat).1 vacant
  | replies located effect => exact absurd ((effect.seat_iff located).mp seat) vacant
  | sweeps reached => exact absurd (Cache.seat_cleanup_iff.mp seat) vacant
  | resets _ cache _ =>
    rw [cache] at seat
    exact absurd seat Cache.not_seat_reset

theorem due_of_present {client : Client}
    (seated : client.cache.Seated client.registrations) {act : Section}
    (other : ∀ reply, act ≠ .reply reply)
    (present : (client.cache.home? registration).isSome = true) :
    due ⟨client, act⟩ registration = [] := by
  have made := seated.lt_of_home? present
  cases act with
  | watch space key watcher =>
    cases watcher with
    | none => rfl
    | some watcher => exact if_neg (by dsimp only; omega)
  | reply reply => exact absurd rfl (other reply)
  | _ => rfl

theorem due_status (indexed : occurrence.before.cache.Indexed)
    (seated : occurrence.before.cache.Seated occurrence.before.registrations) {event : Event}
    (due : event ∈ occurrence.due registration) : event.status ≠ .removed := by
  have current {record : Record} (alive : record.Alive)
      (told : event ∈ record.currentEvent.toList) : event.status ≠ .removed := by
    obtain ⟨status, held, rfl⟩ := Option.map_eq_some_iff.mp (Option.mem_toList.mp told)
    intro removed
    exact alive.unended (held.trans (congrArg some removed))
  have indexedAfter := Client.perform_indexed indexed occurrence.act
  have seatedAfter := Client.perform_seated indexed seated occurrence.act
  unfold Occurrence.due at due
  split at due
  · next space key _ _ =>
    split at due
    · cases found : occurrence.before.cache.restAt? space key with
      | none =>
        rw [found] at due
        cases due
      | some record =>
        rw [found] at due
        exact current (indexed.alive space key record found) due
    · cases due
  · split at due
    · next later _ home =>
      split at due
      · cases due
      · obtain ⟨space, key, _, _, held, _, _⟩ := seatedAfter.home?_eq_some_iff.mp home
        exact current (indexedAfter.alive space key later held) due
    · cases due
  · cases due

end Occurrence

/-! ## Along a run -/

/-- What a registration was due to be told so far: nothing before it was made, nothing more once
it had its end, and of its record every change of what the record shows. -/
structure Course (history : List Occurrence) (client : Client) (registration : Nat) : Prop where
  future : client.registrations ≤ registration →
    dues history registration = [] ∧ endings history registration = []
  ended : endings history registration ≠ [] →
    registration < client.registrations ∧ client.cache.home? registration = none
  order : history.flatMap (fun occurrence =>
      occurrence.due registration ++ occurrence.ending registration) =
    dues history registration ++ endings history registration
  differ : (dues history registration).IsChain (fun left right => left.shown ≠ right.shown)
  last : ∀ record, client.cache.home? registration = some record →
    (dues history registration).getLast?.map Event.shown = record.currentEvent.map Event.shown

theorem dues_snoc (history : List Occurrence) (occurrence : Occurrence) (registration : Nat) :
    dues (history ++ [occurrence]) registration =
      dues history registration ++ occurrence.due registration := by
  simp [dues]

theorem endings_snoc (history : List Occurrence) (occurrence : Occurrence) (registration : Nat) :
    endings (history ++ [occurrence]) registration =
      endings history registration ++ occurrence.ending registration := by
  simp [endings]

private theorem Occurrence.due_eq_toList (occurrence : Occurrence) (registration : Nat) :
    ∃ event : Option Event, occurrence.due registration = event.toList := by
  unfold Occurrence.due
  split
  · split
    · exact ⟨_, rfl⟩
    · exact ⟨none, rfl⟩
  · split
    · split
      · exact ⟨none, rfl⟩
      · exact ⟨_, rfl⟩
    · exact ⟨none, rfl⟩
  · exact ⟨none, rfl⟩

private theorem order_snoc {history : List Occurrence} {registration : Nat}
    (order : history.flatMap (fun occurrence =>
        occurrence.due registration ++ occurrence.ending registration) =
      dues history registration ++ endings history registration) (occurrence : Occurrence)
    (apart : endings history registration = [] ∨ occurrence.due registration = []) :
    (history ++ [occurrence]).flatMap (fun occurrence =>
        occurrence.due registration ++ occurrence.ending registration) =
      dues (history ++ [occurrence]) registration ++
        endings (history ++ [occurrence]) registration := by
  rw [List.flatMap_append, List.flatMap_singleton, order, dues_snoc, endings_snoc]
  rcases apart with none | none <;> simp [none]

namespace Course

variable {history : List Occurrence} {client : Client} {registration : Nat}

private theorem step_gone (indexed : client.cache.Indexed)
    (course : Course history client registration) (act : Section)
    (made : registration < client.registrations)
    (absent : client.cache.home? registration = none) :
    Course (history ++ [⟨client, act⟩]) (client.perform act).2 registration := by
  have grown := client.registrations_le indexed act
  have gone := client.home?_perform_eq_none indexed made absent act
  have noDue : Occurrence.due ⟨client, act⟩ registration = [] :=
    Occurrence.due_of_absent made absent
  have noEnding : Occurrence.ending ⟨client, act⟩ registration = [] :=
    Occurrence.ending_of_absent absent
  have sameDues := dues_snoc history ⟨client, act⟩ registration
  have sameEndings := endings_snoc history ⟨client, act⟩ registration
  rw [noDue, List.append_nil] at sameDues
  rw [noEnding, List.append_nil] at sameEndings
  refine ⟨fun unmade => absurd made (by omega), fun _ => ⟨by omega, gone⟩,
    order_snoc course.order _ (.inr noDue), ?_, fun record home => ?_⟩
  · rw [sameDues]
    exact course.differ
  · rw [gone] at home
    cases home

private theorem step_future (indexed : client.cache.Indexed)
    (seated : client.cache.Seated client.registrations)
    (course : Course history client registration) (act : Section)
    (unmade : client.registrations ≤ registration) :
    Course (history ++ [⟨client, act⟩]) (client.perform act).2 registration := by
  obtain ⟨noDues, noEndings⟩ := course.future unmade
  have absent : client.cache.home? registration = none := by
    rw [Option.eq_none_iff_forall_ne_some]
    intro record home
    have present : (client.cache.home? registration).isSome = true := by rw [home]; rfl
    have made := seated.lt_of_home? present
    omega
  have noEnding : Occurrence.ending ⟨client, act⟩ registration = [] :=
    Occurrence.ending_of_absent absent
  have first := dues_snoc history ⟨client, act⟩ registration
  have none := endings_snoc history ⟨client, act⟩ registration
  rw [noDues, List.nil_append] at first
  rw [noEndings, noEnding, List.append_nil] at none
  refine ⟨fun still => ⟨?_, none⟩, fun ended => absurd none ended,
    order_snoc course.order _ (.inl noEndings), ?_, fun record home => ?_⟩
  · rw [first]
    by_contra due
    have made := Occurrence.lt_of_due ⟨client, act⟩ indexed seated due
    exact absurd made (Nat.not_lt.mpr still)
  · rw [first]
    obtain ⟨event, one⟩ := Occurrence.due_eq_toList ⟨client, act⟩ registration
    rw [one]
    cases event <;> simp
  · rw [first, Occurrence.due_of_registered indexed seated absent home]
    cases record.currentEvent <;> rfl

private theorem step_present (indexed : client.cache.Indexed)
    (seated : client.cache.Seated client.registrations)
    (course : Course history client registration) (act : Section) {earlier : Record}
    (before : client.cache.home? registration = some earlier) :
    Course (history ++ [⟨client, act⟩]) (client.perform act).2 registration := by
  have present : (client.cache.home? registration).isSome = true := by rw [before]; rfl
  have made := seated.lt_of_home? present
  have grown := client.registrations_le indexed act
  have noEndings : endings history registration = [] := by
    by_contra ended
    rw [(course.ended ended).2] at before
    cases before
  have last := course.last earlier before
  have changes := dues_snoc history ⟨client, act⟩ registration
  have ends := endings_snoc history ⟨client, act⟩ registration
  have order := order_snoc course.order ⟨client, act⟩ (.inl noEndings)
  rw [noEndings, List.nil_append] at ends
  have unmade : ¬ (client.perform act).2.registrations ≤ registration := by omega
  by_cases replies : ∃ reply, act = .reply reply
  · obtain ⟨reply, rfl⟩ := replies
    have noEnding : Occurrence.ending ⟨client, .reply reply⟩ registration = [] := rfl
    obtain ⟨later, home, news⟩ := Occurrence.due_of_reply indexed seated reply before
    have rest : endings (history ++ [⟨client, .reply reply⟩]) registration = [] :=
      ends.trans noEnding
    refine ⟨fun still => absurd still unmade, fun ended => absurd rest ended, order, ?_,
      fun record now => ?_⟩
    · rw [changes]
      split at news
      · rw [news, List.append_nil]
        exact course.differ
      · next differs =>
        obtain ⟨event, current, due⟩ := news
        rw [due]
        refine course.differ.append (List.isChain_singleton event) ?_
        intro left leftLast right rightFirst same
        obtain rfl : event = right := by simpa using rightFirst
        rw [Option.mem_def.mp leftLast, Option.map_some, same] at last
        have shown : later.currentEvent.map Event.shown = some event.shown := by rw [current]; rfl
        exact differs (Record.shown_eq_of_currentEvent last.symm shown)
    · obtain rfl : later = record := Option.some.inj (home.symm.trans now)
      rw [changes]
      split at news
      · next same =>
        rw [news, List.append_nil, last, Record.shown_currentEvent, Record.shown_currentEvent,
          same]
      · obtain ⟨event, current, due⟩ := news
        rw [due, current, List.getLast?_concat]
  · have other (reply : WatchResponse) : act ≠ .reply reply := fun same => replies ⟨reply, same⟩
    rw [Occurrence.due_of_present seated other present, List.append_nil] at changes
    refine ⟨fun still => absurd still unmade, fun ended => ⟨by omega, ?_⟩, order, ?_,
      fun record now => ?_⟩
    · rw [ends] at ended
      exact (Occurrence.ended_of_ending ended).2
    · rw [changes]
      exact course.differ
    · rw [changes, last, Record.shown_currentEvent, Record.shown_currentEvent,
        Client.home?_shown indexed seated other before now]

end Course

theorem Run.course {start client : Client} {history : List Occurrence} (fresh : start.Fresh)
    (run : Run start history client) (registration : Nat) :
    Course history client registration := by
  induction run with
  | start =>
    have empty : start.cache.home? registration = none := by
      rw [fresh.eq]
      rfl
    refine ⟨fun _ => ⟨rfl, rfl⟩, fun ended => absurd rfl ended, rfl, List.isChain_nil,
      fun record home => ?_⟩
    rw [empty] at home
    cases home
  | @step history client act run ih =>
    have indexed := run.indexed fresh
    have seated := run.seated fresh
    cases before : client.cache.home? registration with
    | some earlier => exact ih.step_present indexed seated act before
    | none =>
      by_cases made : registration < client.registrations
      · exact ih.step_gone indexed act made before
      · exact ih.step_future indexed seated act (Nat.not_lt.mp made)

theorem Run.dues_status {start client : Client} {history : List Occurrence} (fresh : start.Fresh)
    (run : Run start history client) {registration : Nat} {event : Event}
    (due : event ∈ dues history registration) : event.status ≠ .removed := by
  obtain ⟨occurrence, member, told⟩ := List.mem_flatMap.mp due
  obtain ⟨earlier, before⟩ := run.reaches member
  exact occurrence.due_status (before.indexed fresh) (before.seated fresh) told

/-! ## Ends -/

private theorem endings_eq_losses (history : List Occurrence) (registration : Nat) :
    endings history registration =
      (losses history registration).flatMap (fun occurrence => occurrence.ending registration) := by
  induction history with
  | nil => rfl
  | cons occurrence rest ih =>
    have split : endings (occurrence :: rest) registration =
        occurrence.ending registration ++ endings rest registration := rfl
    rw [split, ih, losses, losses, List.filter_cons]
    split
    · rfl
    · next keeps =>
      have none : occurrence.ending registration = [] := by
        by_contra ended
        obtain ⟨before, after⟩ := Occurrence.ended_of_ending ended
        exact keeps (by simp [Occurrence.loses, before, after])
      rw [none, List.nil_append]

private theorem Occurrence.ending_of_reset {occurrence : Occurrence} {registration : Nat}
    (loses : occurrence.loses registration = true)
    (reset : occurrence.act = .failStream ∨ occurrence.act = .finishClose) :
    ∃ record : Record, occurrence.ending registration = [record.event .removed] := by
  rw [Occurrence.loses, Bool.and_eq_true, Option.isNone_iff_eq_none, Option.isSome_iff_exists]
    at loses
  obtain ⟨⟨record, before⟩, after⟩ := loses
  refine ⟨record, ?_⟩
  obtain ⟨client, act⟩ := occurrence
  rcases reset with rfl | rfl
  · rw [Occurrence.ending]
    dsimp only at before ⊢
    rw [before, after]
  · rw [Occurrence.ending]
    dsimp only at before ⊢
    rw [before, after]

/-- A registration has one end if the cache started afresh while it had its seat, and otherwise
none. -/
theorem Run.endings_cases {start client : Client} {history : List Occurrence}
    (fresh : start.Fresh) (run : Run start history client) (registration : Nat) :
    (Ended history registration ∧
        ∃ event, event.status = .removed ∧ endings history registration = [event]) ∨
      (¬ Ended history registration ∧ endings history registration = []) := by
  have all := endings_eq_losses history registration
  rcases (run.fate fresh registration).losses_cases with none | ⟨occurrence, lost⟩
  · refine .inr ⟨?_, by rw [all, none]; rfl⟩
    rintro ⟨occurrence, member, _⟩
    rw [none] at member
    cases member
  · have member : occurrence ∈ losses history registration := by simp [lost]
    rw [lost, List.flatMap_singleton] at all
    by_cases reset : occurrence.act = .failStream ∨ occurrence.act = .finishClose
    · obtain ⟨record, ending⟩ :=
        Occurrence.ending_of_reset (List.mem_filter.mp member).2 reset
      exact .inl ⟨⟨occurrence, member, reset⟩, record.event .removed, rfl, all.trans ending⟩
    · refine .inr ⟨?_, all.trans ?_⟩
      · rintro ⟨other, there, resets⟩
        rw [lost, List.mem_singleton] at there
        subst there
        exact reset resets
      · unfold Occurrence.ending
        split
        · next act => exact absurd (.inl act) reset
        · next act => exact absurd (.inr act) reset
        · rfl

theorem Run.endings_ne_nil_iff {start client : Client} {history : List Occurrence}
    (run : Run start history client) (fresh : start.Fresh) {registration : Nat} :
    endings history registration ≠ [] ↔ Ended history registration := by
  rcases run.endings_cases fresh registration with ⟨ended, _, _, one⟩ | ⟨unended, none⟩
  · exact iff_of_true (by simp [one]) ended
  · exact iff_of_false (not_not_intro none) unended

end ConfigWatch

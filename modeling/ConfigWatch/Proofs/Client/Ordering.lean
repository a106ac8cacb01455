import ConfigWatch.Proofs.Client.Traffic

/-!
# The order of events

Every event shows the state of a record as some section left it. A registration observes its events
in the order of these sections, but for the first one: the caller of the watch tells it, whenever it
comes to that, while the worker tells all others.
-/

set_option autoImplicit false

namespace ConfigWatch

/-! ## What one section tells -/

/-- The version that an event shows is the one that the record held. -/
theorem Record.version_of_currentEvent {record : Record} {event : Event}
    (shown : record.currentEvent = some event) :
    event.version = record.latest.map Prod.fst ∧ record.status = some event.status := by
  obtain ⟨status, held, rfl⟩ := Option.map_eq_some_iff.mp shown
  exact ⟨rfl, held⟩

namespace Occurrence

variable {occurrence : Occurrence} {registration : Nat}

/-- What a section tells a registration: what the record shows after it, or that it is the end of
the record. -/
inductive Tells (occurrence : Occurrence) (registration : Nat) : List Event → Prop where
  | nobody : Tells occurrence registration []
  | shows {record : Record} {event : Event} :
      occurrence.after.cache.home? registration = some record →
      record.currentEvent = some event → event.status ≠ .removed →
      Tells occurrence registration [event]
  | ends {record : Record} :
      occurrence.before.cache.home? registration = some record →
      occurrence.after.cache.home? registration = none →
      Tells occurrence registration [record.event .removed]

private theorem due_cases (indexed : occurrence.before.cache.Indexed)
    (seated : occurrence.before.cache.Seated occurrence.before.registrations)
    (registration : Nat) :
    occurrence.due registration = [] ∨ ∃ record event,
      occurrence.after.cache.home? registration = some record ∧
        record.currentEvent = some event ∧ occurrence.due registration = [event] := by
  obtain ⟨client, act⟩ := occurrence
  cases before : client.cache.home? registration with
  | some earlier =>
    by_cases replies : ∃ reply, act = .reply reply
    · obtain ⟨reply, rfl⟩ := replies
      obtain ⟨later, home, told⟩ := due_of_reply indexed seated reply before
      split at told
      · exact .inl told
      · obtain ⟨event, shown, due⟩ := told
        exact .inr ⟨later, event, home, shown, due⟩
    · refine .inl (due_of_present seated (fun reply same => replies ⟨reply, same⟩) ?_)
      rw [before]
      rfl
  | none =>
    by_cases made : registration < client.registrations
    · exact .inl (due_of_absent made before)
    · by_cases none : due ⟨client, act⟩ registration = []
      · exact .inl none
      · have counted := lt_of_due ⟨client, act⟩ indexed seated none
        obtain ⟨space, key, id, sitter, seat, same⟩ :=
          Client.seat_of_registered indexed (Nat.not_lt.mp made) counted
        obtain ⟨later, home⟩ := Option.isSome_iff_exists.mp
          (Cache.home?_isSome_iff.mpr ⟨space, key, id, sitter, seat, same⟩)
        have due := due_of_registered indexed seated before home
        cases shown : later.currentEvent with
        | none =>
          rw [shown] at due
          exact .inl due
        | some event =>
          rw [shown] at due
          exact .inr ⟨later, event, home, shown, due⟩

private theorem ending_cases (occurrence : Occurrence) (registration : Nat) :
    occurrence.ending registration = [] ∨ ∃ record,
      occurrence.before.cache.home? registration = some record ∧
        occurrence.after.cache.home? registration = none ∧
        occurrence.ending registration = [record.event .removed] := by
  by_cases none : occurrence.ending registration = []
  · exact .inl none
  · obtain ⟨present, gone⟩ := ended_of_ending none
    obtain ⟨record, home⟩ := Option.isSome_iff_exists.mp present
    refine .inr ⟨record, home, gone, ?_⟩
    unfold ending at none ⊢
    split at none
    · rw [home, gone]
    · rw [home, gone]
    · exact absurd rfl none

theorem tells (occurrence : Occurrence) (indexed : occurrence.before.cache.Indexed)
    (seated : occurrence.before.cache.Seated occurrence.before.registrations)
    (registration : Nat) :
    occurrence.Tells registration (eventsFor registration occurrence.told) := by
  rw [occurrence.eventsFor_told indexed seated]
  rcases due_cases indexed seated registration with
    none | ⟨record, event, home, shown, due⟩
  · rw [none, List.nil_append]
    rcases occurrence.ending_cases registration with
      none | ⟨record, home, gone, ending⟩
    · rw [none]
      exact .nobody
    · rw [ending]
      exact .ends home gone
  · have silent : occurrence.ending registration = [] := by
      by_contra ending
      rw [(ended_of_ending ending).2] at home
      cases home
    have member : event ∈ occurrence.due registration := by
      rw [due]
      exact List.mem_singleton_self _
    have kept := occurrence.due_status indexed seated member
    rw [due, silent, List.append_nil]
    exact .shows home shown kept

/-- A watch tells none but the registration that it makes. -/
theorem registration_of_watch (watch : occurrence.act.isWatch = true)
    (indexed : occurrence.before.cache.Indexed)
    (seated : occurrence.before.cache.Seated occurrence.before.registrations)
    (told : eventsFor registration occurrence.told ≠ []) :
    registration = occurrence.before.registrations := by
  obtain ⟨client, act⟩ := occurrence
  cases act with
  | watch space key watcher =>
    rw [eventsFor_told _ indexed seated] at told
    cases watcher with
    | none => exact absurd rfl told
    | some watcher =>
      by_contra other
      refine told ?_
      rw [ending, List.append_nil]
      exact if_neg (Ne.symm other)
  | _ => cases watch

/-- A section that is no watch tells only registrations with a seat. -/
theorem home_of_told (other : occurrence.act.isWatch = false)
    (indexed : occurrence.before.cache.Indexed)
    (seated : occurrence.before.cache.Seated occurrence.before.registrations)
    (told : eventsFor registration occurrence.told ≠ []) :
    (occurrence.before.cache.home? registration).isSome = true := by
  rw [Option.isSome_iff_ne_none]
  intro absent
  rw [eventsFor_told _ indexed seated, ending_of_absent absent, List.append_nil] at told
  refine told ?_
  unfold due
  split
  · next act =>
    rw [act] at other
    cases other
  · rw [absent]
  · rfl

theorem lt_of_told (occurrence : Occurrence) (indexed : occurrence.before.cache.Indexed)
    (seated : occurrence.before.cache.Seated occurrence.before.registrations)
    (told : eventsFor registration occurrence.told ≠ []) :
    registration < occurrence.after.registrations := by
  have seatedAfter := Client.perform_seated indexed seated occurrence.act
  have tells := occurrence.tells indexed seated registration
  generalize eventsFor registration occurrence.told = events at told tells
  cases tells with
  | nobody => exact absurd rfl told
  | shows home => exact seatedAfter.lt_of_home? (by rw [← after, home]; rfl)
  | ends home =>
    have made := seated.lt_of_home? (by rw [home]; rfl)
    exact made.trans_le (Client.registrations_le indexed occurrence.act)

theorem gone_of_removed (occurrence : Occurrence) (indexed : occurrence.before.cache.Indexed)
    (seated : occurrence.before.cache.Seated occurrence.before.registrations) {event : Event}
    (told : eventsFor registration occurrence.told = [event]) (removed : event.status = .removed) :
    occurrence.after.cache.home? registration = none := by
  have tells := occurrence.tells indexed seated registration
  rw [told] at tells
  cases tells with
  | shows _ _ kept => exact absurd removed kept
  | ends _ gone => exact gone

/-- What a close tells at its end is that records are gone. -/
theorem removed_of_finishClose {client : Client} (indexed : client.cache.Indexed)
    (seated : client.cache.Seated client.registrations) {event : Event}
    (told : eventsFor registration (Occurrence.told ⟨client, .finishClose⟩) = [event]) :
    event.status = .removed := by
  rw [eventsFor_told _ indexed seated, due, List.nil_append] at told
  rcases ending_cases ⟨client, .finishClose⟩ registration with none | ⟨record, _, _, ending⟩
  · rw [none] at told
    cases told
  · rw [ending] at told
    cases told
    rfl

end Occurrence

/-! ## One step of the traffic -/

namespace Traffic

def flights (traffic : Traffic) : List Flight := traffic.told ++ traffic.inFlight

/-- The flights for a registration from its watch, or else from all later sections. -/
def flightsOf (initial : Bool) (registration : Nat) (flights : List Flight) : List Flight :=
  (flightsFor registration flights).filter (fun flight => flight.initial == initial)

theorem flightsOf_append (initial : Bool) (registration : Nat) (left right : List Flight) :
    flightsOf initial registration (left ++ right) =
      flightsOf initial registration left ++ flightsOf initial registration right := by
  rw [flightsOf, flightsFor_append, List.filter_append, flightsOf, flightsOf]

/-- The flights for a registration lie in the order of their sections, the one from its watch
first. At most one from a later section is on its way, told by the worker or as the last one of
all. -/
structure Sorted (traffic : Traffic) (registration : Nat) : Prop where
  made : flightsFor registration traffic.flights ≠ [] →
    registration < traffic.client.registrations
  past : ∀ flight ∈ flightsFor registration traffic.flights,
    flight.moment < traffic.history.length
  order : (flightsOf true registration traffic.flights ++
    flightsOf false registration traffic.flights).Pairwise
      (fun left right => left.moment < right.moment)
  single : (flightsOf true registration traffic.flights).length ≤ 1
  alone : (flightsOf false registration traffic.inFlight).length ≤ 1
  owner : ∀ flight ∈ flightsOf false registration traffic.inFlight,
    flight.party = .worker ∨ flight.event.status = .removed
  ended : ∀ flight ∈ flightsFor registration traffic.flights, flight.event.status = .removed →
    traffic.client.cache.home? registration = none ∧
      ∀ other ∈ flightsFor registration traffic.flights, other.moment ≤ flight.moment

/-- What a section puts on its way to one registration. -/
private theorem launch_cases {traffic : Traffic} {party : Party} {act : Section}
    {batch : List Notification} (indexed : traffic.client.cache.Indexed)
    (seated : traffic.client.cache.Seated traffic.client.registrations)
    (order : batch.Perm (traffic.client.perform act).1) (registration : Nat) :
    flightsFor registration (traffic.launch party act batch) = [] ∨ ∃ notification,
      flightsFor registration (traffic.launch party act batch) =
          [⟨party, traffic.history.length, act.isWatch, notification⟩] ∧
        eventsFor registration (Occurrence.told ⟨traffic.client, act⟩) = [notification.event] := by
  by_cases silent : eventsFor registration (Occurrence.told ⟨traffic.client, act⟩) = []
  · exact .inl (flightsFor_launch_of_silent order silent)
  · have one : ∃ event, eventsFor registration (Occurrence.told ⟨traffic.client, act⟩) =
        [event] := by
      have tells : Occurrence.Tells ⟨traffic.client, act⟩ registration _ :=
        Occurrence.tells _ indexed seated registration
      generalize eventsFor registration (Occurrence.told ⟨traffic.client, act⟩) = events
        at silent tells
      cases tells with
      | nobody => exact absurd rfl silent
      | shows => exact ⟨_, rfl⟩
      | ends => exact ⟨_, rfl⟩
    obtain ⟨event, told⟩ := one
    have same : (eventsFor registration batch).Perm
        (eventsFor registration (Occurrence.told ⟨traffic.client, act⟩)) :=
      (order.filter _).map _
    have launched : (flightsFor registration (traffic.launch party act batch)).map Flight.event =
        eventsFor registration batch := flightsFor_launch registration
    rw [told] at same
    rw [same.eq_singleton, List.map_eq_singleton_iff] at launched
    obtain ⟨flight, alone, rfl⟩ := launched
    have member : flight ∈ flightsFor registration (traffic.launch party act batch) := by
      rw [alone]
      exact List.mem_singleton_self _
    obtain ⟨notification, _, rfl⟩ := List.mem_map.mp (List.mem_filter.mp member).1
    exact .inr ⟨notification, alone, told⟩

/-- To take the only item that counts out of a list and put it first changes nothing that counts. -/
private theorem filter_moved {α : Type} {counts : α → Bool} {ahead behind : List α} {item : α}
    (alone : ((ahead ++ item :: behind).filter counts).length ≤ 1) :
    (item :: (ahead ++ behind)).filter counts = (ahead ++ item :: behind).filter counts := by
  simp only [List.filter_append, List.filter_cons, List.length_append] at alone ⊢
  cases counted : counts item with
  | false => simp
  | true =>
    simp only [counted, if_true, List.length_cons] at alone ⊢
    have before : ahead.filter counts = [] := List.length_eq_zero_iff.mp (by omega)
    rw [before, List.nil_append, List.nil_append]

private theorem flightsOf_eq_filter (initial : Bool) (registration : Nat) (flights : List Flight) :
    flightsOf initial registration flights = flights.filter (fun flight =>
      decide (flight.registration = registration) && flight.initial == initial) := by
  rw [flightsOf, flightsFor, List.filter_filter]
  refine List.filter_congr (fun flight _ => ?_)
  exact Bool.and_comm ..

/-- The next flight of a party takes its place after what was told, which is its place among all
flights for its registration. -/
private theorem flightsOf_deliver {traffic : Traffic} {ahead behind : List Flight} {flight : Flight}
    (inFlight : traffic.inFlight = ahead ++ flight :: behind) (initial : Bool)
    (registration : Nat)
    (alone : (flightsOf initial registration traffic.inFlight).length ≤ 1) :
    flightsOf initial registration (traffic.deliver flight (ahead ++ behind)).flights =
      flightsOf initial registration traffic.flights := by
  have after : (traffic.deliver flight (ahead ++ behind)).flights =
      traffic.told ++ flight :: (ahead ++ behind) := (List.append_cons ..).symm
  rw [inFlight, flightsOf_eq_filter] at alone
  have moved : flightsOf initial registration (flight :: (ahead ++ behind)) =
      flightsOf initial registration (ahead ++ flight :: behind) := by
    rw [flightsOf_eq_filter, flightsOf_eq_filter, filter_moved alone]
  rw [after, flights, inFlight, flightsOf_append, moved, ← flightsOf_append]

theorem Sorted.deliver {traffic : Traffic} {ahead behind : List Flight} {flight : Flight}
    {registration : Nat} (indexed : traffic.client.cache.Indexed)
    (sorted : Sorted traffic registration)
    (inFlight : traffic.inFlight = ahead ++ flight :: behind) :
    Sorted (traffic.deliver flight (ahead ++ behind)) registration := by
  have grown := traffic.client.registrations_le indexed (.note flight.notification.toNote)
  have allFirst : flightsOf true registration traffic.flights =
      flightsOf true registration traffic.told ++
        flightsOf true registration traffic.inFlight := flightsOf_append ..
  have onlyFirst : (flightsOf true registration traffic.inFlight).length ≤ 1 := by
    have single := sorted.single
    rw [allFirst, List.length_append] at single
    omega
  have firsts := flightsOf_deliver inFlight true registration onlyFirst
  have others := flightsOf_deliver inFlight false registration sorted.alone
  have shuffled : (traffic.deliver flight (ahead ++ behind)).flights.Perm traffic.flights := by
    have moved : (flight :: (ahead ++ behind)).Perm (ahead ++ flight :: behind) :=
      List.perm_middle.symm
    rw [flights, flights, inFlight, Traffic.deliver, ← List.append_cons]
    exact moved.append_left _
  have same : (flightsFor registration (traffic.deliver flight (ahead ++ behind)).flights).Perm
      (flightsFor registration traffic.flights) := shuffled.filter _
  have still : (flightsOf false registration (ahead ++ behind)).Sublist
      (flightsOf false registration traffic.inFlight) := by
    rw [inFlight, flightsOf_append, flightsOf_append]
    exact (List.Sublist.refl _).append (((List.sublist_cons_self _ _).filter _).filter _)
  constructor
  case made =>
    intro some
    refine (sorted.made (fun none => some ?_)).trans_le grown
    rw [none] at same
    exact same.eq_nil
  case past =>
    intro other member
    rw [Traffic.deliver, List.length_append]
    exact Nat.lt_add_right _ (sorted.past other (same.mem_iff.mp member))
  case order =>
    rw [firsts, others]
    exact sorted.order
  case single =>
    rw [firsts]
    exact sorted.single
  case alone => exact still.length_le.trans sorted.alone
  case owner =>
    intro other member
    exact sorted.owner other (still.subset member)
  case ended =>
    intro other member removed
    obtain ⟨gone, last⟩ := sorted.ended other (same.mem_iff.mp member) removed
    exact ⟨gone, fun another there => last another (same.mem_iff.mp there)⟩

section

variable {traffic : Traffic} {party : Party} {act : Section} {batch : List Notification}
  {registration : Nat}

private theorem flightsFor_carryOut :
    flightsFor registration (traffic.carryOut party act batch).flights =
      flightsFor registration traffic.told ++
        (flightsFor registration (traffic.launch party act batch) ++
          flightsFor registration traffic.inFlight) := by
  rw [flights, carryOut, flightsFor_append, flightsFor_append]

private theorem flightsOf_carryOut (initial : Bool) :
    flightsOf initial registration (traffic.carryOut party act batch).flights =
      flightsOf initial registration traffic.told ++
        flightsOf initial registration (traffic.carryOut party act batch).inFlight :=
  flightsOf_append ..

private theorem waiting_carryOut (initial : Bool) :
    flightsOf initial registration (traffic.carryOut party act batch).inFlight =
      flightsOf initial registration (traffic.launch party act batch) ++
        flightsOf initial registration traffic.inFlight :=
  flightsOf_append ..

private theorem flightsOf_singleton {flights : List Flight} {flight : Flight}
    (only : flightsFor registration flights = [flight]) (initial : Bool) :
    flightsOf initial registration flights = if flight.initial = initial then [flight] else [] := by
  rw [flightsOf, only, List.filter_cons, List.filter_nil]
  simp only [beq_iff_eq]

/-- A section that tells a registration nothing leaves its flights alone. -/
private theorem Sorted.of_silent (indexed : traffic.client.cache.Indexed)
    (sorted : Sorted traffic registration)
    (silent : flightsFor registration (traffic.launch party act batch) = []) :
    Sorted (traffic.carryOut party act batch) registration := by
  have grown := traffic.client.registrations_le indexed act
  have same : flightsFor registration (traffic.carryOut party act batch).flights =
      flightsFor registration traffic.flights := by
    rw [flightsFor_carryOut, silent, List.nil_append, flights, flightsFor_append]
  have sameOf (initial : Bool) :
      flightsOf initial registration (traffic.carryOut party act batch).flights =
        flightsOf initial registration traffic.flights := by
    rw [flightsOf, same, flightsOf]
  have waiting : flightsOf false registration (traffic.carryOut party act batch).inFlight =
      flightsOf false registration traffic.inFlight := by
    rw [waiting_carryOut, flightsOf, silent, List.filter_nil, List.nil_append]
  constructor
  case made =>
    intro some
    rw [same] at some
    exact (sorted.made some).trans_le grown
  case past =>
    intro flight member
    rw [same] at member
    rw [carryOut, List.length_append]
    exact Nat.lt_add_right _ (sorted.past flight member)
  case order =>
    rw [sameOf, sameOf]
    exact sorted.order
  case single =>
    rw [sameOf]
    exact sorted.single
  case alone =>
    rw [waiting]
    exact sorted.alone
  case owner =>
    rw [waiting]
    exact sorted.owner
  case ended =>
    intro flight member removed
    rw [same] at member ⊢
    obtain ⟨gone, last⟩ := sorted.ended flight member removed
    have made := sorted.made (List.ne_nil_of_mem member)
    exact ⟨traffic.client.home?_perform_eq_none indexed made gone act, last⟩

/-- A watch that tells its registration something puts the first flight for it on its way. -/
private theorem Sorted.of_watch (sorted : Sorted traffic registration) {flight : Flight}
    (launched : flightsFor registration (traffic.launch party act batch) = [flight])
    (initial : flight.initial = true) (moment : flight.moment = traffic.history.length)
    (unmade : traffic.client.registrations ≤ registration)
    (made : registration < (traffic.client.perform act).2.registrations)
    (ends : flight.event.status = .removed →
      (traffic.client.perform act).2.cache.home? registration = none) :
    Sorted (traffic.carryOut party act batch) registration := by
  have none : flightsFor registration traffic.flights = [] := by
    by_contra some
    exact absurd (sorted.made some) (Nat.not_lt.mpr unmade)
  rw [flights, flightsFor_append, List.append_eq_nil_iff] at none
  have only : flightsFor registration (traffic.carryOut party act batch).flights = [flight] := by
    rw [flightsFor_carryOut, launched, none.1, none.2]
    rfl
  have first := flightsOf_singleton only true
  have others := flightsOf_singleton only false
  rw [if_pos initial] at first
  rw [if_neg (by simp [initial])] at others
  have waiting := (List.append_eq_nil_iff.mp ((flightsOf_carryOut false).symm.trans others)).2
  constructor
  case made =>
    intro _
    exact made
  case past =>
    intro other member
    rw [only, List.mem_singleton] at member
    rw [member, moment, carryOut, List.length_append]
    exact Nat.lt_add_one _
  case order =>
    rw [first, others]
    exact List.pairwise_singleton ..
  case single =>
    rw [first]
    exact le_rfl
  case alone =>
    rw [waiting]
    exact Nat.zero_le 1
  case owner =>
    intro other member
    rw [waiting] at member
    cases member
  case ended =>
    intro other member removed
    rw [only, List.mem_singleton] at member
    rw [member] at removed ⊢
    refine ⟨ends removed, fun another there => ?_⟩
    rw [only, List.mem_singleton] at there
    rw [there]

/-- No flight for a registration with a seat tells its end. -/
theorem Sorted.unended (sorted : Sorted traffic registration)
    (present : (traffic.client.cache.home? registration).isSome = true) {flight : Flight}
    (member : flight ∈ flightsFor registration traffic.flights) :
    flight.event.status ≠ .removed := by
  intro removed
  rw [(sorted.ended flight member removed).1] at present
  cases present

/-- When the worker told everybody, no news are on their way to a registration with a seat. -/
theorem Sorted.none_waiting (sorted : Sorted traffic registration)
    (present : (traffic.client.cache.home? registration).isSome = true)
    (idle : traffic.Idle .worker) : flightsOf false registration traffic.inFlight = [] := by
  rw [List.eq_nil_iff_forall_not_mem]
  intro flight member
  have there : flight ∈ flightsFor registration traffic.inFlight := (List.mem_filter.mp member).1
  rcases sorted.owner flight member with worker | removed
  · exact idle flight (List.mem_filter.mp there).1 worker
  · refine sorted.unended present ?_ removed
    rw [flights, flightsFor_append]
    exact List.mem_append_right _ there

/-- News of a record, and its end, come after all that is on its way to a registration. -/
private theorem Sorted.of_news (indexed : traffic.client.cache.Indexed)
    (sorted : Sorted traffic registration) {flight : Flight}
    (launched : flightsFor registration (traffic.launch party act batch) = [flight])
    (initial : flight.initial = false) (moment : flight.moment = traffic.history.length)
    (present : (traffic.client.cache.home? registration).isSome = true)
    (made : registration < traffic.client.registrations)
    (idle : traffic.Idle .worker)
    (owner : flight.party = .worker ∨ flight.event.status = .removed)
    (ends : flight.event.status = .removed →
      (traffic.client.perform act).2.cache.home? registration = none) :
    Sorted (traffic.carryOut party act batch) registration := by
  have none := sorted.none_waiting present idle
  have members (other : Flight) :
      other ∈ flightsFor registration (traffic.carryOut party act batch).flights ↔
        other ∈ flightsFor registration traffic.flights ∨ other = flight := by
    rw [flightsFor_carryOut, launched, flights, flightsFor_append]
    simp only [List.mem_append, List.mem_singleton]
    tauto
  have firsts : flightsOf true registration (traffic.carryOut party act batch).flights =
      flightsOf true registration traffic.flights := by
    rw [flightsOf_carryOut, waiting_carryOut, flightsOf_singleton launched,
      if_neg (by simp [initial]), List.nil_append, flights, flightsOf_append]
  have waiting : flightsOf false registration (traffic.carryOut party act batch).inFlight =
      [flight] := by
    rw [waiting_carryOut, flightsOf_singleton launched, if_pos initial, none, List.append_nil]
  have others : flightsOf false registration (traffic.carryOut party act batch).flights =
      flightsOf false registration traffic.flights ++ [flight] := by
    rw [flightsOf_carryOut, waiting, flights, flightsOf_append, none, List.append_nil]
  have past (other : Flight) (member : other ∈ flightsFor registration traffic.flights) :
      other.moment < flight.moment := by
    rw [moment]
    exact sorted.past other member
  constructor
  case made =>
    intro _
    exact made.trans_le (traffic.client.registrations_le indexed act)
  case past =>
    intro other member
    rw [carryOut, List.length_append, List.length_singleton, ← moment]
    rcases (members other).mp member with old | rfl
    · exact Nat.lt_add_right 1 (past other old)
    · exact Nat.lt_add_one _
  case order =>
    rw [firsts, others, ← List.append_assoc, List.pairwise_append]
    refine ⟨sorted.order, List.pairwise_singleton .., fun left old right new => ?_⟩
    rw [List.mem_singleton.mp new]
    rcases List.mem_append.mp old with first | other
    · exact past left (List.mem_filter.mp first).1
    · exact past left (List.mem_filter.mp other).1
  case single =>
    rw [firsts]
    exact sorted.single
  case alone =>
    rw [waiting]
    exact le_rfl
  case owner =>
    intro other member
    rw [waiting, List.mem_singleton] at member
    rw [member]
    exact owner
  case ended =>
    intro other member removed
    rcases (members other).mp member with old | rfl
    · exact absurd removed (sorted.unended present old)
    · refine ⟨ends removed, fun another there => ?_⟩
      rcases (members another).mp there with old | rfl
      · exact (past another old).le
      · exact le_rfl

theorem Sorted.carryOut (indexed : traffic.client.cache.Indexed)
    (seated : traffic.client.cache.Seated traffic.client.registrations)
    (sorted : Sorted traffic registration) (suits : act.Suits traffic party)
    (order : batch.Perm (traffic.client.perform act).1) :
    Sorted (traffic.carryOut party act batch) registration := by
  rcases @launch_cases _ party _ _ indexed seated order registration with
    silent | ⟨notification, launched, told⟩
  · exact sorted.of_silent indexed silent
  have some : eventsFor registration (Occurrence.told ⟨traffic.client, act⟩) ≠ [] := by
    rw [told]
    exact List.cons_ne_nil _ _
  have ends : notification.event.status = .removed →
      (traffic.client.perform act).2.cache.home? registration = none :=
    Occurrence.gone_of_removed ⟨traffic.client, act⟩ indexed seated told
  cases watch : act.isWatch with
  | true =>
    have new := Occurrence.registration_of_watch watch indexed seated some
    have made := Occurrence.lt_of_told ⟨traffic.client, act⟩ indexed seated some
    exact sorted.of_watch launched watch rfl new.ge made ends
  | false =>
    have present := Occurrence.home_of_told watch indexed seated some
    obtain ⟨idle, owner⟩ : traffic.Idle .worker ∧
        (party = .worker ∨ notification.event.status = .removed) := by
      cases act with
      | reply => exact ⟨suits.2, .inl suits.1⟩
      | failStream => exact ⟨suits.2, .inl suits.1⟩
      | finishClose => exact ⟨suits.2, .inr (Occurrence.removed_of_finishClose indexed seated told)⟩
      | watch => cases watch
      | unwatch | sweep => exact absurd rfl some
      | beginRead | finishRead | requestStream | openStream | cancelStream | startSweeps
          | scheduleSweep | poll | dropStream | beginClose | stopStreamWorker | stopSweepWorker
          | note | setClock =>
        refine absurd ?_ some
        rw [Occurrence.told, (Client.perform_quiet rfl traffic.client).told]
        rfl
    exact sorted.of_news indexed launched watch rfl present (seated.lt_of_home? present) idle owner
      ends

end

/-! ## All traffic -/

variable {start : Client} {traffic : Traffic}

theorem sorted_of_leads (fresh : start.Fresh) (leads : Leads (ofClient start) traffic)
    (registration : Nat) : Sorted traffic registration := by
  induction leads with
  | refl =>
    constructor
    case made =>
      intro some
      exact absurd rfl some
    case order => exact List.Pairwise.nil
    case single => exact Nat.zero_le 1
    case alone => exact Nat.zero_le 1
    case past | owner | ended =>
      intro flight member
      cases member
  | @tail middle _ leads step ih =>
    have run := run_of_leads leads
    have indexed := run.indexed fresh
    cases step with
    | carryOut suits order => exact ih.carryOut indexed (run.seated fresh) suits order
    | deliver inFlight _ => exact ih.deliver indexed inFlight

/-- The section that a flight comes from. -/
structure Comes (history : List Occurrence) (flight : Flight) (occurrence : Occurrence) : Prop where
  place : history[flight.moment]? = some occurrence
  told : flight.notification ∈ occurrence.told
  initial : flight.initial = occurrence.act.isWatch

theorem Comes.append {history later : List Occurrence} {flight : Flight} {occurrence : Occurrence}
    (comes : Comes history flight occurrence) : Comes (history ++ later) flight occurrence := by
  refine ⟨?_, comes.told, comes.initial⟩
  rw [List.getElem?_append_left (List.getElem?_eq_some_iff.mp comes.place).1]
  exact comes.place

theorem comes_of_leads (leads : Leads (ofClient start) traffic) :
    ∀ flight ∈ traffic.flights, ∃ occurrence, Comes traffic.history flight occurrence := by
  induction leads with
  | refl =>
    intro flight member
    cases member
  | @tail middle _ leads step ih =>
    cases step with
    | @carryOut party act batch _ order =>
      intro flight member
      rcases List.mem_append.mp member with old | new
      · obtain ⟨occurrence, comes⟩ := ih flight (List.mem_append_left _ old)
        exact ⟨occurrence, comes.append⟩
      rcases List.mem_append.mp new with launched | waiting
      · obtain ⟨notification, there, rfl⟩ := List.mem_map.mp launched
        exact ⟨⟨middle.client, act⟩, List.getElem?_concat_length, order.mem_iff.mp there, rfl⟩
      · obtain ⟨occurrence, comes⟩ := ih flight (List.mem_append_right _ waiting)
        exact ⟨occurrence, comes.append⟩
    | @deliver ahead behind next inFlight _ =>
      intro flight member
      have known : flight ∈ middle.flights := by
        rw [flights, inFlight]
        simp only [flights, deliver, List.mem_append, List.mem_singleton] at member
        simp only [List.mem_append, List.mem_cons]
        tauto
      obtain ⟨occurrence, comes⟩ := ih flight known
      exact ⟨occurrence, comes.append⟩

end Traffic

end ConfigWatch

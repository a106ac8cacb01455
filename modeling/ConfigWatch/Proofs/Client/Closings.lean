import ConfigWatch.Proofs.Client.Ventures

/-!
# What a close leaves

A close starts the cache afresh and tells everybody before it returns, unless the task of a worker
failed. Then it returns an error at once, with everything left as it was, and nobody who still has
a seat hears an end ever after: a further close finds the client closed.
-/

set_option autoImplicit false

namespace ConfigWatch

namespace Venture

def Present (venture : Venture) (registration : Nat) : Prop :=
  (venture.client.cache.home? registration).isSome = true

/-- The end of a registration is lost: the party that was to tell it broke off. -/
def CutOff (venture : Venture) (registration : Nat) : Prop :=
  ∃ flight ∈ venture.lost, flight.registration = registration ∧ flight.event.status = .removed

/-- Whatever is recorded was watched after the cache started afresh for a close. -/
def Belated (venture : Venture) : Prop :=
  ∃ earlier occurrence later, venture.history = earlier ++ occurrence :: later ∧
    occurrence.act = .finishClose ∧
    ∀ space key record, venture.client.cache.recordAt? space key = some record →
      ∃ next ∈ later, ∃ watcher, next.act = .watch space key watcher

/-- A caller closes a client that it finds open, and the call has returned. -/
structure Closes (start : Client) (before : Venture) (caller : Nat) (after : Venture)
    (outcome : Except Error Unit) : Prop where
  leads : Leads (ofClient start) before
  opened : before.client.closed = false
  later : Leads (before.call caller) after
  returned : after.closing = .returned outcome

/-- What a close is for: nothing is recorded any more, and every registration that had its seat
when the close was called, and whose watcher was not removed, heard its end. -/
structure Finished (before after : Venture) : Prop where
  empty : ∀ space key, after.client.cache.recordAt? space key = none
  heard : ∀ registration, before.Present registration →
    ¬ Unwatched after.history registration → removals after.client registration = 1

variable {start : Client} {before after venture : Venture} {outcome : Except Error Unit}

/-! ## After the cache started afresh -/

theorem Moves.registrations_le (moves : Moves before after)
    (indexed : before.client.cache.Indexed) :
    before.client.registrations ≤ after.client.registrations := by
  rcases moves.performs with ⟨act, _, client⟩ | ⟨_, client⟩
  · rw [client]
    exact Client.registrations_le indexed act
  · rw [client]

theorem Leads.registrations_le (fresh : start.Fresh)
    (run : Run start before.history before.client) (leads : Leads before after) :
    before.client.registrations ≤ after.client.registrations := by
  induction leads with
  | refl => exact le_rfl
  | tail leads step ih =>
    have middle := Leads.run leads run
    exact ih.trans (step.moves.registrations_le (middle.indexed fresh))

/-- The state of a client after its cache started afresh: no registration that was made before has
a seat, and whatever is recorded was watched since. -/
structure Renewed (made : Nat) (venture : Venture) : Prop where
  vacant : ∀ registration < made, venture.client.cache.home? registration = none
  belated : venture.Belated

private theorem belated_perform {client : Client} (indexed : client.cache.Indexed)
    {later : List Occurrence}
    (watched : ∀ space key record, client.cache.recordAt? space key = some record →
      ∃ next ∈ later, ∃ watcher, next.act = .watch space key watcher) (act : Section)
    {space : NamespaceKey} {key : DocumentKey} {record : Record}
    (found : (client.perform act).2.cache.recordAt? space key = some record) :
    ∃ next ∈ later ++ [⟨client, act⟩], ∃ watcher, next.act = .watch space key watcher := by
  have old {rest : Record} (there : client.cache.restAt? space key = some rest) :
      ∃ next ∈ later ++ [⟨client, act⟩], ∃ watcher, next.act = .watch space key watcher := by
    obtain ⟨held, found, _⟩ := Cache.exists_recordAt? there
    obtain ⟨next, member, watches⟩ := watched space key held found
    exact ⟨next, List.mem_append_left _ member, watches⟩
  cases Client.yields indexed (Cache.restAt?_eq_some found) with
  | kept there => exact old there
  | watched => exact ⟨_, List.mem_append_right _ (List.mem_singleton_self _), _, rfl⟩
  | unwatched _ there => exact old there
  | replied _ there => exact old there

private theorem Renewed.step {made : Nat} (renewed : Renewed made before)
    (indexed : before.client.cache.Indexed) (few : made ≤ before.client.registrations)
    (moves : Moves before after) : Renewed made after := by
  obtain ⟨vacant, earlier, occurrence, later, split, ends, watched⟩ := renewed
  rcases moves.performs with ⟨act, history, client⟩ | ⟨history, client⟩
  · constructor
    case vacant =>
      intro registration old
      rw [client]
      exact Client.home?_perform_eq_none indexed (old.trans_le few) (vacant registration old) act
    case belated =>
      refine ⟨earlier, occurrence, later ++ [⟨before.client, act⟩], ?_, ends, ?_⟩
      · rw [history, split, List.append_assoc, List.cons_append]
      · intro space key record found
        rw [client] at found
        exact belated_perform indexed watched act found
  · constructor
    case vacant =>
      rw [client]
      exact vacant
    case belated =>
      rw [Belated, client, history]
      exact ⟨earlier, occurrence, later, split, ends, watched⟩

private theorem renewed_of_finish {made : Nat} (sound : before.Sound) {caller : Nat}
    {batch : List Notification} (waiting : before.closing = .waiting caller)
    (streamStopped : before.client.streamWorker = .stopped)
    (sweepStopped : before.client.sweepWorker = .stopped)
    (same : after.traffic = before.traffic.carryOut (.caller caller) .finishClose batch) :
    Renewed made after := by
  have closed : before.client.closed = true := by
    by_contra opened
    have unasked := sound.unasked (Bool.not_eq_true _ ▸ opened)
    cases unasked.symm.trans waiting
  have client : after.client = (before.client.perform .finishClose).2 :=
    congrArg Traffic.client same
  have history : after.history = before.history ++ [⟨before.client, .finishClose⟩] :=
    congrArg Traffic.history same
  have cache : after.client.cache = before.client.cache.reset.2 := by
    rw [client]
    simp [Client.perform, closed, streamStopped, sweepStopped, Client.resetCache]
  constructor
  case vacant =>
    intro registration _
    rw [cache]
    exact Cache.home?_reset _ registration
  case belated =>
    refine ⟨before.history, ⟨before.client, .finishClose⟩, [], history, rfl, ?_⟩
    intro space key record found
    rw [cache] at found
    cases found

private theorem renewed_of_leads (fresh : start.Fresh) {caller : Nat}
    (leads : Leads (ofClient start) (before.call caller))
    (later : Leads (before.call caller) after) (afresh : after.closing.Afresh) :
    Renewed before.client.registrations after := by
  induction later with
  | refl => exact afresh.elim
  | @tail middle after later step ih =>
    have reached : Leads (ofClient start) middle := leads.trans later
    have indexed := (run_of_leads reached).indexed fresh
    have few : (before.call caller).client.registrations ≤ middle.client.registrations :=
      Leads.registrations_le fresh (run_of_leads leads) later
    rcases step.afresh afresh with earlier | ⟨_, _, waiting, streamStopped, sweepStopped, same⟩
    · exact (ih earlier).step indexed few step.moves
    · exact renewed_of_finish (sound_of_leads fresh reached) waiting streamStopped sweepStopped
        same

/-! ## After a close that gave up -/

/-- Nobody is due to hear an end any more. -/
structure Ceases (before after : Venture) : Prop where
  closing : after.closing = before.closing
  endings : ∀ registration,
    endings after.history registration = endings before.history registration
  lost : ∀ flight ∈ before.lost, flight ∈ after.lost

private theorem ceases_of_carryOut {party : Party} {act : Section} {batch : List Notification}
    (running : act ≠ .failStream) (unfinished : act ≠ .finishClose) :
    Ceases before (before.carryOut party act batch) := by
  have none (registration : Nat) :
      Occurrence.ending ⟨before.client, act⟩ registration = [] := by
    cases act with
    | failStream => exact absurd rfl running
    | finishClose => exact absurd rfl unfinished
    | _ => rfl
  constructor
  case closing => rfl
  case endings =>
    intro registration
    have added := endings_snoc before.history ⟨before.client, act⟩ registration
    rw [none, List.append_nil] at added
    exact added
  case lost => exact fun _ member => member

theorem Step.ceases (sound : before.Sound) {cause : Error}
    (returned : before.closing = .returned (.error cause)) (step : Step before after) :
    Ceases before after := by
  obtain ⟨_, _, rests⟩ := sound.gaveUp cause returned
  cases step with
  | carryOut comes _ =>
    refine ceases_of_carryOut ?_ ?_
    · rintro rfl
      exact rests (comes.works comes.suits.1)
    · rintro rfl
      cases comes.unclosing
  | @deliver ahead behind flight _ _ =>
    constructor
    case closing => rfl
    case endings =>
      intro registration
      have added := endings_snoc before.history
        ⟨before.client, .note flight.notification.toNote⟩ registration
      have none : Occurrence.ending ⟨before.client, .note flight.notification.toNote⟩
          registration = [] := rfl
      rw [none, List.append_nil] at added
      exact added
    case lost => exact fun _ member => member
  | breakOff _ =>
    constructor
    case closing => simp [Venture.breakOff, returned, Closing.caller?]
    case endings => exact fun _ => rfl
    case lost => exact fun _ member => List.mem_append_left _ member
  | call opened => cases (sound.unasked opened).symm.trans returned
  | stopStream _ _ _ => exact ceases_of_carryOut (by simp) (by simp)
  | stopSweeps _ => exact ceases_of_carryOut (by simp) (by simp)
  | finish waiting => cases waiting.symm.trans returned
  | giveUp waiting => cases waiting.symm.trans returned
  | succeed telling => cases telling.symm.trans returned

theorem Leads.ceases (fresh : start.Fresh) (leads : Leads (ofClient start) before) {cause : Error}
    (returned : before.closing = .returned (.error cause)) (later : Leads before after) :
    Ceases before after := by
  induction later with
  | refl => exact ⟨rfl, fun _ => rfl, fun _ member => member⟩
  | @tail middle after later step ih =>
    have sound := sound_of_leads fresh (Relation.ReflTransGen.trans leads later)
    have next := step.ceases sound (ih.closing.trans returned)
    exact ⟨next.closing.trans ih.closing,
      fun registration => (next.endings registration).trans (ih.endings registration),
      fun flight member => next.lost flight (ih.lost flight member)⟩

/-! ## Ends that are heard -/

theorem Sound.rests_of_returned (sound : venture.Sound)
    (returned : venture.closing = .returned outcome) : ¬ venture.StreamWorks := by
  cases outcome with
  | ok =>
    have afresh : venture.closing.Afresh := by
      rw [returned]
      trivial
    exact fun works => works.2 (sound.afresh afresh).1
  | error cause => exact (sound.gaveUp cause returned).2.2

/-- No end is on its way once a close returned. -/
theorem Sound.countP_inFlight (sound : venture.Sound)
    (returned : venture.closing = .returned outcome) (registration : Nat) :
    venture.traffic.inFlight.countP (Flight.ends registration) = 0 := by
  refine List.countP_eq_zero.mpr (fun flight member ends => ?_)
  have removed : flight.event.status = .removed := by
    simpa using (Bool.and_eq_true_iff.mp ends).2
  rcases sound.tellers flight member removed with worker | ⟨_, telling, _⟩
  · exact sound.idle (sound.rests_of_returned returned) flight member worker
  · cases telling.symm.trans returned

theorem countP_lost_eq_zero_iff (registration : Nat) :
    venture.lost.countP (Flight.ends registration) = 0 ↔ ¬ venture.CutOff registration := by
  rw [List.countP_eq_zero]
  simp [CutOff, Flight.ends]

/-- Once a close returned, a registration that the cache started afresh for heard its end, or that
end is lost. -/
theorem removals_of_returned (fresh : start.Fresh) (leads : Leads (ofClient start) venture)
    (returned : venture.closing = .returned outcome) (registration : Nat) :
    (Ended venture.history registration ∧ ¬ venture.CutOff registration ∧
        removals venture.client registration = 1) ∨
      (Ended venture.history registration ∧ venture.CutOff registration ∧
        removals venture.client registration = 0) ∨
      (¬ Ended venture.history registration ∧ ¬ venture.CutOff registration ∧
        removals venture.client registration = 0) := by
  have sum := counted_of_leads fresh leads registration
  have lost : venture.lost.countP (Flight.ends registration) = 0 ↔ ¬ venture.CutOff registration :=
    countP_lost_eq_zero_iff registration
  rw [(sound_of_leads fresh leads).countP_inFlight returned, Nat.add_zero] at sum
  rcases (run_of_leads leads).endings_cases fresh registration with
    ⟨ended, _, _, one⟩ | ⟨unended, none⟩
  · rw [one, List.length_singleton] at sum
    by_cases cutOff : venture.CutOff registration
    · have some := mt lost.mp (not_not_intro cutOff)
      exact .inr (.inl ⟨ended, cutOff, by omega⟩)
    · have none := lost.mpr cutOff
      exact .inl ⟨ended, cutOff, by omega⟩
  · rw [none, List.length_nil] at sum
    exact .inr (.inr ⟨unended, lost.mp (by omega), by omega⟩)

private theorem home?_of_empty {cache : Cache}
    (empty : ∀ space key, cache.recordAt? space key = none) (registration : Nat) :
    cache.home? registration = none := by
  rw [Cache.home?_eq_none_iff]
  rintro space key id watcher ⟨rest, found, _⟩
  obtain ⟨record, there, _⟩ := Cache.exists_recordAt? found
  rw [empty] at there
  cases there

/-! ## What a close does -/

namespace Closes

variable {caller : Nat}

theorem called (closes : Closes start before caller after outcome) :
    Leads (ofClient start) (before.call caller) :=
  closes.leads.tail (.call closes.opened)

theorem reaches (closes : Closes start before caller after outcome) :
    Leads (ofClient start) after :=
  closes.called.trans closes.later

/-- A registration that had its seat and has it no more lost it in one of three ways. -/
theorem lost_seat (fresh : start.Fresh) (closes : Closes start before caller after outcome)
    {registration : Nat} (present : before.Present registration)
    (absent : after.client.cache.home? registration = none) :
    Unwatched after.history registration ∨ Ended after.history registration ∨
      Displaced after.history registration := by
  have grown : (before.call caller).client.registrations ≤ after.client.registrations :=
    Leads.registrations_le fresh (run_of_leads closes.called) closes.later
  have seated := (run_of_leads closes.leads).seated fresh
  exact (run_of_leads closes.reaches).unwatched_or_ended_or_displaced fresh
    ((seated.lt_of_home? present).trans_le grown) absent

theorem finished_iff (fresh : start.Fresh) (closes : Closes start before caller after outcome) :
    Finished before after ↔
      (∀ space key, after.client.cache.recordAt? space key = none) ∧
        ∀ registration, before.Present registration →
          ¬ Displaced after.history registration ∧ ¬ after.CutOff registration := by
  have fate := (run_of_leads closes.reaches).fate fresh
  have said := removals_of_returned fresh closes.reaches closes.returned
  constructor
  · intro finished
    refine ⟨finished.empty, fun registration present => ⟨fun displaced => ?_, fun cutOff => ?_⟩⟩
    · obtain ⟨kept, unended⟩ := displaced.alone (fate registration)
      have one := finished.heard registration present kept
      rcases said registration with ⟨ended, _⟩ | ⟨ended, _⟩ | ⟨_, _, none⟩
      · exact unended ended
      · exact unended ended
      · omega
    · rcases said registration with ⟨_, kept, _⟩ | ⟨ended, _, none⟩ | ⟨_, kept, _⟩
      · exact kept cutOff
      · have one := finished.heard registration present (ended.not_unwatched (fate registration))
        omega
      · exact kept cutOff
  · rintro ⟨empty, others⟩
    constructor
    case empty => exact empty
    case heard =>
      intro registration present kept
      obtain ⟨undisplaced, uncut⟩ := others registration present
      rcases said registration with ⟨_, _, one⟩ | ⟨_, cutOff, _⟩ | ⟨unended, _⟩
      · exact one
      · exact absurd cutOff uncut
      · rcases closes.lost_seat fresh present (home?_of_empty empty registration) with
          unwatched | ended | displaced
        · exact absurd unwatched kept
        · exact absurd ended unended
        · exact absurd displaced undisplaced

theorem ok_iff (fresh : start.Fresh) (closes : Closes start before caller after outcome) :
    outcome = .ok () ↔ ¬ after.WorkerFailed := by
  have sound := sound_of_leads fresh closes.reaches
  have returned := closes.returned
  cases outcome with
  | ok =>
    have afresh : after.closing.Afresh := by
      rw [returned]
      trivial
    obtain ⟨streamStopped, sweepStopped⟩ := sound.afresh afresh
    refine iff_of_true rfl ?_
    rintro (crashed | failed)
    · cases crashed.symm.trans (sound.stopped streamStopped)
    · cases failed.symm.trans sweepStopped
  | error cause =>
    have failed := (sound.gaveUp cause returned).2.1
    exact iff_of_false (fun same => by cases same) (not_not_intro failed)

/-- A close without an error started the cache afresh. -/
theorem renewed (fresh : start.Fresh) (closes : Closes start before caller after (.ok ())) :
    Renewed before.client.registrations after := by
  refine renewed_of_leads fresh closes.called closes.later ?_
  rw [closes.returned]
  trivial

/-- A close without an error told everybody who was there. -/
theorem heard_of_ok (fresh : start.Fresh) (closes : Closes start before caller after (.ok ()))
    {registration : Nat} (present : before.Present registration) :
    Unwatched after.history registration ∨ Displaced after.history registration ∨
      removals after.client registration = 1 := by
  have seated := (run_of_leads closes.leads).seated fresh
  have vacant := (closes.renewed fresh).vacant registration (seated.lt_of_home? present)
  rcases closes.lost_seat fresh present vacant with unwatched | ended | displaced
  · exact .inl unwatched
  · rcases removals_of_returned fresh closes.reaches closes.returned registration with
      ⟨_, _, one⟩ | ⟨_, ⟨flight, lost, _, removed⟩, _⟩ | ⟨unended, _⟩
    · exact .inr (.inr one)
    · -- Ends are lost only if the stream worker or the caller broke off.
      rcases (sound_of_leads fresh closes.reaches).lost flight lost removed with crashed | broken
      · exact absurd (.inl crashed) ((closes.ok_iff fresh).mp rfl)
      · cases broken.symm.trans closes.returned
    · exact absurd ended unended
  · exact .inr (.inl displaced)

/-- After a close that gave up, those who have a seat or whose end is lost hear no end. -/
theorem silent_of_error (fresh : start.Fresh) {cause : Error}
    (closes : Closes start before caller after (.error cause)) {final : Venture}
    (onward : Leads after final) {registration : Nat}
    (left : after.Present registration ∨ after.CutOff registration) :
    removals final.client registration = 0 := by
  have ceases := Leads.ceases fresh closes.reaches closes.returned onward
  have reaches : Leads (ofClient start) final := closes.reaches.trans onward
  have returned := ceases.closing.trans closes.returned
  rcases removals_of_returned fresh reaches returned registration with
    ⟨ended, uncut, _⟩ | ⟨_, _, none⟩ | ⟨_, _, none⟩
  · rcases left with present | ⟨flight, lost, about, removed⟩
    · have run := run_of_leads closes.reaches
      have unended : ¬ Ended after.history registration := by
        rintro ⟨_, member, _⟩
        rw [(run.fate fresh registration).present present] at member
        cases member
      rw [← run.endings_ne_nil_iff fresh, ← ceases.endings,
        (run_of_leads reaches).endings_ne_nil_iff fresh] at unended
      exact absurd ended unended
    · exact absurd ⟨flight, ceases.lost flight lost, about, removed⟩ uncut
  · exact none
  · exact none

end Closes

/-! ## A close can always return -/

/-- Everybody is told whatever is on its way. -/
def drain (venture : Venture) : Venture :=
  { venture with traffic := venture.traffic.deliverAll venture.traffic.inFlight [] }

theorem leads_drain (venture : Venture) : Leads venture venture.drain :=
  leads_deliverAll (List.append_nil _).symm

theorem idle_drain (venture : Venture) (party : Party) : venture.drain.traffic.Idle party := by
  have none : venture.drain.traffic.inFlight = [] :=
    (Traffic.leads_deliverAll (List.append_nil _).symm).2
  rw [Traffic.Idle, none]
  intro flight member
  cases member

private theorem client_deliverAll (flights rest : List Flight) (traffic : Traffic) :
    ∃ journal, (traffic.deliverAll flights rest).client = { traffic.client with journal } := by
  induction flights generalizing traffic with
  | nil => exact ⟨_, rfl⟩
  | cons flight more ih =>
    obtain ⟨journal, told⟩ := ih (traffic.deliver flight (more ++ rest))
    exact ⟨journal, told⟩

private theorem stops_stream {client : Client} (closed : client.closed = true) :
    (client.perform .stopStreamWorker).2.closed = true ∧
      (client.perform .stopStreamWorker).2.streamWorker = .stopped := by
  simp only [Client.perform, closed, if_true, Client.stopStreamWorker]
  split <;> exact ⟨rfl, rfl⟩

private theorem stops_sweeps {client : Client} (closed : client.closed = true) :
    (client.perform .stopSweepWorker).2.streamWorker = client.streamWorker ∧
      ((client.perform .stopSweepWorker).2.sweepWorker = .stopped ∨
        (client.perform .stopSweepWorker).2.sweepWorker = .failed) := by
  simp only [Client.perform, closed, if_true, Client.stopSweepWorker]
  split
  · refine ⟨rfl, ?_⟩
    dsimp only
    split
    · exact .inr rfl
    · exact .inl rfl
  · exact ⟨rfl, .inl rfl⟩
  · next stopped => exact ⟨rfl, .inl stopped⟩
  · next failed => exact ⟨rfl, .inr failed⟩

private theorem can_stop {caller : Nat} (waiting : venture.closing = .waiting caller)
    (closed : venture.client.closed = true) (alive : venture.crashed = false) :
    ∃ after, Leads venture after ∧ after.closing = .waiting caller ∧ after.crashed = false ∧
      after.client.closed = true ∧ after.client.streamWorker = .stopped := by
  -- The worker stops between two replies: whatever is on its way is told first.
  obtain ⟨journal, told⟩ := client_deliverAll venture.traffic.inFlight [] venture.traffic
  have same : venture.drain.client = { venture.client with journal } := told
  have still : venture.drain.client.closed = true := by
    rw [same]
    exact closed
  by_cases stopped : venture.drain.client.streamWorker = .stopped
  · exact ⟨venture.drain, venture.leads_drain, waiting, alive, still, stopped⟩
  · have stops : Step venture.drain (venture.drain.carryOut .worker .stopStreamWorker []) :=
      .stopStream still ⟨alive, stopped⟩ (venture.idle_drain .worker)
    exact ⟨_, venture.leads_drain.tail stops, waiting, alive, stops_stream still⟩

/-- A call that waits can return, as soon as all who tell a watcher are done with it. -/
theorem can_return {caller : Nat} (waiting : venture.closing = .waiting caller)
    (closed : venture.client.closed = true) :
    ∃ after outcome, Leads venture after ∧ after.closing = .returned outcome := by
  by_cases crashed : venture.crashed = true
  · exact ⟨_, _, .single (.giveUp waiting (.inl crashed)), rfl⟩
  · obtain ⟨rested, leads, waits, alive, closes, stopped⟩ :=
      can_stop waiting closed (Bool.not_eq_true _ ▸ crashed)
    have sweeps : Step rested (rested.carryOut .worker .stopSweepWorker []) := .stopSweeps closes
    obtain ⟨same, ends⟩ := stops_sweeps closes
    have both := leads.tail sweeps
    rcases ends with sweepStopped | failed
    · have finishes := both.tail
        (.finish waits alive (same.trans stopped) sweepStopped (List.Perm.refl _))
      exact ⟨_, _, (finishes.trans (leads_drain _)).tail (.succeed rfl (idle_drain _ _)), rfl⟩
    · exact ⟨_, _, both.tail (.giveUp waits (.inr ⟨same.trans stopped, failed⟩)), rfl⟩

/-! ## The close of a client -/

/-- What the caller of a close tells, and what watchers do in turn, are steps of a venture. -/
theorem telling_leads (before : Venture) (caller : Nat) :
    Telling (fun client agenda => ∃ after, Leads before after ∧ after.closing = .telling caller ∧
      after.client = client ∧ after.traffic.inFlight.map Flight.notification = agenda) := by
  constructor
  case tells =>
    rintro _ notification agenda ⟨after, leads, closing, rfl, waiting⟩
    obtain ⟨flight, rest, inFlight, rfl, rfl⟩ := List.map_eq_cons_iff.mp waiting
    exact ⟨_, leads.tail (.first inFlight), closing, rfl, rfl⟩
  case acts =>
    rintro _ agenda act reaction fits ⟨after, leads, closing, rfl, rfl⟩
    have called : act.isStreaming = false := by
      cases act <;> first | rfl | cases reaction
    have comes : act.Comes after (.caller caller) := by
      constructor
      case unclosing => exact Section.unclosing_of_isReaction reaction
      case suits => cases act <;> trivial
      case works =>
        intro worker
        cases worker
      case own =>
        intro streaming
        cases called.symm.trans streaming
    exact ⟨_, leads.tail (.carryOut comes (List.Perm.refl _)), closing, rfl,
      Traffic.notifications_carryOut ..⟩

private theorem can_halt (caller : Nat) (works : before.StreamWorks)
    (quiet : before.traffic.inFlight = []) :
    ∃ halted, Leads (before.call caller) halted ∧ halted.closing = .waiting caller ∧
      halted.crashed = false ∧ halted.client = before.client.closing ∧
        halted.traffic.inFlight = [] := by
  have idle : (before.call caller).traffic.Idle .worker := by
    intro flight member
    have none : flight ∈ before.traffic.inFlight := member
    rw [quiet] at none
    cases none
  have closed : (before.call caller).client.closed = true := rfl
  have stops := Step.stopStream closed works idle
  have still : ((before.call caller).carryOut .worker .stopStreamWorker []).client.closed = true :=
    (stops_stream closed).1
  have sweeps := @Step.stopSweeps _ .worker still
  exact ⟨_, .tail (.single stops) sweeps, rfl, works.1, rfl, quiet⟩

/-- When nobody else is at work, the call that closes a client is the close of a venture. -/
private theorem closes_of_quiet (leads : Leads (ofClient start) before)
    (opened : before.client.closed = false) (works : before.StreamWorks)
    (quiet : before.traffic.inFlight = []) (caller : Nat) :
    ∃ after, Closes start before caller after before.client.close.1 ∧
      after.client = before.client.close.2 := by
  obtain ⟨halted, toHalted, waiting, alive, same, idle⟩ := can_halt caller works quiet
  obtain ⟨_, streamStopped, sweepStops⟩ := before.client.closing_stopped
  have finish := before.client.perform_finishClose
  rw [Client.close, opened, if_neg Bool.false_ne_true, ← Client.closing_eq, Client.finishClose]
  rw [← same] at streamStopped sweepStops finish ⊢
  split
  · next failed =>
    have gaveUp := toHalted.tail (.giveUp waiting (.inr ⟨streamStopped, failed⟩))
    exact ⟨_, ⟨leads, opened, gaveUp, rfl⟩, rfl⟩
  · next unfailed =>
    rw [if_neg unfailed] at finish
    have finished := toHalted.tail (.finish waiting alive streamStopped
      (sweepStops.resolve_right unfailed) (List.Perm.refl _))
    have due : ∃ after, Leads (before.call caller) after ∧ after.closing = .telling caller ∧
        after.client = halted.client.resetCache.2 ∧
          after.traffic.inFlight.map Flight.notification = halted.client.resetCache.1 ++ [] := by
      refine ⟨_, finished, rfl, congrArg Prod.snd finish, ?_⟩
      refine (Traffic.notifications_carryOut ..).trans ?_
      rw [idle, finish]
      rfl
    obtain ⟨told, toTold, telling, client, silent⟩ :=
      (telling_leads (before.call caller) caller).dispatch due
    have quieted : told.traffic.Idle (.caller caller) := by
      rw [Traffic.Idle, List.map_eq_nil_iff.mp silent]
      intro _ member
      cases member
    exact ⟨_, ⟨leads, opened, toTold.tail (.succeed telling quieted), rfl⟩, client⟩

/-- The close of a client, after calls and steps of the workers that were complete each before the
next one started, is the close of a venture. -/
theorem closes_of_play (fresh : start.Fresh) {client : Client} {history : List Occurrence}
    (play : Play start history client []) (opened : client.closed = false) (caller : Nat) :
    ∃ before after, Closes start before caller after client.close.1 ∧
      before.history = history ∧ before.client = client ∧ after.client = client.close.2 := by
  obtain ⟨before, leads, history, rfl, waiting, works⟩ := leads_of_play fresh play opened
  obtain ⟨after, closes, same⟩ :=
    closes_of_quiet leads opened works (List.map_eq_nil_iff.mp waiting) caller
  exact ⟨before, after, closes, history, rfl, same⟩

/-! ## When a close does what it is for -/

/-- A call that closes an open client returns without an error if and only if no task of a worker
failed. Without an error every registration that had its seat when the close was called, and was
not displaced, was removed or heard its end once, and whatever is recorded was watched after the
cache started afresh. With an error, those who still have their seat, and those whose end was lost
when somebody broke off, hear no end however things go on. So a close does what it is for if and
only if nothing is recorded when it returned, and nobody who was there was displaced, which takes
as many later registrations as there are ids, or had their end lost. -/
theorem close_finishes_iff (fresh : start.Fresh) {caller : Nat}
    (closes : Closes start before caller after outcome) :
    (Finished before after ↔
      (∀ space key, after.client.cache.recordAt? space key = none) ∧
        ∀ registration, before.Present registration →
          ¬ Displaced after.history registration ∧ ¬ after.CutOff registration) ∧
    (outcome = .ok () ↔ ¬ after.WorkerFailed) ∧
    (outcome = .ok () → after.Belated ∧ ∀ registration, before.Present registration →
      Unwatched after.history registration ∨ Displaced after.history registration ∨
        removals after.client registration = 1) ∧
    (∀ cause, outcome = .error cause → cause = .workerFailed ∧
      ∀ final, Leads after final → ∀ registration,
        after.Present registration ∨ after.CutOff registration →
          removals final.client registration = 0) ∧
    (∀ registration, Displaced after.history registration →
      registration + 2 ^ 32 ≤ after.client.registrations) := by
  refine ⟨closes.finished_iff fresh, closes.ok_iff fresh, ?_, ?_, ?_⟩
  · rintro rfl
    refine ⟨(closes.renewed fresh).belated, fun registration present => ?_⟩
    exact closes.heard_of_ok fresh present
  · rintro cause rfl
    have sound := sound_of_leads fresh closes.reaches
    refine ⟨(sound.gaveUp cause closes.returned).1, fun final onward registration left => ?_⟩
    exact closes.silent_of_error fresh onward left
  · intro registration displaced
    exact (run_of_leads closes.reaches).displaced_far fresh displaced

/-- A document is watched. -/
private def begun (client : Client) : Venture :=
  (ofClient client).settle (.caller 0)
    (.watch { root := "/srv/config" } { document := "a" } (some ("A", .idle)))

private theorem leads_begun (client : Client) : Leads (ofClient client) (begun client) := by
  refine .settle .refl ?_
  constructor
  case unclosing => rfl
  case suits => trivial
  case works =>
    intro worker
    cases worker
  case own =>
    intro streaming
    cases streaming

/-- Both workers stopped for a close. -/
private def stopping (venture : Venture) : Venture :=
  ((venture.call 1).carryOut .worker .stopStreamWorker []).carryOut .worker .stopSweepWorker []

/-- The close starts the cache afresh and tells everybody. -/
private def finishing (venture : Venture) : Venture :=
  { (stopping venture).carryOut (.caller 1) .finishClose
      ((stopping venture).client.perform .finishClose).1 with closing := .telling 1 }.drain

private theorem closes_begun :
    Closes Client.byDefault (begun Client.byDefault) 1
      { finishing (begun Client.byDefault) with closing := .returned (.ok ()) } (.ok ()) := by
  have idle : ((begun Client.byDefault).call 1).traffic.Idle .worker := by
    intro flight member
    cases member
  constructor
  case leads => exact leads_begun _
  case opened => rfl
  case later =>
    have stopped : Leads ((begun Client.byDefault).call 1) (stopping (begun Client.byDefault)) :=
      .tail (.single (.stopStream rfl ⟨rfl, by decide⟩ idle)) (.stopSweeps rfl)
    have told := (stopped.tail (.finish rfl rfl rfl rfl (List.Perm.refl _))).trans (leads_drain _)
    exact told.tail (.succeed rfl (idle_drain _ _))
  case returned => rfl

theorem close_finishes_iff_watched :
    Finished (begun Client.byDefault)
        { finishing (begun Client.byDefault) with closing := .returned (.ok ()) } ∧
      (begun Client.byDefault).Present 0 ∧
        removals (finishing (begun Client.byDefault)).client 0 = 1 := by
  have closes := closes_begun
  obtain ⟨finishes, _, _, _, far⟩ := close_finishes_iff Client.byDefault_fresh closes
  refine ⟨finishes.mpr ⟨fun _ _ => rfl, fun registration _ => ⟨?_, ?_⟩⟩, rfl, by decide +kernel⟩
  · intro displaced
    have bound : registration + 2 ^ 32 ≤ (finishing (begun Client.byDefault)).client.registrations :=
      far registration displaced
    have one : (finishing (begun Client.byDefault)).client.registrations = 1 := by decide +kernel
    omega
  · rintro ⟨_, member, _⟩
    cases member

/-- A client whose sweeps are too far away for the clock. -/
private def withoutSweeps : Client :=
  { settings := { cleanupIntervalSeconds := 18446744073709551615 }, cache := { capacity := 1000 } }

/-- The stream is open. -/
private def reading : Venture :=
  ((begun Client.byDefault).settle .worker .requestStream).settle .worker .openStream

private def firstReply : Section :=
  .reply
    { namespaceId := 1, version := 1, checksum := [1]
      nodes := [{ valueType := 4, int := 1 }] }

/-- The watcher panics when the stream worker tells it the first version. -/
private def panicked : Venture := (reading.settle .worker firstReply).breakOff .worker

private theorem comes_by_worker {act : Section} (unclosing : act.isClosing = false)
    (works : venture.StreamWorks) (suits : act.Suits venture.traffic .worker) :
    act.Comes venture .worker :=
  ⟨unclosing, suits, fun _ => works, fun _ => rfl⟩

private theorem leads_panicked : Leads (ofClient Client.byDefault) panicked := by
  have requests : Section.requestStream.Comes (begun Client.byDefault) .worker :=
    comes_by_worker rfl ⟨rfl, by decide⟩ trivial
  have opens : Section.openStream.Comes
      ((begun Client.byDefault).settle .worker .requestStream) .worker :=
    comes_by_worker rfl ⟨rfl, by decide⟩ trivial
  have idle : reading.traffic.Idle .worker := by
    intro flight member
    cases member
  have replies : firstReply.Comes reading .worker :=
    comes_by_worker rfl ⟨rfl, by decide⟩ ⟨rfl, idle⟩
  have told := (((leads_begun Client.byDefault).settle requests).settle opens).settle replies
  exact told.tail (.breakOff (fun _ => ⟨rfl, by decide +kernel⟩))

/-- A registration that has its seat when a close returned was left behind. -/
private theorem left_behind (fresh : start.Fresh) {caller : Nat}
    (closes : Closes start before caller after outcome) (registration : Nat)
    (present : after.Present registration) :
    ¬ Finished before after ∧ ¬ Unwatched after.history registration := by
  constructor
  · intro finished
    rw [Present, home?_of_empty finished.empty] at present
    cases present
  · rintro ⟨_, member, _⟩
    have fate := (run_of_leads closes.reaches).fate fresh registration
    rw [fate.present present] at member
    cases member

private theorem closes_withoutSweeps :
    Closes withoutSweeps (begun withoutSweeps) 1
      { stopping (begun withoutSweeps) with closing := .returned (.error .workerFailed) }
      (.error .workerFailed) := by
  have idle : ((begun withoutSweeps).call 1).traffic.Idle .worker := by
    intro flight member
    cases member
  constructor
  case leads => exact leads_begun _
  case opened => rfl
  case later =>
    have stopped : Leads ((begun withoutSweeps).call 1) (stopping (begun withoutSweeps)) :=
      .tail (.single (.stopStream rfl ⟨rfl, by decide⟩ idle)) (.stopSweeps rfl)
    exact stopped.tail (.giveUp rfl (.inr ⟨rfl, rfl⟩))
  case returned => rfl

private theorem closes_panicked :
    Closes Client.byDefault panicked 1
      { panicked.call 1 with closing := .returned (.error .workerFailed) }
      (.error .workerFailed) := by
  constructor
  case leads => exact leads_panicked
  case opened => decide +kernel
  case later => exact .single (.giveUp rfl (.inl rfl))
  case returned => rfl

/-- A close can leave a registration behind: it was there, nobody removed it, and it has its seat
still and heard no end. This happens when the sweep worker failed, and when a watcher panicked. -/
theorem close_unfinished :
    (Client.create withoutSweeps.settings {} = .ok withoutSweeps ∧ ∃ before after,
      Closes withoutSweeps before 1 after (.error .workerFailed) ∧ ¬ Finished before after ∧
        before.Present 0 ∧ after.Present 0 ∧ ¬ Unwatched after.history 0 ∧
          removals after.client 0 = 0) ∧
    (∃ before after, Closes Client.byDefault before 1 after (.error .workerFailed) ∧
      before.crashed = true ∧ ¬ Finished before after ∧
        before.Present 0 ∧ after.Present 0 ∧ ¬ Unwatched after.history 0 ∧
          removals after.client 0 = 0) := by
  have fresh : withoutSweeps.Fresh := ⟨withoutSweeps.settings, {}, rfl⟩
  have seated : panicked.Present 0 := by
    rw [Present]
    decide +kernel
  constructor
  · obtain ⟨unfinished, kept⟩ := left_behind fresh closes_withoutSweeps 0 rfl
    exact ⟨rfl, _, _, closes_withoutSweeps, unfinished, rfl, rfl, kept, rfl⟩
  · obtain ⟨unfinished, kept⟩ :=
      left_behind Client.byDefault_fresh closes_panicked 0 seated
    exact ⟨_, _, closes_panicked, rfl, unfinished, seated, seated, kept, by decide +kernel⟩

end Venture

end ConfigWatch

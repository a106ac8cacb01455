import ConfigWatch.Proofs.Client.Notifications
import Mathlib.Logic.Relation

/-!
# Traffic

A section settles under the lock of the cache who is to be told what. From then on the
notifications are on their way: the party whose section it was tells them one after the other,
while the sections of other parties go on. A watcher that is told may call the client in turn, with
the other notifications of the party still on their way.
-/

set_option autoImplicit false

namespace ConfigWatch

/-- Who carries out sections: a thread that calls the client, or the worker of the watch stream. -/
inductive Party where
  | caller (number : Nat)
  | worker
deriving DecidableEq

/-- A notification on its way: who tells it, the place in the history of the section that settled
it, and whether that was a watch. -/
structure Flight where
  party : Party
  moment : Nat
  initial : Bool
  notification : Notification

namespace Flight

def registration (flight : Flight) : Nat := flight.notification.watcher.registration

def event (flight : Flight) : Event := flight.notification.event

end Flight

def flightsFor (registration : Nat) (flights : List Flight) : List Flight :=
  flights.filter (fun flight => decide (flight.registration = registration))

/-- The sections so far, the client they lead to, what is on its way and what was told. -/
structure Traffic where
  history : List Occurrence := []
  client : Client
  inFlight : List Flight := []
  told : List Flight := []

def Section.isWatch : Section → Bool
  | .watch .. => true
  | _ => false

theorem Occurrence.eventsFor_told_of_absent (occurrence : Occurrence)
    (indexed : occurrence.before.cache.Indexed)
    (seated : occurrence.before.cache.Seated occurrence.before.registrations) {registration : Nat}
    (made : registration < occurrence.before.registrations)
    (absent : occurrence.before.cache.home? registration = none) :
    eventsFor registration occurrence.told = [] := by
  rw [occurrence.eventsFor_told indexed seated, due_of_absent made absent,
    ending_of_absent absent, List.append_nil]

namespace Traffic

/-- Nothing that a party is to tell is on its way. -/
def Idle (traffic : Traffic) (party : Party) : Prop :=
  ∀ flight ∈ traffic.inFlight, flight.party ≠ party

def toldTo (traffic : Traffic) (registration : Nat) : List Flight :=
  flightsFor registration traffic.told

def awaitedBy (traffic : Traffic) (registration : Nat) : List Flight :=
  flightsFor registration traffic.inFlight

/-- What a section puts on its way. -/
def launch (traffic : Traffic) (party : Party) (act : Section) (batch : List Notification) :
    List Flight :=
  batch.map (fun notification => ⟨party, traffic.history.length, act.isWatch, notification⟩)

/-- Carries out a section. What it settles is told before anything that the party is to tell from
before, as it is when a watcher calls the client in turn. -/
def carryOut (traffic : Traffic) (party : Party) (act : Section) (batch : List Notification) :
    Traffic where
  history := traffic.history ++ [⟨traffic.client, act⟩]
  client := (traffic.client.perform act).2
  inFlight := traffic.launch party act batch ++ traffic.inFlight
  told := traffic.told

def deliver (traffic : Traffic) (flight : Flight) (rest : List Flight) : Traffic where
  history := traffic.history ++ [⟨traffic.client, .note flight.notification.toNote⟩]
  client := (traffic.client.perform (.note flight.notification.toNote)).2
  inFlight := rest
  told := traffic.told ++ [flight]

end Traffic

/-- Whether a party can carry out a section. The worker has told everybody before it turns to the
next reply or starts the cache afresh, and before a close does so in its place; calls are open to
all parties at any time, for they may come from watchers. -/
def Section.Suits (traffic : Traffic) (party : Party) : Section → Prop
  | .reply _ | .failStream => party = .worker ∧ traffic.Idle .worker
  | .finishClose => traffic.Idle party ∧ traffic.Idle .worker
  | .note written => ∀ event, written.observation ≠ .event event
  | _ => True

namespace Traffic

/-- A section, whose notifications may come in any order, or the next notification of a party. -/
inductive Step : Traffic → Traffic → Prop where
  | carryOut {traffic : Traffic} {party : Party} {act : Section} {batch : List Notification} :
      act.Suits traffic party → batch.Perm (traffic.client.perform act).1 →
      Step traffic (traffic.carryOut party act batch)
  | deliver {traffic : Traffic} {ahead behind : List Flight} {flight : Flight} :
      traffic.inFlight = ahead ++ flight :: behind →
      (∀ other ∈ ahead, other.party ≠ flight.party) →
      Step traffic (traffic.deliver flight (ahead ++ behind))

/-- Any interleaving of the steps of all parties. -/
def Leads : Traffic → Traffic → Prop := Relation.ReflTransGen Step

/-- A client that nothing was done with. -/
def ofClient (client : Client) : Traffic := { client }

/-- Tells what is on its way up to some rest, without a break. -/
def deliverAll (traffic : Traffic) : List Flight → List Flight → Traffic
  | [], _ => traffic
  | flight :: more, rest => (traffic.deliver flight (more ++ rest)).deliverAll more rest

/-- Carries out a section and tells everybody at once. -/
def settle (traffic : Traffic) (party : Party) (act : Section) : Traffic :=
  let batch := (traffic.client.perform act).1
  (traffic.carryOut party act batch).deliverAll (traffic.launch party act batch) traffic.inFlight

variable {start : Client} {traffic before after : Traffic}

theorem Step.first {flight : Flight} {rest : List Flight}
    (inFlight : traffic.inFlight = flight :: rest) :
    Step traffic (traffic.deliver flight rest) := by
  have split : traffic.inFlight = [] ++ flight :: rest := inFlight
  exact .deliver split (fun _ member => by cases member)

theorem leads_deliverAll {flights rest : List Flight}
    (inFlight : traffic.inFlight = flights ++ rest) :
    Leads traffic (traffic.deliverAll flights rest) ∧
      (traffic.deliverAll flights rest).inFlight = rest := by
  induction flights generalizing traffic with
  | nil => exact ⟨.refl, inFlight⟩
  | cons flight more ih =>
    have next : (traffic.deliver flight (more ++ rest)).inFlight = more ++ rest := rfl
    obtain ⟨leads, told⟩ := ih next
    exact ⟨leads.head (.first inFlight), told⟩

theorem Leads.settle {party : Party} {act : Section} (leads : Leads before traffic)
    (suits : act.Suits traffic party) : Leads before (traffic.settle party act) := by
  have step : Step traffic (traffic.carryOut party act (traffic.client.perform act).1) :=
    .carryOut suits (List.Perm.refl _)
  exact leads.trans ((leads_deliverAll rfl).1.head step)

theorem inFlight_settle (traffic : Traffic) (party : Party) (act : Section) :
    (traffic.settle party act).inFlight = traffic.inFlight :=
  (leads_deliverAll rfl).2

theorem idle_ofClient (client : Client) (party : Party) : (ofClient client).Idle party := by
  intro flight member
  cases member

theorem Idle.settle {party : Party} (idle : traffic.Idle party) (other : Party) (act : Section) :
    (traffic.settle other act).Idle party := by
  rw [Idle, inFlight_settle]
  exact idle

theorem Idle.carryOut {party other : Party} (idle : traffic.Idle party) (differs : other ≠ party)
    (act : Section) (batch : List Notification) :
    (traffic.carryOut other act batch).Idle party := by
  intro flight member
  rcases List.mem_append.mp member with new | old
  · obtain ⟨_, _, rfl⟩ := List.mem_map.mp new
    exact differs
  · exact idle flight old

/-- Everything on its way can be told. -/
theorem drains (traffic : Traffic) : ∃ after, Leads traffic after ∧ after.inFlight = [] :=
  ⟨_, leads_deliverAll (List.append_nil _).symm⟩

theorem Step.run (step : Step before after) (run : Run start before.history before.client) :
    Run start after.history after.client := by
  cases step with
  | carryOut _ _ => exact run.step _
  | deliver _ _ => exact run.step _

theorem Leads.run (leads : Leads before after) (run : Run start before.history before.client) :
    Run start after.history after.client := by
  induction leads with
  | refl => exact run
  | tail _ step ih => exact step.run ih

theorem run_of_leads (leads : Leads (ofClient start) traffic) :
    Run start traffic.history traffic.client :=
  Leads.run leads .start

theorem flightsFor_append (registration : Nat) (left right : List Flight) :
    flightsFor registration (left ++ right) =
      flightsFor registration left ++ flightsFor registration right :=
  List.filter_append ..

theorem eventsFor_eq_flightsFor (registration : Nat) (flights : List Flight) :
    eventsFor registration (flights.map Flight.notification) =
      (flightsFor registration flights).map Flight.event := by
  rw [eventsFor, List.filter_map, List.map_map, flightsFor]
  rfl

theorem flightsFor_launch {party : Party} {act : Section} {batch : List Notification}
    (registration : Nat) :
    (flightsFor registration (traffic.launch party act batch)).map Flight.event =
      eventsFor registration batch := by
  rw [← eventsFor_eq_flightsFor, launch, List.map_map]
  simp [Function.comp_def]

theorem awaitedBy_carryOut {party : Party} {act : Section} {batch : List Notification}
    (registration : Nat) :
    (traffic.carryOut party act batch).awaitedBy registration =
      flightsFor registration (traffic.launch party act batch) ++ traffic.awaitedBy registration :=
  flightsFor_append ..

/-- A section that tells a registration nothing puts nothing on its way to it. -/
theorem flightsFor_launch_of_silent {party : Party} {act : Section} {batch : List Notification}
    (order : batch.Perm (traffic.client.perform act).1) {registration : Nat}
    (silent : eventsFor registration (Occurrence.told ⟨traffic.client, act⟩) = []) :
    flightsFor registration (traffic.launch party act batch) = [] := by
  have same : (eventsFor registration batch).Perm
      (eventsFor registration (Occurrence.told ⟨traffic.client, act⟩)) :=
    (order.filter _).map _
  rw [silent] at same
  rw [← List.map_eq_nil_iff, flightsFor_launch, same.eq_nil]

theorem silent_of_suits {party : Party} {act : Section} (suits : act.Suits traffic party)
    (written : Note) (same : act = .note written) (event : Event) :
    written.observation ≠ .event event := by
  subst same
  exact suits event

/-- A registration takes note of what it is told. -/
theorem heard_of_leads (fresh : start.Fresh) (leads : Leads (ofClient start) traffic)
    (registration : Nat) :
    heard traffic.client registration = (traffic.toldTo registration).map Flight.event := by
  induction leads with
  | refl =>
    rw [ofClient, fresh.eq]
    rfl
  | @tail middle _ leads step ih =>
    cases step with
    | carryOut suits _ =>
      have indexed := (run_of_leads leads).indexed fresh
      rw [carryOut, Client.heard_perform indexed (silent_of_suits suits)]
      exact ih
    | @deliver _ _ flight _ _ =>
      have noted : heard (middle.client.perform (.note flight.notification.toNote)).2
          registration = heard middle.client registration ++
            eventsFor registration [flight.notification] :=
        middle.client.heard_told flight.notification registration
      have told := eventsFor_eq_flightsFor registration [flight]
      rw [List.map_singleton] at told
      rw [deliver, noted, ih, toldTo, toldTo, flightsFor_append, List.map_append, told]

/-- What a section settles is due before all that was due already. -/
theorem notifications_carryOut (traffic : Traffic) (party : Party) (act : Section)
    (batch : List Notification) :
    (traffic.carryOut party act batch).inFlight.map Flight.notification =
      batch ++ traffic.inFlight.map Flight.notification := by
  rw [carryOut, launch, List.map_append, List.map_map]
  simp [Function.comp_def]

/-- A play is traffic of one party. -/
theorem of_play {client : Client} {history : List Occurrence} {agenda : List Notification}
    (play : Play start history client agenda) :
    ∃ traffic, Leads (ofClient start) traffic ∧ traffic.history = history ∧
      traffic.client = client ∧ traffic.inFlight.map Flight.notification = agenda := by
  refine (@Play.induct start client history agenda (fun history client agenda =>
    ∃ traffic, Leads (ofClient start) traffic ∧ traffic.history = history ∧
      traffic.client = client ∧ traffic.inFlight.map Flight.notification = agenda)
    ?_ ?_ ?_ play).2
  · exact ⟨ofClient start, .refl, rfl, rfl, rfl⟩
  · intro history client notification agenda _ held
    obtain ⟨traffic, leads, rfl, rfl, waiting⟩ := held
    obtain ⟨flight, rest, inFlight, rfl, rfl⟩ := List.map_eq_cons_iff.mp waiting
    exact ⟨_, leads.tail (.first inFlight), rfl, rfl, rfl⟩
  · intro history client agenda act _ fits held
    obtain ⟨traffic, leads, rfl, rfl, waiting⟩ := held
    have idle (none : agenda = []) (party : Party) : traffic.Idle party := by
      rw [none, List.map_eq_nil_iff] at waiting
      rw [Idle, waiting]
      intro _ member
      cases member
    have suits : act.Suits traffic .worker := by
      cases act with
      | reply | failStream => exact ⟨rfl, idle fits .worker⟩
      | finishClose => exact ⟨idle fits .worker, idle fits .worker⟩
      | note => exact fits
      | _ => trivial
    refine ⟨_, leads.tail (.carryOut suits (List.Perm.refl _)), rfl, rfl, ?_⟩
    rw [notifications_carryOut, waiting]

end Traffic

end ConfigWatch

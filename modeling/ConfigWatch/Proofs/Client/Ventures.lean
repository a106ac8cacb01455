import ConfigWatch.Proofs.Client.Endings
import ConfigWatch.Proofs.Client.Traffic

/-!
# Ventures

A watcher that is told may panic. The party that told it breaks off then, and what it had still to
tell is lost; when that party is the worker of the watch stream, its task has failed. A venture is
traffic in which this may happen at any time, together with the call that closes the client: it
asks both workers to stop, waits for the one and then for the other, gives up when it finds that
one of them failed, and otherwise starts the cache afresh and tells everybody.

A call that finds the client closed already returns at once and does nothing; it is no step here.
-/

set_option autoImplicit false

namespace ConfigWatch

/-- How far the call is that closes the client, and which caller it came from. A watcher cannot
wait, so it is never the stream worker that closes. -/
inductive Closing where
  | unasked
  /-- The workers were asked to stop. -/
  | waiting (caller : Nat)
  /-- The cache started afresh, and everybody is told. -/
  | telling (caller : Nat)
  | returned (outcome : Except Error Unit)
  /-- The caller broke off. -/
  | broken

def Closing.caller? : Closing → Option Nat
  | .waiting caller | .telling caller => some caller
  | _ => none

/-- The cache started afresh for a close. -/
def Closing.Afresh : Closing → Prop
  | .telling _ | .returned (.ok _) => True
  | _ => False

/-- Traffic in which parties may break off, and a call that closes the client. -/
structure Venture where
  traffic : Traffic
  /-- What those who broke off had still to tell. -/
  lost : List Flight := []
  /-- The task of the stream worker failed. -/
  crashed : Bool := false
  closing : Closing := .unasked

/-- Whether a section is the own work of the stream worker. -/
def Section.isStreaming : Section → Bool
  | .reply _ | .requestStream | .openStream | .cancelStream | .failStream => true
  | _ => false

/-- Whether a flight tells a registration its end. -/
def Flight.ends (registration : Nat) (flight : Flight) : Bool :=
  decide (flight.registration = registration) && (flight.event.status == .removed)

namespace Venture

def client (venture : Venture) : Client := venture.traffic.client

def history (venture : Venture) : List Occurrence := venture.traffic.history

/-- The stream worker is at work: it neither stopped nor failed. -/
def StreamWorks (venture : Venture) : Prop :=
  venture.crashed = false ∧ venture.client.streamWorker ≠ .stopped

/-- The task of a worker failed. -/
def WorkerFailed (venture : Venture) : Prop :=
  venture.crashed = true ∨ venture.client.sweepWorker = .failed

def carryOut (venture : Venture) (party : Party) (act : Section) (batch : List Notification) :
    Venture :=
  { venture with traffic := venture.traffic.carryOut party act batch }

def deliver (venture : Venture) (flight : Flight) (rest : List Flight) : Venture :=
  { venture with traffic := venture.traffic.deliver flight rest }

/-- A watcher panics while a party tells it, or the party fails in some other way. -/
def breakOff (venture : Venture) (party : Party) : Venture where
  traffic := { venture.traffic with
    inFlight := venture.traffic.inFlight.filter (fun flight => !decide (flight.party = party)) }
  lost := venture.lost ++
    venture.traffic.inFlight.filter (fun flight => decide (flight.party = party))
  crashed := venture.crashed || decide (party = .worker)
  closing :=
    if venture.closing.caller?.map Party.caller = some party then .broken else venture.closing

/-- Carries out a section and tells everybody at once. -/
def settle (venture : Venture) (party : Party) (act : Section) : Venture :=
  { venture with traffic := venture.traffic.settle party act }

/-- A close is called. -/
def call (venture : Venture) (caller : Nat) : Venture :=
  { venture.carryOut (.caller caller) .beginClose [] with closing := .waiting caller }

/-- A client that nothing was done with. -/
def ofClient (client : Client) : Venture := { traffic := .ofClient client }

end Venture

/-- Whether a party can carry out a section that is no part of a close. -/
structure Section.Comes (venture : Venture) (party : Party) (act : Section) : Prop where
  unclosing : act.isClosing = false
  suits : act.Suits venture.traffic party
  works : party = .worker → venture.StreamWorks
  own : act.isStreaming = true → party = .worker

namespace Venture

/-- A section, a notification that is told, a party that breaks off, or a move of the close. The
call waits for the stream worker first, so it learns of a sweep worker that failed only when the
stream worker stopped. -/
inductive Step : Venture → Venture → Prop where
  | carryOut {venture : Venture} {party : Party} {act : Section} {batch : List Notification} :
      act.Comes venture party → batch.Perm (venture.client.perform act).1 →
      Step venture (venture.carryOut party act batch)
  | deliver {venture : Venture} {ahead behind : List Flight} {flight : Flight} :
      venture.traffic.inFlight = ahead ++ flight :: behind →
      (∀ other ∈ ahead, other.party ≠ flight.party) →
      Step venture (venture.deliver flight (ahead ++ behind))
  | breakOff {venture : Venture} {party : Party} :
      (party = .worker → venture.StreamWorks) → Step venture (venture.breakOff party)
  | call {venture : Venture} {caller : Nat} : venture.client.closed = false →
      Step venture (venture.call caller)
  | stopStream {venture : Venture} : venture.client.closed = true → venture.StreamWorks →
      venture.traffic.Idle .worker →
      Step venture (venture.carryOut .worker .stopStreamWorker [])
  | stopSweeps {venture : Venture} {party : Party} : venture.client.closed = true →
      Step venture (venture.carryOut party .stopSweepWorker [])
  | finish {venture : Venture} {caller : Nat} {batch : List Notification} :
      venture.closing = .waiting caller → venture.crashed = false →
      venture.client.streamWorker = .stopped → venture.client.sweepWorker = .stopped →
      batch.Perm (venture.client.perform .finishClose).1 →
      Step venture
        { venture.carryOut (.caller caller) .finishClose batch with closing := .telling caller }
  | giveUp {venture : Venture} {caller : Nat} : venture.closing = .waiting caller →
      (venture.crashed = true ∨
        venture.client.streamWorker = .stopped ∧ venture.client.sweepWorker = .failed) →
      Step venture { venture with closing := .returned (.error .workerFailed) }
  | succeed {venture : Venture} {caller : Nat} : venture.closing = .telling caller →
      venture.traffic.Idle (.caller caller) →
      Step venture { venture with closing := .returned (.ok ()) }

def Leads : Venture → Venture → Prop := Relation.ReflTransGen Step

theorem Step.first {venture : Venture} {flight : Flight} {rest : List Flight}
    (inFlight : venture.traffic.inFlight = flight :: rest) :
    Step venture (venture.deliver flight rest) := by
  have split : venture.traffic.inFlight = [] ++ flight :: rest := inFlight
  exact .deliver split (fun _ member => by cases member)

theorem leads_deliverAll {flights rest : List Flight} {venture : Venture}
    (inFlight : venture.traffic.inFlight = flights ++ rest) :
    Leads venture { venture with traffic := venture.traffic.deliverAll flights rest } := by
  induction flights generalizing venture with
  | nil => exact .refl
  | cons flight more ih =>
    have next : (venture.deliver flight (more ++ rest)).traffic.inFlight = more ++ rest := rfl
    exact .head (.first inFlight) (ih next)

theorem Leads.settle {before venture : Venture} {party : Party} {act : Section}
    (leads : Leads before venture) (comes : act.Comes venture party) :
    Leads before (venture.settle party act) := by
  have step : Step venture (venture.carryOut party act (venture.client.perform act).1) :=
    .carryOut comes (List.Perm.refl _)
  have told : Leads (venture.carryOut party act (venture.client.perform act).1)
      (venture.settle party act) := leads_deliverAll rfl
  exact (leads.tail step).trans told

/-! ## What a step does to the traffic -/

/-- What a step does to the traffic and to what is lost: a section is carried out, somebody is
told, or some of what is on its way is lost. -/
inductive Moves (before after : Venture) : Prop where
  | carries {party : Party} {act : Section} {batch : List Notification} :
      (∀ written, act = .note written → ∀ event, written.observation ≠ .event event) →
      batch.Perm (before.client.perform act).1 →
      after.traffic = before.traffic.carryOut party act batch → after.lost = before.lost →
      Moves before after
  | delivers {ahead behind : List Flight} {flight : Flight} :
      before.traffic.inFlight = ahead ++ flight :: behind →
      after.traffic = before.traffic.deliver flight (ahead ++ behind) →
      after.lost = before.lost → Moves before after
  | loses {kept dropped : List Flight} :
      before.traffic.inFlight.Perm (kept ++ dropped) →
      after.traffic = { before.traffic with inFlight := kept } →
      after.lost = before.lost ++ dropped → Moves before after

variable {start : Client} {before after venture : Venture}

theorem Step.moves (step : Step before after) : Moves before after := by
  have unnoted {act : Section} (other : ∀ written, act ≠ .note written) (written : Note)
      (same : act = .note written) (event : Event) : written.observation ≠ .event event :=
    absurd same (other written)
  cases step with
  | carryOut comes order =>
    exact .carries (Traffic.silent_of_suits comes.suits) order rfl rfl
  | deliver split _ => exact .delivers split rfl rfl
  | @breakOff party _ =>
    have parts := List.filter_append_perm
      (fun flight : Flight => !decide (flight.party = party)) before.traffic.inFlight
    simp only [Bool.not_not] at parts
    exact .loses parts.symm rfl rfl
  | call _ => exact .carries (unnoted (fun _ same => by cases same)) (.refl _) rfl rfl
  | stopStream _ _ _ => exact .carries (unnoted (fun _ same => by cases same)) (.refl _) rfl rfl
  | stopSweeps _ => exact .carries (unnoted (fun _ same => by cases same)) (.refl _) rfl rfl
  | finish _ _ _ _ order =>
    exact .carries (unnoted (fun _ same => by cases same)) order rfl rfl
  | giveUp _ _ | succeed _ _ =>
    exact .loses (.of_eq (List.append_nil _).symm) rfl (List.append_nil _).symm

/-- A step carries out one section, or leaves the client alone. -/
theorem Moves.performs (moves : Moves before after) :
    (∃ act, after.history = before.history ++ [⟨before.client, act⟩] ∧
        after.client = (before.client.perform act).2) ∨
      after.history = before.history ∧ after.client = before.client := by
  simp only [history, client]
  cases moves with
  | carries _ _ same _ =>
    rw [same]
    exact .inl ⟨_, rfl, rfl⟩
  | delivers _ same _ =>
    rw [same]
    exact .inl ⟨_, rfl, rfl⟩
  | loses _ same _ =>
    rw [same]
    exact .inr ⟨rfl, rfl⟩

theorem Moves.run (moves : Moves before after) (run : Run start before.history before.client) :
    Run start after.history after.client := by
  rcases moves.performs with ⟨act, history, client⟩ | ⟨history, client⟩
  · rw [history, client]
    exact run.step act
  · rw [history, client]
    exact run

theorem Leads.run (leads : Leads before after) (run : Run start before.history before.client) :
    Run start after.history after.client := by
  induction leads with
  | refl => exact run
  | tail _ step ih => exact step.moves.run ih

/-! ## Ends that are told, on their way and lost -/

private theorem countP_ends_launch {traffic : Traffic} (indexed : traffic.client.cache.Indexed)
    (seated : traffic.client.cache.Seated traffic.client.registrations) (party : Party)
    {act : Section} {batch : List Notification}
    (order : batch.Perm (traffic.client.perform act).1) (registration : Nat) :
    (traffic.launch party act batch).countP (Flight.ends registration) =
      (Occurrence.ending ⟨traffic.client, act⟩ registration).length := by
  have events (notifications : List Notification) :
      (traffic.launch party act notifications).countP (Flight.ends registration) =
        (eventsFor registration notifications).countP (fun event => event.status == .removed) := by
    rw [Traffic.launch, List.countP_map, eventsFor, List.countP_map, List.countP_filter]
    refine List.countP_congr (fun notification _ => ?_)
    simp only [Function.comp, Flight.ends, Bool.and_eq_true]
    exact and_comm
  have same : (traffic.launch party act batch).countP (Flight.ends registration) =
      (traffic.launch party act (traffic.client.perform act).1).countP
        (Flight.ends registration) := (order.map _).countP_eq _
  have told := Occurrence.eventsFor_told ⟨traffic.client, act⟩ indexed seated registration
  have news : (Occurrence.due ⟨traffic.client, act⟩ registration).countP
      (fun event => event.status == .removed) = 0 :=
    List.countP_eq_zero.mpr (fun event member => by
      simpa using Occurrence.due_status indexed seated member)
  have ends : (Occurrence.ending ⟨traffic.client, act⟩ registration).countP
      (fun event => event.status == .removed) =
        (Occurrence.ending ⟨traffic.client, act⟩ registration).length :=
    List.countP_eq_length.mpr (fun event member => by
      simpa using Occurrence.ending_status member)
  calc (traffic.launch party act batch).countP (Flight.ends registration)
      = (eventsFor registration (Occurrence.told ⟨traffic.client, act⟩)).countP
          (fun event => event.status == .removed) := same.trans (events _)
    _ = (Occurrence.ending ⟨traffic.client, act⟩ registration).length := by
      rw [told, List.countP_append, news, ends, Nat.zero_add]

/-- Every end that was due is heard, on its way, or lost. -/
def Counted (venture : Venture) : Prop :=
  ∀ registration, removals venture.client registration +
      venture.traffic.inFlight.countP (Flight.ends registration) +
      venture.lost.countP (Flight.ends registration) =
    (endings venture.history registration).length

private theorem removals_deliver (client : Client) (flight : Flight) (registration : Nat) :
    removals (client.perform (.note flight.notification.toNote)).2 registration =
      removals client registration + if flight.ends registration then 1 else 0 := by
  have noted : heard (client.perform (.note flight.notification.toNote)).2 registration =
      heard client registration ++ eventsFor registration [flight.notification] :=
    client.heard_told flight.notification registration
  rw [removals, noted, List.countP_append, removals]
  congr 1
  by_cases here : flight.notification.watcher.registration = registration <;>
    simp [eventsFor, Flight.ends, Flight.registration, Flight.event, here]

theorem Moves.counted (moves : Moves before after)
    (indexed : before.client.cache.Indexed)
    (seated : before.client.cache.Seated before.client.registrations)
    (counted : before.Counted) : after.Counted := by
  intro registration
  have sum := counted registration
  simp only [history, client] at sum indexed seated ⊢
  cases moves with
  | @carries party act batch silent order same lost =>
    have ends := countP_ends_launch indexed seated party order registration
    have heard : removals (before.traffic.client.perform act).2 registration =
        removals before.traffic.client registration := by
      rw [removals, Client.heard_perform indexed silent, removals]
    rw [same, lost]
    simp only [Traffic.carryOut, List.countP_append, endings_snoc, List.length_append, ends, heard]
    omega
  | @delivers ahead behind flight split same lost =>
    have told := removals_deliver before.traffic.client flight registration
    have due : Occurrence.ending ⟨before.traffic.client, .note flight.notification.toNote⟩
        registration = [] := rfl
    rw [split, List.countP_append, List.countP_cons] at sum
    rw [same, lost]
    simp only [Traffic.deliver, List.countP_append, endings_snoc, due, List.append_nil, told]
    omega
  | loses parts same lost =>
    have both := parts.countP_eq (Flight.ends registration)
    rw [List.countP_append] at both
    rw [same, lost]
    simp only [List.countP_append]
    omega

end Venture

/-! ## The workers and the close -/

namespace Client

/-- The stream worker stops when it is asked to, and not before. -/
theorem stopped_of_perform {client : Client} (indexed : client.cache.Indexed) {act : Section}
    (other : act ≠ .stopStreamWorker) (stopped : (client.perform act).2.streamWorker = .stopped) :
    client.streamWorker = .stopped := by
  cases act with
  | watch | unwatch | beginRead | finishRead | reply | sweep | poll | dropStream | cancelStream
      | setClock => exact (perform_inside indexed rfl).streamWorker.symm.trans stopped
  | requestStream =>
    simp only [perform] at stopped
    split at stopped
    · cases stopped
    · exact stopped
  | openStream | failStream =>
    cases serving : client.streamWorker with
    | stopped => rfl
    | _ =>
      simp only [perform, cancelOutbound, resetCache, serving, streamOpened] at stopped
      cases stopped
  | startSweeps | scheduleSweep =>
    simp only [perform] at stopped
    split at stopped <;> exact stopped
  | stopSweepWorker =>
    simp only [perform, stopSweepWorker] at stopped
    split at stopped
    · split at stopped <;> exact stopped
    · exact stopped
  | finishClose =>
    simp only [perform, resetCache] at stopped
    split at stopped <;> exact stopped
  | beginClose | note => exact stopped
  | stopStreamWorker => exact absurd rfl other

end Client

namespace Venture

variable {start : Client} {before after venture : Venture}

theorem Moves.lasts (moves : Moves before after) (indexed : before.client.cache.Indexed) :
    Client.Lasts before.client after.client := by
  rcases moves.performs with ⟨act, _, client⟩ | ⟨_, client⟩
  · rw [client]
    exact Client.perform_lasts indexed act
  · rw [client]
    exact ⟨id, id, id, id⟩

theorem Step.crashed (step : Step before after) (crashed : before.crashed = true) :
    after.crashed = true := by
  cases step with
  | breakOff _ => exact Bool.or_eq_true_iff.mpr (.inl crashed)
  | _ => exact crashed

theorem Step.workerFailed (step : Step before after) (indexed : before.client.cache.Indexed)
    (failed : before.WorkerFailed) : after.WorkerFailed := by
  rcases failed with crashed | failed
  · exact .inl (step.crashed crashed)
  · exact .inr ((step.moves.lasts indexed).sweepFailed failed)

theorem Step.rests (step : Step before after) (indexed : before.client.cache.Indexed)
    (rests : ¬ before.StreamWorks) : ¬ after.StreamWorks := by
  rintro ⟨alive, works⟩
  refine rests ⟨?_, fun stopped => works ((step.moves.lasts indexed).streamStopped stopped)⟩
  rw [← Bool.not_eq_true]
  intro crashed
  rw [step.crashed crashed] at alive
  cases alive

/-- Ends are told when a stream failed and when a close ends. -/
theorem act_of_launched_end {traffic : Traffic} (indexed : traffic.client.cache.Indexed)
    (seated : traffic.client.cache.Seated traffic.client.registrations) {party : Party}
    {act : Section} {batch : List Notification}
    (order : batch.Perm (traffic.client.perform act).1) {flight : Flight}
    (launched : flight ∈ traffic.launch party act batch)
    (removed : flight.event.status = .removed) : act = .failStream ∨ act = .finishClose := by
  have ends := countP_ends_launch indexed seated party order flight.registration
  have some : 0 < (traffic.launch party act batch).countP (Flight.ends flight.registration) :=
    List.countP_pos_iff.mpr ⟨flight, launched, by simp [Flight.ends, removed]⟩
  cases act with
  | failStream => exact .inl rfl
  | finishClose => exact .inr rfl
  | _ => exact absurd ends some.ne'

/-- What holds of the workers and of the close at all times. -/
structure Sound (venture : Venture) : Prop where
  unasked : venture.client.closed = false → venture.closing = .unasked
  stopped : venture.client.streamWorker = .stopped → venture.crashed = false
  idle : ¬ venture.StreamWorks → venture.traffic.Idle .worker
  afresh : venture.closing.Afresh →
    venture.client.streamWorker = .stopped ∧ venture.client.sweepWorker = .stopped
  gaveUp : ∀ cause, venture.closing = .returned (.error cause) →
    cause = .workerFailed ∧ venture.WorkerFailed ∧ ¬ venture.StreamWorks
  /-- Ends on their way are told by the stream worker or by the caller of the close. -/
  tellers : ∀ flight ∈ venture.traffic.inFlight, flight.event.status = .removed →
    flight.party = .worker ∨
      ∃ caller, venture.closing = .telling caller ∧ flight.party = .caller caller
  lost : ∀ flight ∈ venture.lost, flight.event.status = .removed →
    venture.crashed = true ∨ venture.closing = .broken

private theorem unasked_step (sound : before.Sound) (indexed : before.client.cache.Indexed)
    (step : Step before after) (opened : after.client.closed = false) :
    after.closing = .unasked := by
  have still : before.client.closed = false := by
    rw [← Bool.not_eq_true]
    intro closed
    rw [(step.moves.lasts indexed).closed closed] at opened
    cases opened
  have unasked := sound.unasked still
  cases step with
  | carryOut | deliver | stopStream | stopSweeps => exact unasked
  | breakOff =>
    simp only [breakOff, unasked]
    rfl
  | call => cases opened
  | finish waiting =>
    rw [unasked] at waiting
    cases waiting
  | giveUp waiting =>
    rw [unasked] at waiting
    cases waiting
  | succeed telling =>
    rw [unasked] at telling
    cases telling

private theorem stopped_step (sound : before.Sound) (indexed : before.client.cache.Indexed)
    (step : Step before after) (stopped : after.client.streamWorker = .stopped) :
    after.crashed = false := by
  cases step with
  | carryOut comes _ =>
    refine sound.stopped (Client.stopped_of_perform indexed ?_ stopped)
    rintro rfl
    cases comes.unclosing
  | breakOff works =>
    have alive := sound.stopped stopped
    have other : _ ≠ Party.worker := fun worker => (works worker).2 stopped
    simp [breakOff, alive, other]
  | stopStream _ works _ => exact works.1
  | stopSweeps _ => exact sound.stopped (Client.stopped_of_perform indexed (by simp) stopped)
  | deliver | call | giveUp | succeed => exact sound.stopped stopped
  | finish _ alive => exact alive

private theorem idle_step (sound : before.Sound) (indexed : before.client.cache.Indexed)
    (step : Step before after) (rests : ¬ after.StreamWorks) : after.traffic.Idle .worker := by
  -- Unless the step is the one by which the worker came to rest, it was at rest before.
  have earlier (crashed : after.crashed = before.crashed)
      (stopped : after.client.streamWorker = .stopped → before.client.streamWorker = .stopped) :
      ¬ before.StreamWorks :=
    fun works => rests ⟨crashed.trans works.1, fun now => works.2 (stopped now)⟩
  cases step with
  | @carryOut party act _ comes _ =>
    have resting := earlier rfl (fun stopped => by
      refine Client.stopped_of_perform indexed ?_ stopped
      rintro rfl
      cases comes.unclosing)
    have other : party ≠ .worker := fun worker => resting (comes.works worker)
    exact (sound.idle resting).carryOut other _ _
  | deliver split _ =>
    have idle := sound.idle (earlier rfl id)
    intro other member
    refine idle other ?_
    rw [split]
    exact List.mem_append.mpr
      ((List.mem_append.mp member).imp_right (List.mem_cons_of_mem _))
  | @breakOff party _ =>
    intro flight member
    obtain ⟨there, differs⟩ := List.mem_filter.mp member
    by_cases worker : party = .worker
    · rw [worker] at differs
      simpa using differs
    · exact sound.idle (earlier (by simp [breakOff, worker]) id) flight there
  | call _ => exact sound.idle (earlier rfl id)
  | stopStream _ _ idle => exact idle
  | stopSweeps _ =>
    exact sound.idle (earlier rfl (Client.stopped_of_perform indexed (by simp)))
  | finish _ _ stopped _ _ =>
    have idle := sound.idle (fun works => works.2 stopped)
    exact idle.carryOut (by simp) _ _
  | giveUp _ _ | succeed _ _ => exact sound.idle (earlier rfl id)

/-- Only the end of a close starts the cache afresh for it. -/
theorem Step.afresh (step : Step before after) (afresh : after.closing.Afresh) :
    before.closing.Afresh ∨ ∃ caller batch, before.closing = .waiting caller ∧
      before.client.streamWorker = .stopped ∧ before.client.sweepWorker = .stopped ∧
        after.traffic = before.traffic.carryOut (.caller caller) .finishClose batch := by
  cases step with
  | carryOut | deliver | stopStream | stopSweeps => exact .inl afresh
  | breakOff =>
    simp only [Venture.breakOff] at afresh
    split at afresh
    · exact afresh.elim
    · exact .inl afresh
  | call | giveUp => exact afresh.elim
  | finish waiting _ streamStopped sweepStopped _ =>
    exact .inr ⟨_, _, waiting, streamStopped, sweepStopped, rfl⟩
  | succeed telling _ =>
    rw [telling]
    exact .inl trivial

private theorem afresh_step (sound : before.Sound) (indexed : before.client.cache.Indexed)
    (step : Step before after) (afresh : after.closing.Afresh) :
    after.client.streamWorker = .stopped ∧ after.client.sweepWorker = .stopped := by
  have lasts := step.moves.lasts indexed
  rcases step.afresh afresh with earlier | ⟨_, _, _, streamStopped, sweepStopped, _⟩
  · exact (sound.afresh earlier).imp lasts.streamStopped lasts.sweepStopped
  · exact ⟨lasts.streamStopped streamStopped, lasts.sweepStopped sweepStopped⟩

private theorem gaveUp_step (sound : before.Sound) (indexed : before.client.cache.Indexed)
    (step : Step before after) {cause : Error}
    (returned : after.closing = .returned (.error cause)) :
    cause = .workerFailed ∧ after.WorkerFailed ∧ ¬ after.StreamWorks := by
  have still (returned : before.closing = .returned (.error cause)) :
      cause = .workerFailed ∧ after.WorkerFailed ∧ ¬ after.StreamWorks := by
    obtain ⟨same, failed, rests⟩ := sound.gaveUp cause returned
    exact ⟨same, step.workerFailed indexed failed, step.rests indexed rests⟩
  cases step with
  | carryOut | deliver | stopStream | stopSweeps => exact still returned
  | breakOff =>
    simp only [breakOff] at returned
    split at returned
    · cases returned
    · exact still returned
  | giveUp _ reason =>
    cases returned
    rcases reason with crashed | ⟨stopped, failed⟩
    · refine ⟨rfl, .inl crashed, fun works => ?_⟩
      cases crashed.symm.trans works.1
    · exact ⟨rfl, .inr failed, fun works => works.2 stopped⟩
  | call | finish | succeed => cases returned

private theorem tellers_step (sound : before.Sound) (indexed : before.client.cache.Indexed)
    (seated : before.client.cache.Seated before.client.registrations)
    (step : Step before after) {flight : Flight} (member : flight ∈ after.traffic.inFlight)
    (removed : flight.event.status = .removed) :
    flight.party = .worker ∨
      ∃ caller, after.closing = .telling caller ∧ flight.party = .caller caller := by
  have earlier := fun member => sound.tellers flight member removed
  have untold (other : ∀ caller, before.closing ≠ .telling caller)
      (member : flight ∈ before.traffic.inFlight) : flight.party = .worker :=
    (earlier member).resolve_right (fun ⟨caller, telling, _⟩ => other caller telling)
  cases step with
  | carryOut comes order =>
    rcases List.mem_append.mp member with launched | waits
    · rcases act_of_launched_end indexed seated order launched removed with rfl | rfl
      · obtain ⟨_, _, rfl⟩ := List.mem_map.mp launched
        exact .inl (comes.own rfl)
      · cases comes.unclosing
    · exact earlier waits
  | deliver split _ =>
    refine earlier ?_
    rw [split]
    exact List.mem_append.mpr
      ((List.mem_append.mp member).imp_right (List.mem_cons_of_mem _))
  | @breakOff party _ =>
    obtain ⟨there, differs⟩ := List.mem_filter.mp member
    rcases earlier there with worker | ⟨caller, telling, same⟩
    · exact .inl worker
    · refine .inr ⟨caller, ?_, same⟩
      have other : ¬ Party.caller caller = party := by
        rintro rfl
        simp [same] at differs
      simp [breakOff, telling, Closing.caller?, other]
  | call opened => exact .inl (untold (by simp [sound.unasked opened]) member)
  | stopStream | stopSweeps => exact earlier member
  | @finish caller batch waiting =>
    rcases List.mem_append.mp member with launched | waits
    · obtain ⟨_, _, rfl⟩ := List.mem_map.mp launched
      exact .inr ⟨caller, rfl, rfl⟩
    · exact .inl (untold (by simp [waiting]) waits)
  | giveUp waiting => exact .inl (untold (by simp [waiting]) member)
  | succeed telling idle =>
    rcases earlier member with worker | ⟨other, tells, same⟩
    · exact .inl worker
    · cases telling.symm.trans tells
      exact absurd same (idle flight member)

private theorem lost_step (sound : before.Sound) (step : Step before after) {flight : Flight}
    (member : flight ∈ after.lost) (removed : flight.event.status = .removed) :
    after.crashed = true ∨ after.closing = .broken := by
  have earlier := fun member => sound.lost flight member removed
  have unbroken (other : before.closing ≠ .broken) (member : flight ∈ before.lost) :
      before.crashed = true := (earlier member).resolve_right other
  cases step with
  | carryOut | deliver | stopStream | stopSweeps => exact earlier member
  | @breakOff party _ =>
    rcases List.mem_append.mp member with old | new
    · rcases earlier old with crashed | broken
      · exact .inl (Bool.or_eq_true_iff.mpr (.inl crashed))
      · exact .inr (by simp [breakOff, broken, Closing.caller?])
    · obtain ⟨there, same⟩ := List.mem_filter.mp new
      obtain rfl := of_decide_eq_true same
      rcases sound.tellers flight there removed with worker | ⟨caller, telling, tells⟩
      · exact .inl (by simp [breakOff, worker])
      · exact .inr (by simp [breakOff, telling, Closing.caller?, tells])
  | call opened => exact .inl (unbroken (by simp [sound.unasked opened]) member)
  | finish waiting => exact .inl (unbroken (by simp [waiting]) member)
  | giveUp waiting => exact .inl (unbroken (by simp [waiting]) member)
  | succeed telling => exact .inl (unbroken (by simp [telling]) member)

theorem Sound.step (sound : before.Sound) (indexed : before.client.cache.Indexed)
    (seated : before.client.cache.Seated before.client.registrations)
    (step : Step before after) : after.Sound := by
  constructor
  case unasked => exact unasked_step sound indexed step
  case stopped => exact stopped_step sound indexed step
  case idle => exact idle_step sound indexed step
  case afresh => exact afresh_step sound indexed step
  case gaveUp => exact fun _ => gaveUp_step sound indexed step
  case tellers => exact fun _ => tellers_step sound indexed seated step
  case lost => exact fun _ => lost_step sound step

private theorem sound_ofClient (fresh : start.Fresh) : (ofClient start).Sound := by
  have worker : start.streamWorker ≠ .stopped := by
    rw [fresh.eq]
    intro stopped
    cases stopped
  constructor
  case unasked => exact fun _ => rfl
  case stopped => exact fun stopped => absurd stopped worker
  case idle => exact fun _ => Traffic.idle_ofClient start .worker
  case afresh => exact fun afresh => afresh.elim
  case gaveUp =>
    intro _ returned
    cases returned
  case tellers =>
    intro _ member
    cases member
  case lost =>
    intro _ member
    cases member

theorem run_of_leads (leads : Leads (ofClient start) venture) :
    Run start venture.history venture.client :=
  Leads.run leads .start

theorem sound_of_leads (fresh : start.Fresh) (leads : Leads (ofClient start) venture) :
    venture.Sound := by
  induction leads with
  | refl => exact sound_ofClient fresh
  | tail leads step ih =>
    have run := run_of_leads leads
    exact ih.step (run.indexed fresh) (run.seated fresh) step

theorem counted_of_leads (fresh : start.Fresh) (leads : Leads (ofClient start) venture) :
    venture.Counted := by
  induction leads with
  | refl =>
    intro registration
    have silent : heard start registration = [] := by
      rw [fresh.eq]
      rfl
    simp [ofClient, client, history, Traffic.ofClient, removals, silent, endings]
  | tail leads step ih =>
    have run := run_of_leads leads
    exact step.moves.counted (run.indexed fresh) (run.seated fresh) ih

/-- A play that leaves the client open is a venture in which nobody breaks off. -/
theorem leads_of_play (fresh : start.Fresh) {client : Client} {history : List Occurrence}
    {agenda : List Notification} (play : Play start history client agenda)
    (opened : client.closed = false) :
    ∃ venture, Leads (ofClient start) venture ∧ venture.history = history ∧
      venture.client = client ∧ venture.traffic.inFlight.map Flight.notification = agenda ∧
        venture.StreamWorks := by
  induction play with
  | start =>
    have works : start.streamWorker ≠ .stopped := by
      rw [fresh.eq]
      intro stopped
      cases stopped
    exact ⟨ofClient start, .refl, rfl, rfl, rfl, rfl, works⟩
  | tell _ ih =>
    obtain ⟨venture, leads, rfl, rfl, waiting, works⟩ := ih opened
    obtain ⟨flight, rest, inFlight, rfl, rfl⟩ := List.map_eq_cons_iff.mp waiting
    exact ⟨_, leads.tail (.first inFlight), rfl, rfl, rfl, works⟩
  | @act _ _ _ act fits unclosing play ih =>
    have indexed := play.run.indexed fresh
    rw [Client.closed_of_unclosing indexed unclosing] at opened
    obtain ⟨venture, leads, rfl, rfl, waiting, works⟩ := ih opened
    have suits : act.Suits venture.traffic .worker := by
      cases act with
      | reply | failStream =>
        refine ⟨rfl, ?_⟩
        rw [Traffic.Idle, List.map_eq_nil_iff.mp (waiting.trans fits)]
        intro _ member
        cases member
      | finishClose => cases unclosing
      | note => exact fits
      | _ => trivial
    have comes : act.Comes venture .worker := ⟨unclosing, suits, fun _ => works, fun _ => rfl⟩
    refine ⟨_, leads.tail (.carryOut comes (List.Perm.refl _)), rfl, rfl, ?_, works.1, ?_⟩
    · rw [← waiting]
      exact Traffic.notifications_carryOut ..
    · intro stopped
      refine works.2 (Client.stopped_of_perform indexed ?_ stopped)
      rintro rfl
      cases unclosing
  | @close _ client =>
    have closed := client.closing_stopped.1
    rw [Client.perform_finishClose] at opened
    split at opened <;> cases closed.symm.trans opened

end Venture

end ConfigWatch

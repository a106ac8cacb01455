import ConfigWatch.Client.Workers
import ConfigWatch.Proofs.Cache.Observation
import ConfigWatch.Proofs.Client.Stages
import ConfigWatch.Proofs.Queue.Polling

/-!
# Sections and runs

A call or a worker does its work in sections: what it does under the lock of the cache, or one
poll, or one move of a worker. Between two sections of one party any sections of other parties may
come, so a run of a client is any sequence of sections whatever. Telling a watcher is a note in the
journal here; which notes are due is the subject of plays.

Nothing comes between the parts of one section. Under the lock of the cache the lock sees to that,
and a move of a worker concerns the worker and its own stream alone. Of a poll it is an assumption:
a poll looks whether its stream was cancelled, receives a command and reads the present generation,
and no lock is held across the three.
-/

set_option autoImplicit false

namespace ConfigWatch

namespace StreamWorker

/-- The stream that the worker asked for or reads. -/
def stream? : StreamWorker → Option Nat
  | .opening stream | .reading stream => some stream
  | _ => none

/-- Whether the worker will ask for a stream in time. -/
def waits : StreamWorker → Bool
  | .starting | .resting _ => true
  | _ => false

end StreamWorker

/-- One piece of work on a client, taken as one step. -/
inductive Section where
  /-- A watch that was accepted, maybe before the client was closed. -/
  | watch (space : NamespaceKey) (key : DocumentKey) (watcher : Option (String × Reaction))
  | unwatch (subscription watcher : UInt32)
  /-- A read that was accepted, maybe before the client was closed. -/
  | beginRead (space : NamespaceKey) (key : DocumentKey) (pinned : Option Version)
  | finishRead (pending : PendingRead) (response : Except Error ReadResponse)
  | reply (reply : WatchResponse)
  /-- The stream worker asks for a stream. -/
  | requestStream
  /-- The stream that was asked for is open. -/
  | openStream
  /-- An attempt at a stream is over, and its outbound half is told to end. -/
  | cancelStream
  /-- After a failed attempt the cache starts afresh. -/
  | failStream
  | sweep (moment : Instant)
  /-- The sweep worker finds out when to sweep first. -/
  | startSweeps
  /-- The sweep worker finds out when to sweep next. -/
  | scheduleSweep
  /-- A stream is polled. That this is one step is an assumption. -/
  | poll (stream : Nat)
  /-- The transport lets go of an outbound half. -/
  | dropStream (stream : Nat)
  | beginClose
  | stopStreamWorker
  | stopSweepWorker
  /-- A close ends, after both workers: the cache starts afresh. -/
  | finishClose
  | note (note : Note)
  | setClock (clock : Clock)

namespace Client

/-- Starts the cache afresh, with the notifications that are due. -/
def resetCache (client : Client) : List Notification × Client :=
  (client.cache.reset.1, { client with cache := client.cache.reset.2 })

/-- When the stream worker asks again after a failure. -/
def pauseEnd (client : Client) : Nat :=
  client.clock.elapsed + client.settings.retryBackoffMillis.toNat

/-- Carries out a section: the notifications that it gives rise to, and the client after it. A
section that is not due changes nothing. -/
def perform (client : Client) : Section → List Notification × Client
  | .watch space key watcher =>
    match ({ client with closed := false } : Client).register space key watcher with
    | .error _ => ([], client)
    | .ok registered =>
      (registered.initial.toList, { registered.client with closed := client.closed })
  | .unwatch subscription watcher => ([], (client.unwatch subscription watcher).2)
  | .beginRead space key pinned =>
    let read := ({ client with closed := false } : Client).beginRead space key pinned
    ([], { read.2 with closed := client.closed })
  | .finishRead pending response => ([], (client.finishRead pending response).2)
  | .reply reply => client.applyReply reply
  | .requestStream => ([], if client.wantsStream then client.requestStream.2 else client)
  | .openStream =>
    match client.streamWorker with
    | .opening stream => ([], client.streamOpened stream)
    | _ => ([], client)
  | .cancelStream => ([], client.cancelOutbound)
  | .failStream =>
    match client.streamWorker with
    | .opening _ | .reading _ =>
      let (told, client) := client.cancelOutbound.resetCache
      (told, { client with streamWorker := .resting client.pauseEnd })
    | _ => ([], client)
  | .sweep moment => ([], client.sweepAt moment)
  | .startSweeps =>
    match client.sweepWorker with
    | .starting => ([], { client with sweepWorker := client.startSweepWorker })
    | _ => ([], client)
  | .scheduleSweep =>
    match client.sweepWorker with
    | .sleeping due => ([], { client with sweepWorker := .sleeping (client.nextSweep due) })
    | _ => ([], client)
  | .poll stream =>
    ([], { client with queue := (client.queue.poll stream client.cache.generation).2 })
  | .dropStream stream => ([], { client with queue := client.queue.finish stream })
  | .beginClose => ([], client.beginClose)
  | .stopStreamWorker => ([], if client.closed then client.stopStreamWorker else client)
  | .stopSweepWorker => ([], if client.closed then client.stopSweepWorker else client)
  | .finishClose =>
    if client.closed && client.streamWorker == .stopped && client.sweepWorker == .stopped then
      client.resetCache
    else ([], client)
  | .note note => ([], client.note note.label note.registration note.observation)
  | .setClock clock => ([], { client with clock })

end Client

/-- A section that was carried out, with the client that it found. -/
structure Occurrence where
  before : Client
  act : Section

namespace Occurrence

/-- The notifications that a section gave rise to. -/
def told (occurrence : Occurrence) : List Notification :=
  (occurrence.before.perform occurrence.act).1

/-- The client that a section left. -/
def after (occurrence : Occurrence) : Client := (occurrence.before.perform occurrence.act).2

/-- The generation that a section was carried out in. -/
def generation (occurrence : Occurrence) : Nat := occurrence.before.cache.generation

/-- The subscription that a watch opened, and its document. -/
def opened (occurrence : Occurrence) : Option (UInt32 × NamespaceKey × DocumentKey) :=
  match occurrence.act with
  | .watch space key _ =>
    match occurrence.before.cache.recordAt? space key with
    | none => some (occurrence.before.cache.nextSubscription, space, key)
    | some _ => none
  | _ => none

/-- The subscription, of those that are known, that the server removed, and its document. -/
def removed (occurrence : Occurrence) : Option (UInt32 × NamespaceKey × DocumentKey) :=
  match occurrence.act with
  | .reply reply =>
    if ReplyStatus.ofWatchCode reply.status = .removed then
      (occurrence.before.cache.bySubscription.get? reply.uid).map (fun place => (reply.uid, place))
    else none
  | _ => none

/-- The subscriptions whose records a sweep removed. -/
def swept (occurrence : Occurrence) : List UInt32 :=
  match occurrence.act with
  | .sweep moment =>
    match occurrence.before.clock.before? moment
        occurrence.before.settings.inactivityThresholdSeconds.toNat with
    | none => []
    | some limit => occurrence.before.cache.idleSubscriptions limit
  | _ => []

/-- The command that a poll sent, and the stream that it went out on. -/
def sent (occurrence : Occurrence) : Option (Nat × StampedCommand) :=
  match occurrence.act with
  | .poll stream =>
    (occurrence.before.queue.poll stream occurrence.generation).1.sent.map
      (fun stamped => (stream, stamped))
  | _ => none

end Occurrence

/-- A client as it was created. -/
def Client.Fresh (client : Client) : Prop :=
  ∃ settings clock, Client.create settings clock = .ok client

/-- The sections of a run so far, and the client that they lead to. -/
inductive Run (start : Client) : List Occurrence → Client → Prop where
  | start : Run start [] start
  | step {history : List Occurrence} {client : Client} (act : Section) :
      Run start history client →
      Run start (history ++ [⟨client, act⟩]) (client.perform act).2

/-- A run up to where its history is split. -/
theorem Run.before {start client : Client} {history earlier later : List Occurrence}
    {occurrence : Occurrence} (run : Run start history client)
    (split : history = earlier ++ occurrence :: later) : Run start earlier occurrence.before := by
  induction run generalizing later with
  | start => simp at split
  | @step history client act run ih =>
    rcases List.eq_nil_or_concat later with rfl | ⟨rest, last, rfl⟩
    · obtain ⟨rfl, same⟩ := List.append_inj' split rfl
      cases same
      exact run
    · rw [List.concat_eq_append, ← List.cons_append, ← List.append_assoc] at split
      obtain ⟨within, _⟩ := List.append_inj' split rfl
      exact ih within

/-- A run up to one of its occurrences, and the rest of its history. -/
theorem Run.upTo {start client : Client} {history : List Occurrence}
    (run : Run start history client) {occurrence : Occurrence} (member : occurrence ∈ history) :
    ∃ earlier later, history = earlier ++ occurrence :: later ∧
      Run start earlier occurrence.before := by
  obtain ⟨earlier, later, split⟩ := List.append_of_mem member
  exact ⟨earlier, later, split, run.before split⟩

/-- Whatever a run found, a run led to. -/
theorem Run.reaches {start client : Client} {history : List Occurrence}
    (run : Run start history client) {occurrence : Occurrence} (member : occurrence ∈ history) :
    ∃ earlier, Run start earlier occurrence.before := by
  obtain ⟨earlier, _, _, before⟩ := run.upTo member
  exact ⟨earlier, before⟩

namespace Client

/-- Carries out sections one after the other. -/
def performAll (client : Client) (acts : List Section) : Client :=
  acts.foldl (fun client act => (client.perform act).2) client

/-- The occurrences of sections that are carried out one after the other. -/
def occurrences (client : Client) : List Section → List Occurrence
  | [] => []
  | act :: rest => ⟨client, act⟩ :: (client.perform act).2.occurrences rest

end Client

theorem Run.performAll {start client : Client} {history : List Occurrence}
    (run : Run start history client) (acts : List Section) :
    Run start (history ++ client.occurrences acts) (client.performAll acts) := by
  induction acts generalizing history client with
  | nil =>
    rw [Client.occurrences, List.append_nil]
    exact run
  | cons act rest ih =>
    rw [Client.occurrences, List.append_cons]
    exact ih (run.step act)

theorem Client.create_eq {settings : CacheSettings} {clock : Clock} {client : Client}
    (created : Client.create settings clock = .ok client) :
    client = { settings, clock, cache := { capacity := settings.capacity.toNat } } := by
  unfold Client.create at created
  cases checked : settings.check with
  | error cause => simp [checked, bind, Except.bind] at created
  | ok =>
    simp only [checked, bind, Except.bind, pure, Except.pure, Except.ok.injEq] at created
    exact created.symm

theorem Client.Fresh.eq {client : Client} (fresh : client.Fresh) :
    client = { settings := client.settings, clock := client.clock,
               cache := { capacity := client.settings.capacity.toNat } } := by
  obtain ⟨settings, clock, created⟩ := fresh
  rw [create_eq created]

/-- A client with the settings by default. -/
def Client.byDefault : Client := { settings := {}, cache := { capacity := 1000 } }

theorem Client.byDefault_fresh : Client.byDefault.Fresh := ⟨{}, {}, rfl⟩

end ConfigWatch

import ConfigWatch.Proofs.Client.Emissions
import ConfigWatch.Proofs.Client.Resuming

/-!
# Reconnecting

When an attempt at a stream failed and the cache started afresh, what a client does from then on,
with the sessions that are opened on it, is what a new client with the same settings does, unless
its sweep worker failed. Contents and registrations are numbered on, outbound streams too, and the
generation is a later one; nothing else of the past shows. Two things can: an outbound stream of the
past that has the queue, or waits for it, and did not give way yet keeps new streams waiting; and a
sweep worker that started in time goes on where a new one fails.

The removals of one sweep are in the order of their ids here, and the notifications of one batch in
the order of the tables. Neither order is promised by a client, so that two clients, new ones too,
may differ in them.
-/

set_option autoImplicit false

namespace ConfigWatch

/-- A client and the sessions that were opened on it. -/
structure Host where
  client : Client
  sessions : List Session := []

/-- A move at a host: a section of its client, or one of a session. -/
inductive Move where
  | act (act : Section)
  | openSession (space : NamespaceKey)
  | beginRead (session : Nat) (key : DocumentKey)
  | finishRead (session : Nat) (pending : PendingRead) (response : Except Error ReadResponse)

/-- What a move shows: who is told what, its answer, and what anyone may ask for after it. -/
structure Showing where
  told : List Notification
  answer : SectionAnswer
  closed : Bool
  subscriptions : Nat
  generation : Nat

namespace Host

def make (host : Host) : Move → List Notification × SectionAnswer × Host
  | .act act =>
    ((host.client.perform act).1, host.client.answer act,
      { host with client := (host.client.perform act).2 })
  | .openSession space => ([], .nothing, { host with sessions := host.sessions ++ [{ space }] })
  | .beginRead number key =>
    match host.sessions[number]? with
    | none => ([], .nothing, host)
    | some session =>
      let begun := session.beginRead host.client key
      ([], .sessionReading begun.1, ⟨begun.2.2, host.sessions.set number begun.2.1⟩)
  | .finishRead number pending response =>
    match host.sessions[number]? with
    | none => ([], .nothing, host)
    | some session =>
      let finished := session.finishRead host.client pending response
      ([], .sessionRead finished.1, ⟨finished.2.2, host.sessions.set number finished.2.1⟩)

def after (host : Host) (move : Move) : Host := (host.make move).2.2

def shows (host : Host) (move : Move) : Showing where
  told := (host.make move).1
  answer := (host.make move).2.1
  closed := (host.after move).client.closed
  subscriptions := (host.after move).client.countSubscriptions
  generation := (host.after move).client.cache.generation

/-- Whether a move comes in time for a host with a past. -/
def admits (host : Host) (past : Past) : Move → Bool
  | .act act => host.client.inTime past act
  | _ => true

/-- Whether all moves come in time, one after the other. -/
def admitsAll (past : Past) : Host → List Move → Bool
  | _, [] => true
  | host, move :: rest => host.admits past move && admitsAll past (host.after move) rest

end Host

def Showing.withPast (past : Past) (showing : Showing) : Showing where
  told := showing.told.map (Notification.rename past.names)
  answer := showing.answer.withPast past
  closed := showing.closed
  subscriptions := showing.subscriptions
  generation := past.generations + showing.generation

/-- The move of a new host in the place of one of a host with a past. -/
def Past.move? (past : Past) : Move → Option Move
  | .act act => (past.counterpart? act).map .act
  | move => some move

/-- Move by move, a host with a past shows what a new one shows; at a move that has no counterpart
it tells nobody and sends nothing. -/
def Host.Repeats (past : Past) : Host → Host → List Move → Prop
  | _, _, [] => True
  | left, right, move :: rest =>
    match past.move? move with
    | some counterpart =>
      left.shows move = (right.shows counterpart).withPast past ∧
        Repeats past (left.after move) (right.after counterpart) rest
    | none =>
      (left.shows move).told = [] ∧ (left.shows move).answer.sent = none ∧
        Repeats past (left.after move) right rest

/-- A host that started afresh has come as far as a new one. -/
structure Host.Resumes (past : Past) (left right : Host) : Prop where
  client : left.client.Resumes past right.client
  sessions : left.sessions = right.sessions.map (Session.rename past.names)

theorem Client.Resumes.closed {past : Past} {left right : Client}
    (resumes : left.Resumes past right) : left.closed = right.closed := by
  obtain ⟨aftermath, rfl, _, rfl⟩ := resumes
  rfl

theorem Client.Resumes.subscriptions {past : Past} {left right : Client}
    (resumes : left.Resumes past right) :
    left.countSubscriptions = right.countSubscriptions := by
  obtain ⟨aftermath, rfl, _, rfl⟩ := resumes
  rfl

theorem Client.Resumes.generation {past : Past} {left right : Client}
    (resumes : left.Resumes past right) :
    left.cache.generation = past.generations + right.cache.generation := by
  obtain ⟨aftermath, rfl, _, rfl⟩ := resumes
  rfl

namespace Session

theorem beginRead_unmoved (session : Session) (client : Client) (key : DocumentKey) :
    Client.Unmoved client (session.beginRead client key).2.2 := by
  unfold beginRead
  split
  · exact .refl client
  · have begun := client.beginRead_unmoved session.space key session.pinned
    cases read : client.beginRead session.space key session.pinned with
    | mk step after =>
      rw [read] at begun
      cases step <;> exact begun

theorem finishRead_unmoved (session : Session) (client : Client) (pending : PendingRead)
    (response : Except Error ReadResponse) :
    Client.Unmoved client (session.finishRead client pending response).2.2 :=
  client.finishRead_unmoved pending response

end Session

namespace Host.Resumes

variable {past : Past} {left right : Host}

/-- Moves that tell and answer the same, and lead as far, show the same. -/
private theorem showing (move counterpart : Move)
    (told : (left.make move).1 = (right.make counterpart).1.map (Notification.rename past.names))
    (answer : (left.make move).2.1 = (right.make counterpart).2.1.withPast past)
    (after : Resumes past (left.after move) (right.after counterpart)) :
    left.shows move = (right.shows counterpart).withPast past := by
  simp only [shows, Showing.withPast, told, answer, after.client.closed,
    after.client.subscriptions, after.client.generation]

private theorem make (resumes : Resumes past left right) {move counterpart : Move}
    (corresponds : past.move? move = some counterpart)
    (timely : left.admits past move = true) :
    (left.make move).1 = (right.make counterpart).1.map (Notification.rename past.names) ∧
      (left.make move).2.1 = (right.make counterpart).2.1.withPast past ∧
      Resumes past (left.after move) (right.after counterpart) := by
  cases move with
  | act act =>
    obtain ⟨other, found, rfl⟩ := Option.map_eq_some_iff.mp corresponds
    have echoes := resumes.client.step found timely
    exact ⟨echoes.told, echoes.answer, echoes.after, resumes.sessions⟩
  | openSession space =>
    cases corresponds
    refine ⟨rfl, rfl, resumes.client, ?_⟩
    simp only [after, Host.make, resumes.sessions, List.map_append]
    rfl
  | beginRead number key =>
    cases corresponds
    obtain ⟨client, sessions⟩ := left
    obtain ⟨⟨aftermath, rfl, fits, rfl⟩, rfl⟩ := resumes
    have found : (right.sessions.map (Session.rename aftermath.past.names))[number]? =
        right.sessions[number]?.map (Session.rename aftermath.past.names) := List.getElem?_map ..
    simp only [after, Host.make, found]
    cases right.sessions[number]? with
    | none => exact ⟨rfl, rfl, ⟨aftermath, rfl, fits, rfl⟩, rfl⟩
    | some session =>
      have unmoved := session.beginRead_unmoved right.client key
      simp only [Option.map_some, Session.beginRead_withPast, ← List.map_set]
      exact ⟨rfl, rfl, ⟨aftermath, rfl, fits.of_unmoved unmoved, rfl⟩, rfl⟩
  | finishRead number pending response =>
    cases corresponds
    obtain ⟨client, sessions⟩ := left
    obtain ⟨⟨aftermath, rfl, fits, rfl⟩, rfl⟩ := resumes
    have found : (right.sessions.map (Session.rename aftermath.past.names))[number]? =
        right.sessions[number]?.map (Session.rename aftermath.past.names) := List.getElem?_map ..
    simp only [after, Host.make, found]
    cases right.sessions[number]? with
    | none => exact ⟨rfl, rfl, ⟨aftermath, rfl, fits, rfl⟩, rfl⟩
    | some session =>
      have unmoved := session.finishRead_unmoved right.client pending response
      simp only [Option.map_some, Session.finishRead_withPast, ← List.map_set]
      exact ⟨rfl, rfl, ⟨aftermath, rfl, fits.of_unmoved unmoved, rfl⟩, rfl⟩

private theorem skip (resumes : Resumes past left right) {move : Move}
    (alone : past.move? move = none) :
    (left.shows move).told = [] ∧ (left.shows move).answer.sent = none ∧
      Resumes past (left.after move) right := by
  cases move with
  | act act =>
    obtain ⟨told, sent, after⟩ := resumes.client.skip (Option.map_eq_none_iff.mp alone)
    exact ⟨told, sent, after, resumes.sessions⟩
  | openSession | beginRead | finishRead => cases alone

/-- What holds of one move holds along all of them. -/
theorem repeats (resumes : Resumes past left right) (moves : List Move)
    (timely : left.admitsAll past moves = true) : Repeats past left right moves := by
  induction moves generalizing left right with
  | nil => trivial
  | cons move rest ih =>
    rw [admitsAll, Bool.and_eq_true] at timely
    rw [Repeats]
    split
    · next counterpart corresponds =>
      obtain ⟨told, answer, after⟩ := make resumes corresponds timely.1
      exact ⟨showing move counterpart told answer after, ih after timely.2⟩
    · next alone =>
      obtain ⟨told, sent, after⟩ := skip resumes alone
      exact ⟨told, sent, ih after timely.2⟩

end Host.Resumes

/-! ## The fresh start -/

/-- A run led to an open client that has an attempt at a stream under way, which fails now; a new
client is created with the same settings. -/
structure Client.Reconnects (client new : Client) : Prop where
  reached : ∃ start history, start.Fresh ∧ Run start history client
  opened : client.closed = false
  serving : client.streamWorker.stream?.isSome = true
  created : Client.create client.settings client.clock = .ok new

/-- What a failed attempt at a stream leaves of a client. -/
private def Client.aftermath (client : Client) (stream : Nat) : Aftermath where
  past := client.past
  residue :=
    { streams := (client.queue.cancel stream).streams
      commands := client.queue.commands
      holder := client.queue.holder
      waiting := client.queue.waiting }
  streamWorker := .resting client.pauseEnd
  sweepWorker := client.sweepWorker
  journal := client.journal

namespace Client.Reconnects

variable {client new : Client}

/-- The outbound stream of the attempt is cancelled, and all earlier ones were before. -/
private theorem residue_fits (reconnects : client.Reconnects new) {stream : Nat}
    (serves : client.streamWorker.stream? = some stream) :
    (client.aftermath stream).residue.Fits client.past new.queue := by
  obtain ⟨start, history, fresh, run⟩ := reconnects.reached
  have streaming := run.streaming fresh
  have known (other : Nat) (member : other ∈ client.queue.line) :
      other < client.queue.streams.length := by
    obtain ⟨state, found, _⟩ := (run.inOrder fresh).running other member
    exact (List.getElem?_eq_some_iff.mp found).1
  constructor
  case length => exact List.length_modify ..
  case spent =>
    intro state member
    obtain ⟨other, found⟩ := List.mem_iff_getElem?.mp member
    by_contra unspent
    rw [not_or, Bool.not_eq_true, Bool.not_eq_true] at unspent
    obtain ⟨live, differs⟩ := CommandQueue.live_of_cancel ⟨state, found, unspent⟩
    exact differs (Option.some.inj ((streaming.live other live).symm.trans serves))
  case older => exact fun stamped member => Nat.lt_succ_of_le (streaming.waiting stamped member)
  case holder =>
    intro other held
    exact known other (List.mem_append_left _ (Option.mem_toList.mpr held))
  case waiting => exact fun other member => known other (List.mem_append_right _ member)
  case before =>
    rw [create_eq reconnects.created]
    exact .inr ⟨rfl, rfl⟩

private theorem aftermath_fits (reconnects : client.Reconnects new)
    (unfailed : client.sweepWorker ≠ .failed) {stream : Nat}
    (serves : client.streamWorker.stream? = some stream) :
    (client.aftermath stream).Fits new := by
  obtain ⟨start, history, fresh, run⟩ := reconnects.reached
  have starts := create_eq reconnects.created
  have running : client.sweepWorker ≠ .stopped := by
    intro stopped
    have closed := (run.settled fresh).2.2 stopped
    rw [reconnects.opened] at closed
    cases closed
  constructor
  case residue => exact reconnects.residue_fits serves
  case streamWorker => exact .inr ⟨congrArg streamWorker starts, _, rfl⟩
  case unfailed => exact ⟨unfailed, by simp [starts]⟩
  case stopped =>
    rw [starts]
    exact iff_of_false running (by simp)

/-- After a failed attempt at a stream a client has come as far as a new one. -/
theorem resumes (reconnects : client.Reconnects new) (unfailed : client.sweepWorker ≠ .failed) :
    (client.perform .failStream).2.Resumes client.past new := by
  obtain ⟨start, history, fresh, run⟩ := reconnects.reached
  obtain ⟨stream, serves⟩ := Option.isSome_iff_exists.mp reconnects.serving
  have capacity := (run.settled fresh).2.1
  have cache : client.cache.reset.2 =
      Cache.withPast client.past { capacity := client.settings.capacity.toNat } := by
    rw [← capacity]
    simp only [Cache.reset, Cache.withPast, Client.past, Array.append_empty]
    rfl
  have queue : client.queue.cancel stream =
      CommandQueue.withPast client.past {} (client.aftermath stream).residue := by
    simp [CommandQueue.withPast, aftermath, CommandQueue.cancel]
  refine ⟨client.aftermath stream, rfl, reconnects.aftermath_fits unfailed serves, ?_⟩
  rw [failStream_serving serves, cancelOutbound_serving serves, create_eq reconnects.created]
  simp only [resetCache, withPast, cache, queue, reconnects.opened]
  rfl

end Client.Reconnects

/-- A client whose attempt at a stream failed starts afresh, if its sweep worker has not failed.
Whatever is done from then on, with it and with sessions opened on it, shows what the same moves
show at a client that was created just then with the same settings; only the numbers of the
generation, of contents, registrations and outbound streams are higher. The moves come in time: a
stream is asked for when the client wants one, the transport lets go of the outbound streams of the
past that have the queue or wait for it before it polls a new one, and the clock counts as far as
the sweeps need. The order of the removals in one sweep and of the notifications in one batch,
which a client leaves open, is fixed here in the same way for both. -/
theorem reconnect_starts_afresh {client new : Client} (reconnects : client.Reconnects new)
    (unfailed : client.sweepWorker ≠ .failed) (moves : List Move)
    (timely : Host.admitsAll client.past ⟨(client.perform .failStream).2, []⟩ moves = true) :
    Host.Repeats client.past ⟨(client.perform .failStream).2, []⟩ ⟨new, []⟩ moves :=
  Host.Resumes.repeats ⟨reconnects.resumes unfailed, rfl⟩ moves timely

/-- A new client beside another. -/
private def Client.beside (client : Client) : Client where
  settings := client.settings
  cache := { capacity := client.settings.capacity.toNat }
  clock := client.clock

/-- A client that sweeps and reads a stream. It told the server about one document, and is about to
tell it about another. -/
private def connected : Client :=
  Client.byDefault.performAll
    [.startSweeps, .watch { root := "/srv" } { document := "a" } (some ("A", .idle)),
      .requestStream, .openStream, .poll 0,
      .reply { checksum := [1], nodes := [{ valueType := 4, int := 1 }] },
      .watch { root := "/srv" } { document := "b" } none]

private theorem connected_reconnects : connected.Reconnects connected.beside :=
  ⟨⟨_, _, Client.byDefault_fresh, Run.start.performAll _⟩, by decide +kernel, by decide +kernel,
    rfl⟩

/-- The transport lets go of the old stream and polls the new one, which drops the command that
waited. A watcher and a session learn what the server sends; then the client is closed. -/
private def reconnecting : List Move :=
  [.openSession { root := "/srv" }, .act (.setClock { elapsed := 1000 }),
    .act (.watch { root := "/srv" } { document := "a" } (some ("A", .idle))),
    .act .requestStream, .act .openStream, .act (.dropStream 0), .act (.poll 1),
    .act (.reply { checksum := [1], nodes := [{ valueType := 4, int := 1 }] }),
    .beginRead 0 { document := "a" }, .act (.unwatch 0 0), .act (.sweep 90000000000),
    .act (.poll 1), .act .beginClose, .act .stopStreamWorker, .act .stopSweepWorker,
    .act .finishClose]

/-- The client reconnects, serves a watcher and a session, sweeps and is closed. -/
theorem reconnect_starts_afresh_served :
    connected.Reconnects connected.beside ∧ connected.sweepWorker ≠ .failed ∧
      connected.queue.commands.length = 1 ∧
      Host.admitsAll connected.past ⟨(connected.perform .failStream).2, []⟩ reconnecting = true ∧
      Host.Repeats connected.past ⟨(connected.perform .failStream).2, []⟩
        ⟨connected.beside, []⟩ reconnecting := by
  have unfailed : connected.sweepWorker ≠ .failed := by decide +kernel
  have timely : Host.admitsAll connected.past ⟨(connected.perform .failStream).2, []⟩
      reconnecting = true := by decide +kernel
  exact ⟨connected_reconnects, unfailed, by decide +kernel, timely,
    reconnect_starts_afresh connected_reconnects unfailed reconnecting timely⟩

/-! ## What shows of the past -/

/-- A client with an outbound stream that waits for a command. -/
private def waiting : Client :=
  Client.byDefault.performAll [.requestStream, .openStream, .poll 0]

/-- A client that sweeps as rarely as its clock counted for when it started. -/
private def sparing : Client :=
  ({ Client.byDefault with
      settings := { cleanupIntervalSeconds := 9223372036854775806 } } : Client).performAll
    [.startSweeps, .requestStream, .openStream, .setClock { elapsed := 1000 }]

/-- Two traces of the past. An outbound stream that waits for a command keeps the queue until it is
polled once more or dropped, so that a new stream gets nothing. A sweep worker that started in time
goes on where a new one fails, because the clock does not count as far any more. -/
theorem reconnect_shows_past :
    (waiting.Reconnects waiting.beside ∧
      ¬ Host.Repeats waiting.past ⟨(waiting.perform .failStream).2, []⟩ ⟨waiting.beside, []⟩
        [.act (.watch { root := "/srv" } { document := "a" } none),
          .act (.setClock { elapsed := 1000 }), .act .requestStream, .act (.poll 1)]) ∧
    (sparing.Reconnects sparing.beside ∧
      ¬ Host.Repeats sparing.past ⟨(sparing.perform .failStream).2, []⟩ ⟨sparing.beside, []⟩
        [.act .beginClose, .act .stopStreamWorker, .act .stopSweepWorker,
          .act .finishClose]) := by
  constructor
  · refine ⟨⟨⟨_, _, Client.byDefault_fresh, Run.start.performAll _⟩, by decide +kernel,
      by decide +kernel, rfl⟩, ?_⟩
    rintro ⟨_, _, _, polled, _⟩
    have sent := congrArg (fun showing => showing.answer.sent) polled
    exact absurd sent (by decide +kernel)
  · refine ⟨⟨⟨_, _, ⟨{ cleanupIntervalSeconds := 9223372036854775806 }, {}, rfl⟩,
      Run.start.performAll _⟩, by decide +kernel, by decide +kernel, rfl⟩, ?_⟩
    rintro ⟨_, _, _, finished, _⟩
    have outcome : SectionAnswer.closed (.ok ()) = .closed (.error .workerFailed) :=
      congrArg Showing.answer finished
    cases outcome

end ConfigWatch

import ConfigWatch.Proofs.Client.Past
import ConfigWatch.Proofs.Client.Unmoved
import ConfigWatch.Proofs.Queue.Line

/-!
# Resuming after a fresh start

A client that started afresh takes section by section the course of a new one. The sections are the
same, but for the numbers of outbound streams; sections on streams of the past have no counterpart.
It takes a stream that is asked for in time, a line that the past gave up, and a clock that counts
as far as the sweeps need.
-/

set_option autoImplicit false

namespace ConfigWatch

/-- What a section answers to the party that carries it out. -/
inductive SectionAnswer where
  | nothing
  | watching (outcome : Except Error Watching)
  | removed (found : Bool)
  | reading (step : ReadStep)
  | read (outcome : Except Error ReadReply)
  | sessionReading (step : Session.Step)
  | sessionRead (outcome : Except Error Session.Reply)
  | polled (answer : PollAnswer)
  | closed (outcome : Except Error Unit)

namespace SectionAnswer

/-- The command that was sent with an answer. -/
def sent : SectionAnswer → Option StampedCommand
  | .polled answer => answer.sent
  | _ => none

def withPast (past : Past) : SectionAnswer → SectionAnswer
  | .reading step => .reading (step.rename past.names)
  | .read outcome => .read (outcome.map (ReadReply.rename past.names))
  | .sessionReading step => .sessionReading (step.rename past.names)
  | .sessionRead outcome => .sessionRead (outcome.map (Session.Reply.rename past.names))
  | .polled answer => .polled (answer.withPast past)
  | answer => answer

end SectionAnswer

/-- The answer to a section that is carried out on a client. -/
def Client.answer (client : Client) : Section → SectionAnswer
  | .watch space key watcher =>
    .watching ((({ client with closed := false } : Client).register space key watcher).map
      Registered.watching)
  | .unwatch subscription watcher => .removed (client.unwatch subscription watcher).1
  | .beginRead space key pinned =>
    .reading (({ client with closed := false } : Client).beginRead space key pinned).1
  | .finishRead pending response => .read (client.finishRead pending response).1
  | .poll stream => .polled (client.queue.poll stream client.cache.generation).1
  | .finishClose => .closed client.finishClose.1
  | _ => .nothing

namespace Past

/-- The section that a new client carries out in the place of one that carries the past: the same
one on the stream of its own number, and none for a stream of the past. -/
def counterpart? (past : Past) : Section → Option Section
  | .poll stream => if stream < past.streams then none else some (.poll (stream - past.streams))
  | .dropStream stream =>
    if stream < past.streams then none else some (.dropStream (stream - past.streams))
  | act => some act

end Past

/-- The past of a client that starts afresh after a failed attempt at a stream. -/
def Client.past (client : Client) : Past where
  touches := client.cache.touches
  registrations := client.registrations
  generations := client.cache.generation + 1
  streams := client.queue.streams.length

/-- Whether a section comes in time for a client with a past: a stream is asked for when the client
wants one, a new stream is polled when none of the past stands in the line, and the sweep worker
starts and stops on a clock that counts as far as the next sweep. -/
def Client.inTime (client : Client) (past : Past) : Section → Bool
  | .requestStream => client.wantsStream
  | .poll stream =>
    decide (stream < past.streams) ||
      client.queue.line.all (fun other => decide (past.streams ≤ other))
  | .startSweeps | .stopSweepWorker =>
    client.clock.canAwait client.settings.cleanupIntervalSeconds.toNat
  | _ => true

def StreamWorker.withPast (past : Past) : StreamWorker → StreamWorker
  | .opening stream => .opening (past.streams + stream)
  | .reading stream => .reading (past.streams + stream)
  | worker => worker

/-- What a fresh start can leave of a client while a new one has come as far: it rests where the
new one starts, its workers run while those of the new one run, and its queue lags behind at most
by commands and streams of the past. -/
structure Aftermath.Fits (left : Aftermath) (client : Client) : Prop where
  residue : left.residue.Fits left.past client.queue
  streamWorker : left.streamWorker = client.streamWorker.withPast left.past ∨
    client.streamWorker = .starting ∧ ∃ until_, left.streamWorker = .resting until_
  unfailed : left.sweepWorker ≠ .failed ∧ client.sweepWorker ≠ .failed
  stopped : left.sweepWorker = .stopped ↔ client.sweepWorker = .stopped

/-- A client that started afresh has come as far as a new one. -/
def Client.Resumes (past : Past) (left right : Client) : Prop :=
  ∃ aftermath : Aftermath, aftermath.past = past ∧ aftermath.Fits right ∧
    left = right.withPast aftermath

/-- A section does to a client with a past what its counterpart does to a new one. -/
structure Client.Echoes (past : Past) (left right : Client) (act counterpart : Section) :
    Prop where
  told : (left.perform act).1 =
    (right.perform counterpart).1.map (Notification.rename past.names)
  answer : left.answer act = (right.answer counterpart).withPast past
  after : Resumes past (left.perform act).2 (right.perform counterpart).2

variable {client after : Client} {left : Aftermath}

theorem Aftermath.Fits.of_unmoved (fits : left.Fits client)
    (unmoved : Client.Unmoved client after) : left.Fits after where
  residue := fits.residue.of_free (fun holder waiting =>
    ⟨unmoved.holder.trans holder, unmoved.waiting.trans waiting⟩)
  streamWorker := by
    rw [unmoved.streamWorker]
    exact fits.streamWorker
  unfailed := ⟨fits.unfailed.1, unmoved.sweepWorker ▸ fits.unfailed.2⟩
  stopped := unmoved.sweepWorker ▸ fits.stopped

namespace Client

/-! ## Work on the cache -/

theorem perform_withPast (client : Client) (left : Aftermath) {act : Section}
    (work : act.isWork = true) :
    (client.withPast left).perform act =
      ((client.perform act).1.map (Notification.rename left.past.names),
        (client.perform act).2.withPast left) := by
  cases act with
  | watch space key watcher =>
    have registers := register_withPast { client with closed := false } left space key watcher
    have same : ({ client.withPast left with closed := false } : Client) =
        ({ client with closed := false } : Client).withPast left := rfl
    simp only [perform, same, registers]
    cases ({ client with closed := false } : Client).register space key watcher with
    | error cause => rfl
    | ok registered =>
      refine Prod.ext ?_ rfl
      simp only [Except.map, Registered.withPast]
      cases registered.initial <;> rfl
  | unwatch subscription watcher =>
    simp only [perform, unwatch_withPast]
    rfl
  | beginRead space key pinned =>
    have begins := beginRead_withPast { client with closed := false } left space key pinned
    have same : ({ client.withPast left with closed := false } : Client) =
        ({ client with closed := false } : Client).withPast left := rfl
    simp only [perform, same, begins]
    rfl
  | finishRead pending response =>
    simp only [perform, finishRead_withPast]
    rfl
  | reply reply => exact applyReply_withPast client left reply
  | sweep moment =>
    simp only [perform, sweepAt_withPast]
    rfl
  | _ => cases work

theorem answer_withPast (client : Client) (left : Aftermath) {act : Section}
    (work : act.isWork = true) :
    (client.withPast left).answer act = (client.answer act).withPast left.past := by
  have same : ({ client.withPast left with closed := false } : Client) =
      ({ client with closed := false } : Client).withPast left := rfl
  cases act with
  | watch space key watcher =>
    simp only [answer, same, register_withPast]
    cases ({ client with closed := false } : Client).register space key watcher <;> rfl
  | unwatch subscription watcher =>
    simp only [answer, unwatch_withPast]
    rfl
  | beginRead space key pinned =>
    simp only [answer, same, beginRead_withPast]
    rfl
  | finishRead pending response =>
    simp only [answer, finishRead_withPast]
    rfl
  | reply | sweep => rfl
  | _ => cases work

theorem echoes_of_work (fits : left.Fits client) {act : Section} (work : act.isWork = true) :
    Echoes left.past (client.withPast left) client act act := by
  constructor
  case told => rw [perform_withPast client left work]
  case answer => exact answer_withPast client left work
  case after =>
    rw [perform_withPast client left work]
    exact ⟨left, rfl, fits.of_unmoved (perform_unmoved client work), rfl⟩

/-! ## Outbound streams -/

theorem cancelOutbound_serving {client : Client} {stream : Nat}
    (serves : client.streamWorker.stream? = some stream) :
    client.cancelOutbound = { client with queue := client.queue.cancel stream } := by
  unfold cancelOutbound
  split <;> simp_all [StreamWorker.stream?]

private theorem cancelOutbound_idle {client : Client} (idle : client.streamWorker.stream? = none) :
    client.cancelOutbound = client := by
  unfold cancelOutbound
  split <;> simp_all [StreamWorker.stream?]

theorem failStream_serving {client : Client} {stream : Nat}
    (serves : client.streamWorker.stream? = some stream) :
    client.perform .failStream = (client.cancelOutbound.resetCache.1,
      { client.cancelOutbound.resetCache.2 with
        streamWorker := .resting client.cancelOutbound.resetCache.2.pauseEnd }) := by
  simp only [perform]
  split <;> simp_all [StreamWorker.stream?]

private theorem failStream_idle {client : Client} (idle : client.streamWorker.stream? = none) :
    client.perform .failStream = ([], client) := by
  simp only [perform]
  split <;> simp_all [StreamWorker.stream?]

end Client

namespace Aftermath.Fits

/-- The workers of both clients serve streams of the same number, with the past, or none. -/
theorem stream? (fits : left.Fits client) :
    left.streamWorker.stream? = client.streamWorker.stream?.map (left.past.streams + ·) := by
  rcases fits.streamWorker with same | ⟨starting, until_, resting⟩
  · rw [same]
    cases client.streamWorker <;> rfl
  · rw [starting, resting]
    rfl

theorem cancelOutbound_withPast (fits : left.Fits client) :
    (client.withPast left).cancelOutbound = client.cancelOutbound.withPast left := by
  have serves : (client.withPast left).streamWorker.stream? =
      client.streamWorker.stream?.map (left.past.streams + ·) := fits.stream?
  cases served : client.streamWorker.stream? with
  | none =>
    rw [served, Option.map_none] at serves
    rw [Client.cancelOutbound_idle serves, Client.cancelOutbound_idle served]
  | some stream =>
    rw [served, Option.map_some] at serves
    rw [Client.cancelOutbound_serving serves, Client.cancelOutbound_serving served]
    exact congrArg (fun queue => ({ client.withPast left with queue } : Client))
      (CommandQueue.cancel_withPast fits.residue stream)

theorem cancelOutbound (fits : left.Fits client) : left.Fits client.cancelOutbound := by
  unfold Client.cancelOutbound
  split
  · next stream _ => exact { fits with residue := fits.residue.cancel stream }
  · next stream _ => exact { fits with residue := fits.residue.cancel stream }
  · exact fits

theorem requestStream (fits : left.Fits client)
    (wanted : (client.withPast left).wantsStream = true) :
    Client.Echoes left.past (client.withPast left) client .requestStream .requestStream := by
  have wants : client.wantsStream = true := by
    rcases fits.streamWorker with same | ⟨starting, _⟩
    · have worker : (client.withPast left).streamWorker =
          client.streamWorker.withPast left.past := same
      rw [Client.wantsStream, worker] at wanted
      rw [Client.wantsStream]
      cases held : client.streamWorker with
      | starting => rfl
      | resting until_ =>
        rw [held] at wanted
        exact wanted
      | opening | reading | stopped =>
        rw [held] at wanted
        cases wanted
    · rw [Client.wantsStream, starting]
  have opened := CommandQueue.openStream_withPast fits.residue client.settings.requestOptions
  constructor
  case told => rfl
  case answer => rfl
  case after =>
    simp only [Client.perform, if_pos wanted, if_pos wants]
    refine ⟨{ left with
      streamWorker := .opening (left.past.streams + client.requestStream.1) }, rfl,
      { fits with residue := fits.residue.openStream _, streamWorker := .inl rfl }, ?_⟩
    exact congrArg (fun stream => ({ client.withPast left with
      queue := stream.2, streamWorker := .opening stream.1 } : Client)) opened

theorem openStream (fits : left.Fits client) :
    Client.Echoes left.past (client.withPast left) client .openStream .openStream := by
  constructor
  case told =>
    simp only [Client.perform]
    split <;> split <;> rfl
  case answer => rfl
  case after =>
    rcases fits.streamWorker with same | ⟨starting, until_, resting⟩
    · have worker : (client.withPast left).streamWorker =
          client.streamWorker.withPast left.past := same
      cases held : client.streamWorker with
      | opening stream =>
        rw [held] at worker
        simp only [Client.perform, worker, held, StreamWorker.withPast]
        exact ⟨{ left with streamWorker := .reading (left.past.streams + stream) }, rfl,
          { fits with streamWorker := .inl rfl }, rfl⟩
      | _ =>
        rw [held] at worker
        simp only [Client.perform, worker, held, StreamWorker.withPast]
        exact ⟨left, rfl, fits, rfl⟩
    · have worker : (client.withPast left).streamWorker = .resting until_ := resting
      simp only [Client.perform, worker, starting]
      exact ⟨left, rfl, fits, rfl⟩

theorem failStream (fits : left.Fits client) :
    Client.Echoes left.past (client.withPast left) client .failStream .failStream := by
  have serves : (client.withPast left).streamWorker.stream? =
      client.streamWorker.stream?.map (left.past.streams + ·) := fits.stream?
  cases served : client.streamWorker.stream? with
  | none =>
    rw [served, Option.map_none] at serves
    constructor
    case told => rw [Client.failStream_idle serves, Client.failStream_idle served]; rfl
    case answer => rfl
    case after =>
      rw [Client.failStream_idle serves, Client.failStream_idle served]
      exact ⟨left, rfl, fits, rfl⟩
  | some stream =>
    rw [served, Option.map_some] at serves
    constructor
    case told =>
      rw [Client.failStream_serving serves, Client.failStream_serving served,
        fits.cancelOutbound_withPast, Client.resetCache_withPast]
    case answer => rfl
    case after =>
      rw [Client.failStream_serving serves, Client.failStream_serving served,
        fits.cancelOutbound_withPast, Client.resetCache_withPast]
      exact ⟨{ left with streamWorker := .resting client.cancelOutbound.resetCache.2.pauseEnd },
        rfl, { fits.cancelOutbound with streamWorker := .inl rfl }, rfl⟩

theorem stopStreamWorker (fits : left.Fits client) :
    Client.Echoes left.past (client.withPast left) client .stopStreamWorker .stopStreamWorker := by
  constructor
  case told => rfl
  case answer => rfl
  case after =>
    by_cases closed : client.closed = true
    · simp only [Client.perform, Client.closed_withPast, closed, if_true]
      rcases fits.streamWorker with same | ⟨starting, until_, resting⟩
      · have worker : (client.withPast left).streamWorker =
            client.streamWorker.withPast left.past := same
        cases held : client.streamWorker with
        | opening stream =>
          rw [held] at worker
          simp only [Client.stopStreamWorker, worker, held, StreamWorker.withPast]
          refine ⟨{ left with streamWorker := .stopped }, rfl,
            { fits with residue := fits.residue.finish stream, streamWorker := .inl rfl }, ?_⟩
          exact congrArg (fun queue => ({ client.withPast left with
            queue, streamWorker := .stopped } : Client))
            (CommandQueue.finish_withPast fits.residue stream)
        | reading stream =>
          rw [held] at worker
          simp only [Client.stopStreamWorker, worker, held, StreamWorker.withPast]
          refine ⟨{ left with streamWorker := .stopped }, rfl,
            { fits with residue := fits.residue.cancel stream, streamWorker := .inl rfl }, ?_⟩
          exact congrArg (fun queue => ({ client.withPast left with
            queue, streamWorker := .stopped } : Client))
            (CommandQueue.cancel_withPast fits.residue stream)
        | _ =>
          rw [held] at worker
          simp only [Client.stopStreamWorker, worker, held, StreamWorker.withPast]
          exact ⟨{ left with streamWorker := .stopped }, rfl,
            { fits with streamWorker := .inl rfl }, rfl⟩
      · have worker : (client.withPast left).streamWorker = .resting until_ := resting
        simp only [Client.stopStreamWorker, worker, starting]
        exact ⟨{ left with streamWorker := .stopped }, rfl,
          { fits with streamWorker := .inl rfl }, rfl⟩
    · simp only [Client.perform, Client.closed_withPast, closed]
      exact ⟨left, rfl, fits, rfl⟩

end Aftermath.Fits

/-! ## Sweep workers -/

/-- Whether a section is a move of the sweep worker. -/
def Section.isSweeping : Section → Bool
  | .startSweeps | .scheduleSweep | .stopSweepWorker => true
  | _ => false

namespace Client

private theorem perform_sweeping (client : Client) {act : Section}
    (sweeping : act.isSweeping = true) :
    client.perform act =
      ([], { client with sweepWorker := (client.perform act).2.sweepWorker }) := by
  cases act with
  | startSweeps | scheduleSweep =>
    simp only [perform]
    split <;> rfl
  | stopSweepWorker =>
    simp only [perform, stopSweepWorker]
    split
    · split <;> rfl
    · rfl
  | _ => cases sweeping

private theorem startSweepWorker_counting {client : Client}
    (counts : client.clock.canAwait client.settings.cleanupIntervalSeconds.toNat = true) :
    client.startSweepWorker = .sleeping (client.clock.elapsed + client.sweepPeriod) := by
  rw [startSweepWorker, if_pos counts]

/-- A sweep worker that the clock counts for does not fail, and stops for a closed client only. -/
private theorem sweepWorker_perform {client : Client} {act : Section}
    (sweeping : act.isSweeping = true)
    (counts : act ≠ .scheduleSweep →
      client.clock.canAwait client.settings.cleanupIntervalSeconds.toNat = true)
    (unfailed : client.sweepWorker ≠ .failed) :
    (client.perform act).2.sweepWorker ≠ .failed ∧
      ((client.perform act).2.sweepWorker = .stopped ↔
        client.sweepWorker = .stopped ∨ act = .stopSweepWorker ∧ client.closed = true) := by
  cases act with
  | startSweeps =>
    have starts := startSweepWorker_counting (counts (by simp))
    simp only [perform]
    cases worker : client.sweepWorker <;> simp_all
  | scheduleSweep =>
    simp only [perform]
    cases worker : client.sweepWorker <;> simp_all
  | stopSweepWorker =>
    have starts := startSweepWorker_counting (counts (by simp))
    simp only [perform]
    by_cases closed : client.closed = true
    · simp only [closed, if_true, stopSweepWorker]
      cases worker : client.sweepWorker <;> simp_all
    · simp_all
  | _ => cases sweeping

theorem echoes_of_sweeping (fits : left.Fits client) {act : Section}
    (sweeping : act.isSweeping = true)
    (counts : act ≠ .scheduleSweep →
      client.clock.canAwait client.settings.cleanupIntervalSeconds.toNat = true) :
    Echoes left.past (client.withPast left) client act act := by
  have carrier := perform_sweeping (client.withPast left) sweeping
  have fresh := perform_sweeping client sweeping
  obtain ⟨unfailed, stopped⟩ := sweepWorker_perform sweeping
    (show act ≠ .scheduleSweep → (client.withPast left).clock.canAwait
      (client.withPast left).settings.cleanupIntervalSeconds.toNat = true from counts)
    (show (client.withPast left).sweepWorker ≠ .failed from fits.unfailed.1)
  obtain ⟨unfailedFresh, stoppedFresh⟩ := sweepWorker_perform sweeping counts fits.unfailed.2
  constructor
  case told =>
    rw [carrier, fresh]
    rfl
  case answer => cases act <;> first | rfl | cases sweeping
  case after =>
    rw [carrier, fresh]
    refine ⟨{ left with
      sweepWorker := ((client.withPast left).perform act).2.sweepWorker }, rfl,
      { fits with unfailed := ⟨unfailed, unfailedFresh⟩, stopped := ?_ }, rfl⟩
    exact stopped.trans ((or_congr_left fits.stopped).trans stoppedFresh.symm)

end Client

namespace Aftermath.Fits

theorem finishClose (fits : left.Fits client) :
    Client.Echoes left.past (client.withPast left) client .finishClose .finishClose := by
  have reset := client.resetCache_withPast left
  have streamWorker : (left.streamWorker == .stopped) = (client.streamWorker == .stopped) := by
    rcases fits.streamWorker with same | ⟨starting, until_, resting⟩
    · rw [same]
      cases client.streamWorker <;> rfl
    · rw [starting, resting]
      rfl
  have sweepWorker : (left.sweepWorker == .stopped) = (client.sweepWorker == .stopped) := by
    rw [Bool.eq_iff_iff, beq_iff_eq, beq_iff_eq]
    exact fits.stopped
  have due : ((client.withPast left).closed && (client.withPast left).streamWorker == .stopped &&
        (client.withPast left).sweepWorker == .stopped) =
      (client.closed && client.streamWorker == .stopped && client.sweepWorker == .stopped) := by
    simp only [Client.withPast, streamWorker, sweepWorker]
  have answers : (client.withPast left).finishClose.1 = client.finishClose.1 := by
    have unfailed : (client.withPast left).sweepWorker ≠ .failed := fits.unfailed.1
    rw [Client.finishClose, if_neg unfailed, Client.finishClose, if_neg fits.unfailed.2]
  constructor
  case told =>
    simp only [Client.perform, due, reset]
    split <;> rfl
  case answer => exact congrArg SectionAnswer.closed answers
  case after =>
    simp only [Client.perform, due, reset]
    split
    · exact ⟨left, rfl, { fits with }, rfl⟩
    · exact ⟨left, rfl, fits, rfl⟩

/-! ## Polls -/

/-- The residue stands in no line when nothing of the past does. -/
theorem clear (fits : left.Fits client)
    (line : ∀ stream ∈ (client.withPast left).queue.line, left.past.streams ≤ stream) :
    left.residue.holder = none ∧ left.residue.waiting = [] := by
  constructor
  · cases held : left.residue.holder with
    | none => rfl
    | some stream =>
      have old := fits.residue.holder stream held
      have member : stream ∈ (client.withPast left).queue.line := by
        simp [CommandQueue.line, Client.withPast, CommandQueue.withPast, held]
      exact absurd (line stream member) (Nat.not_le.mpr old)
  · refine List.eq_nil_iff_forall_not_mem.mpr (fun stream waits => ?_)
    have old := fits.residue.waiting stream waits
    have member : stream ∈ (client.withPast left).queue.line := by
      simp [CommandQueue.line, Client.withPast, CommandQueue.withPast, waits]
    exact absurd (line stream member) (Nat.not_le.mpr old)

theorem poll (fits : left.Fits client) {stream : Nat} (new : left.past.streams ≤ stream)
    (line : ∀ other ∈ (client.withPast left).queue.line, left.past.streams ≤ other) :
    Client.Echoes left.past (client.withPast left) client (.poll stream)
      (.poll (stream - left.past.streams)) := by
  obtain ⟨rest, restFits, polled⟩ := CommandQueue.poll_withPast fits.residue (fits.clear line)
    (stream - left.past.streams) client.cache.generation
  rw [Nat.add_sub_cancel' new] at polled
  constructor
  case told => rfl
  case answer => exact congrArg (fun result => SectionAnswer.polled result.1) polled
  case after =>
    refine ⟨{ left with residue := rest }, rfl, { fits with residue := restFits }, ?_⟩
    exact congrArg (fun result => ({ client.withPast left with queue := result.2 } : Client)) polled

theorem dropStream (fits : left.Fits client) {stream : Nat} (new : left.past.streams ≤ stream) :
    Client.Echoes left.past (client.withPast left) client (.dropStream stream)
      (.dropStream (stream - left.past.streams)) := by
  have dropped := CommandQueue.finish_withPast fits.residue (stream - left.past.streams)
  rw [Nat.add_sub_cancel' new] at dropped
  constructor
  case told => rfl
  case answer => rfl
  case after =>
    refine ⟨left, rfl, { fits with residue := fits.residue.finish _ }, ?_⟩
    exact congrArg (fun queue => ({ client.withPast left with queue } : Client)) dropped

end Aftermath.Fits

namespace Client.Resumes

variable {past : Past} {left right : Client}

/-- A section goes the same way on a client with a past as its counterpart on a new one. -/
theorem step (resumes : left.Resumes past right) {act counterpart : Section}
    (corresponds : past.counterpart? act = some counterpart)
    (timely : left.inTime past act = true) : Echoes past left right act counterpart := by
  obtain ⟨aftermath, rfl, fits, rfl⟩ := resumes
  cases act with
  | poll stream =>
    simp only [Past.counterpart?] at corresponds
    split at corresponds
    · cases corresponds
    · next new =>
      cases corresponds
      refine fits.poll (Nat.not_lt.mp new) ?_
      simpa [inTime, new] using timely
  | dropStream stream =>
    simp only [Past.counterpart?] at corresponds
    split at corresponds
    · cases corresponds
    · next new =>
      cases corresponds
      exact fits.dropStream (Nat.not_lt.mp new)
  | watch | unwatch | beginRead | finishRead | reply | sweep =>
    cases corresponds
    exact echoes_of_work fits rfl
  | requestStream =>
    cases corresponds
    exact fits.requestStream timely
  | openStream =>
    cases corresponds
    exact fits.openStream
  | cancelStream =>
    cases corresponds
    exact ⟨rfl, rfl, aftermath, rfl, fits.cancelOutbound, fits.cancelOutbound_withPast⟩
  | failStream =>
    cases corresponds
    exact fits.failStream
  | startSweeps | stopSweepWorker =>
    cases corresponds
    exact echoes_of_sweeping fits rfl (fun _ => timely)
  | scheduleSweep =>
    cases corresponds
    exact echoes_of_sweeping fits rfl (fun other => absurd rfl other)
  | stopStreamWorker =>
    cases corresponds
    exact fits.stopStreamWorker
  | finishClose =>
    cases corresponds
    exact fits.finishClose
  | beginClose =>
    cases corresponds
    exact ⟨rfl, rfl, aftermath, rfl, { fits with }, rfl⟩
  | note note =>
    cases corresponds
    exact ⟨rfl, rfl, { aftermath with
      journal := aftermath.journal ++ [⟨note.label, note.registration, note.observation⟩] }, rfl,
      { fits with }, rfl⟩
  | setClock clock =>
    cases corresponds
    exact ⟨rfl, rfl, aftermath, rfl, { fits with }, rfl⟩

/-- A section without a counterpart tells nobody, sends nothing, and may be left out. -/
theorem skip (resumes : left.Resumes past right) {act : Section}
    (alone : past.counterpart? act = none) :
    (left.perform act).1 = [] ∧ (left.answer act).sent = none ∧
      Resumes past (left.perform act).2 right := by
  obtain ⟨aftermath, rfl, fits, rfl⟩ := resumes
  cases act with
  | poll stream =>
    simp only [Past.counterpart?] at alone
    split at alone
    · next old =>
      obtain ⟨silent, rest, restFits, polled⟩ := CommandQueue.poll_past fits.residue old
        ((right.withPast aftermath).cache.generation)
      refine ⟨rfl, silent, { aftermath with residue := rest }, rfl,
        { fits with residue := restFits }, ?_⟩
      exact congrArg (fun queue => ({ right.withPast aftermath with queue } : Client)) polled
    · cases alone
  | dropStream stream =>
    simp only [Past.counterpart?] at alone
    split at alone
    · next old =>
      obtain ⟨rest, restFits, dropped⟩ := CommandQueue.finish_past fits.residue old
      refine ⟨rfl, rfl, { aftermath with residue := rest }, rfl,
        { fits with residue := restFits }, ?_⟩
      exact congrArg (fun queue => ({ right.withPast aftermath with queue } : Client)) dropped
    · cases alone
  | _ => cases alone

end Client.Resumes

end ConfigWatch

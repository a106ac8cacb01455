import ConfigWatch.Proofs.Client.Coherence
import Mathlib.Order.Nat

/-!
# What was sent

Commands wait in the queue until a poll of a live stream sends them, and at most one stream is
live: the one that the stream worker asked for last. So everything that was issued under the
present generation was sent on that stream or still waits, in the order in which it was issued.
A poll is one step of a run: the generation that it compares stamps with is the present one until
the command is sent.
-/

set_option autoImplicit false

namespace ConfigWatch

namespace Occurrence

/-- The commands that a section issued. -/
def issued (occurrence : Occurrence) : List Command :=
  occurrence.opened.toList.map (fun place => .subscribe place.1 place.2.1 place.2.2) ++
    occurrence.removed.toList.map (fun place => .subscribe place.1 place.2.1 place.2.2) ++
    occurrence.swept.map .unsubscribe

theorem issued_eq_nil {occurrence : Occurrence} (opened : occurrence.opened = none)
    (removed : occurrence.removed = none) (swept : occurrence.swept = []) :
    occurrence.issued = [] := by
  simp [issued, opened, removed, swept]

theorem issued_watch (client : Client) (space : NamespaceKey) (key : DocumentKey)
    (watcher : Option (String × Reaction)) :
    issued ⟨client, .watch space key watcher⟩ =
      if client.cache.recordAt? space key = none then
        [.subscribe client.cache.nextSubscription space key]
      else [] := by
  cases found : client.cache.recordAt? space key <;> simp [issued, opened, removed, swept, found]

theorem issued_reply {client : Client} {reply : WatchResponse} {space : NamespaceKey}
    {key : DocumentKey} (index : client.cache.bySubscription.get? reply.uid = some (space, key)) :
    issued ⟨client, .reply reply⟩ =
      if ReplyStatus.ofWatchCode reply.status = .removed then
        [.subscribe reply.uid space key]
      else [] := by
  by_cases outcome : ReplyStatus.ofWatchCode reply.status = .removed <;>
    simp [issued, opened, removed, swept, index, outcome]

theorem issued_sweep {client : Client} {moment limit : Instant}
    (reached : client.clock.before? moment client.settings.inactivityThresholdSeconds.toNat =
      some limit) :
    issued ⟨client, .sweep moment⟩ =
      (client.cache.idleSubscriptions limit).map .unsubscribe := by
  simp [issued, opened, removed, swept, reached]

/-- Every command goes out on a live stream, and under the stamp of the generation that is present
then. -/
theorem sent_live {occurrence : Occurrence} {stream : Nat} {stamped : StampedCommand}
    (sent : occurrence.sent = some (stream, stamped)) :
    stamped.generation = occurrence.generation ∧ occurrence.before.queue.Live stream := by
  obtain ⟨before, act⟩ := occurrence
  cases act with
  | poll stream =>
    simp only [Occurrence.sent, Option.map_eq_some_iff, Prod.mk.injEq] at sent
    obtain ⟨_, out, rfl, rfl⟩ := sent
    have effect := before.queue.polls stream before.cache.generation
    exact ⟨effect.stamp _ out, effect.live _ out⟩
  | _ => cases sent

end Occurrence

namespace Client

/-- What a section does to the queue when streams and generation stay as they are. -/
structure Keeps (client : Client) (act : Section) (after : Client) : Prop where
  sent : ∀ stream stamped, Occurrence.sent ⟨client, act⟩ = some (stream, stamped) →
    stamped.generation = client.cache.generation ∧ client.queue.Live stream
  commands :
    commandsOf client.cache.generation
        (((Occurrence.sent ⟨client, act⟩).map Prod.snd).toList ++ after.queue.commands) =
      commandsOf client.cache.generation client.queue.commands ++ Occurrence.issued ⟨client, act⟩
  waiting : ∀ stamped ∈ after.queue.commands,
    stamped ∈ client.queue.commands ∨ stamped.generation = client.cache.generation
  length : after.queue.streams.length = client.queue.streams.length
  live : ∀ stream, after.queue.Live stream → client.queue.Live stream
  stream : after.streamWorker.stream? = client.streamWorker.stream?
  waits : after.streamWorker.waits = client.streamWorker.waits
  generation : after.cache.generation = client.cache.generation

/-- What a section does to the queue when it parts with the stream of the worker, if there is
one. -/
structure Parts (client : Client) (act : Section) (after : Client) : Prop where
  sent : Occurrence.sent ⟨client, act⟩ = none
  issued : Occurrence.issued ⟨client, act⟩ = []
  commands : after.queue.commands = client.queue.commands
  length : after.queue.streams.length = client.queue.streams.length
  live : ∀ stream, after.queue.Live stream →
    client.queue.Live stream ∧ client.streamWorker.stream? ≠ some stream
  stream : after.streamWorker.stream? = none

/-- What a section can do to the queue and the streams. -/
inductive Moves (client : Client) (act : Section) (after : Client) : Prop where
  | keeps : Keeps client act after → Moves client act after
  | requests :
      Occurrence.sent ⟨client, act⟩ = none → Occurrence.issued ⟨client, act⟩ = [] →
      client.streamWorker.waits = true →
      after = { client with
        queue := (client.queue.openStream client.settings.requestOptions).2
        streamWorker := .opening client.queue.streams.length } →
      Moves client act after
  | stops : Parts client act after → after.streamWorker.waits = false →
      after.cache.generation = client.cache.generation → Moves client act after
  | resets : Parts client act after →
      after.cache.generation = client.cache.generation + 1 → Moves client act after

private theorem Keeps.of_streams {client after : Client} {act : Section}
    (sent : Occurrence.sent ⟨client, act⟩ = none) (issued : Occurrence.issued ⟨client, act⟩ = [])
    (commands : after.queue.commands = client.queue.commands)
    (length : after.queue.streams.length = client.queue.streams.length)
    (live : ∀ stream, after.queue.Live stream → client.queue.Live stream)
    (stream : after.streamWorker.stream? = client.streamWorker.stream?)
    (waits : after.streamWorker.waits = client.streamWorker.waits)
    (generation : after.cache.generation = client.cache.generation) :
    Keeps client act after where
  sent stream stamped same := by
    rw [sent] at same
    cases same
  commands := by simp [sent, issued, commands]
  waiting stamped member := .inl (commands ▸ member)
  length := length
  live := live
  stream := stream
  waits := waits
  generation := generation

private theorem Keeps.of_same {client after : Client} {act : Section}
    (sent : Occurrence.sent ⟨client, act⟩ = none) (issued : Occurrence.issued ⟨client, act⟩ = [])
    (queue : after.queue = client.queue) (worker : after.streamWorker = client.streamWorker)
    (generation : after.cache.generation = client.cache.generation) :
    Keeps client act after :=
  Keeps.of_streams sent issued (by rw [queue]) (by rw [queue]) (fun _ live => queue ▸ live)
    (by rw [worker]) (by rw [worker]) generation

private theorem Keeps.of_issued {client after : Client} {act : Section}
    (sent : Occurrence.sent ⟨client, act⟩ = none)
    (queue : after.queue = { client.queue with
      commands := client.queue.commands ++
        (Occurrence.issued ⟨client, act⟩).map (fun command =>
          ⟨client.cache.generation, command⟩) })
    (worker : after.streamWorker = client.streamWorker)
    (generation : after.cache.generation = client.cache.generation) :
    Keeps client act after where
  sent stream stamped same := by
    rw [sent] at same
    cases same
  commands := by
    have stamped (commands : List Command) :
        commandsOf client.cache.generation
          (commands.map (fun command => ⟨client.cache.generation, command⟩)) = commands := by
      simp [commandsOf, List.filter_map, Function.comp_def]
    rw [sent, queue]
    simp only [Option.map_none, Option.toList_none, List.nil_append]
    rw [commandsOf_append, stamped]
  waiting stamped member := by
    rw [queue] at member
    rcases List.mem_append.mp member with old | new
    · exact .inl old
    · obtain ⟨command, _, rfl⟩ := List.mem_map.mp new
      exact .inr rfl
  length := by rw [queue]
  live stream live := by
    rw [queue] at live
    exact live
  stream := by rw [worker]
  waits := by rw [worker]
  generation := generation

private theorem watch_keeps (client : Client) (space : NamespaceKey) (key : DocumentKey)
    (watcher : Option (String × Reaction)) :
    Keeps client (.watch space key watcher) (client.perform (.watch space key watcher)).2 := by
  obtain ⟨initial, after, result, effect⟩ := perform_watch client space key watcher
  rw [result]
  refine Keeps.of_issued rfl ?_ effect.outside.streamWorker effect.generation
  rw [effect.queue, Occurrence.issued_watch]
  split
  · rfl
  · simp

private theorem reply_keeps {client : Client} (indexed : client.cache.Indexed)
    (reply : WatchResponse) :
    Keeps client (.reply reply) (client.perform (.reply reply)).2 := by
  cases index : client.cache.bySubscription.get? reply.uid with
  | none =>
    simp only [perform, applyReply_unknown index]
    exact Keeps.of_same rfl (Occurrence.issued_eq_nil rfl (by simp [Occurrence.removed, index]) rfl)
      rfl rfl rfl
  | some place =>
    obtain ⟨space, key⟩ := place
    obtain ⟨record, located, _, active⟩ := indexed.located? index
    have effect := replies located active
    refine Keeps.of_issued rfl ?_ effect.outside.streamWorker effect.generation
    rw [Occurrence.issued_reply index]
    refine effect.queue.trans ?_
    split
    · rfl
    · simp

private theorem sweep_keeps (client : Client) (moment : Instant) :
    Keeps client (.sweep moment) (client.perform (.sweep moment)).2 := by
  cases reached : client.clock.before? moment
      client.settings.inactivityThresholdSeconds.toNat with
  | none =>
    simp only [perform, sweepAt_unreached reached]
    exact Keeps.of_same rfl (Occurrence.issued_eq_nil rfl rfl (by simp [Occurrence.swept, reached]))
      rfl rfl rfl
  | some limit =>
    simp only [perform, sweepAt_eq reached]
    refine Keeps.of_issued rfl ?_ rfl rfl
    rw [Occurrence.issued_sweep reached, List.map_map]
    rfl

private theorem poll_keeps (client : Client) (stream : Nat) :
    Keeps client (.poll stream) (client.perform (.poll stream)).2 := by
  have effect := client.queue.polls stream client.cache.generation
  have sent : (Occurrence.sent ⟨client, .poll stream⟩).map Prod.snd =
      (client.queue.poll stream client.cache.generation).1.sent := by
    simp [Occurrence.sent, Occurrence.generation, Function.comp_def]
  refine ⟨fun _ _ same => Occurrence.sent_live same, ?_, fun stamped member => ?_,
    effect.streams, effect.noneRevived, rfl, rfl, rfl⟩
  · rw [sent, Occurrence.issued_eq_nil rfl rfl rfl, List.append_nil]
    exact effect.commands
  · exact .inl (effect.waiting.subset member)

theorem moves {client : Client} (indexed : client.cache.Indexed) (act : Section) :
    Moves client act (client.perform act).2 := by
  cases act with
  | watch space key watcher => exact .keeps (watch_keeps client space key watcher)
  | unwatch subscription watcher =>
    have effect := unwatches client subscription watcher
    exact .keeps (Keeps.of_same rfl rfl effect.queue effect.outside.streamWorker effect.generation)
  | beginRead space key pinned =>
    obtain ⟨cache, clock, read, same⟩ :=
      beginRead_effect { client with closed := false } space key pinned
    simp only [perform, read]
    exact .keeps (Keeps.of_same rfl rfl rfl rfl same.generation)
  | finishRead pending response =>
    obtain ⟨cache, clock, read, same⟩ := finishRead_effect client pending response
    simp only [perform, read]
    exact .keeps (Keeps.of_same rfl rfl rfl rfl same.generation)
  | reply reply => exact .keeps (reply_keeps indexed reply)
  | requestStream =>
    simp only [perform]
    split
    · next wanted =>
      refine .requests rfl rfl ?_ rfl
      unfold wantsStream at wanted
      split at wanted
      · next worker => rw [worker]; rfl
      · next worker => rw [worker]; rfl
      · cases wanted
    · exact .keeps (Keeps.of_same rfl rfl rfl rfl rfl)
  | openStream =>
    simp only [perform]
    split
    · next stream worker =>
      exact .keeps (Keeps.of_streams rfl rfl rfl rfl (fun _ live => live) (by rw [worker]; rfl)
        (by rw [worker]; rfl) rfl)
    · exact .keeps (Keeps.of_same rfl rfl rfl rfl rfl)
  | cancelStream =>
    simp only [perform, cancelOutbound]
    split
    · exact .keeps (Keeps.of_streams rfl rfl rfl (List.length_modify ..)
        (fun _ live => (CommandQueue.live_of_cancel live).1) rfl rfl rfl)
    · exact .keeps (Keeps.of_streams rfl rfl rfl (List.length_modify ..)
        (fun _ live => (CommandQueue.live_of_cancel live).1) rfl rfl rfl)
    · exact .keeps (Keeps.of_same rfl rfl rfl rfl rfl)
  | failStream =>
    -- The stream that the worker serves is cancelled, so it is not live any more.
    have cancelled {stream : Nat} (serving : client.streamWorker.stream? = some stream) :
        ∀ other, (client.queue.cancel stream).Live other →
          client.queue.Live other ∧ client.streamWorker.stream? ≠ some other := by
      intro other live
      obtain ⟨before, differs⟩ := CommandQueue.live_of_cancel live
      exact ⟨before, fun same => differs (Option.some.inj (same.symm.trans serving))⟩
    simp only [perform]
    split
    · next stream worker =>
      simp only [cancelOutbound, worker]
      exact .resets ⟨rfl, rfl, rfl, List.length_modify .., cancelled (by rw [worker]; rfl), rfl⟩ rfl
    · next stream worker =>
      simp only [cancelOutbound, worker]
      exact .resets ⟨rfl, rfl, rfl, List.length_modify .., cancelled (by rw [worker]; rfl), rfl⟩ rfl
    · exact .keeps (Keeps.of_same rfl rfl rfl rfl rfl)
  | sweep moment => exact .keeps (sweep_keeps client moment)
  | poll stream => exact .keeps (poll_keeps client stream)
  | dropStream stream =>
    exact .keeps (Keeps.of_streams rfl rfl (CommandQueue.commands_finish ..)
      (by simp [perform, CommandQueue.streams_finish])
      (fun _ live => (CommandQueue.live_of_finish live).1) rfl rfl rfl)
  | stopStreamWorker =>
    simp only [perform, stopStreamWorker]
    split
    · split
      · next stream worker =>
        refine .stops ⟨rfl, rfl, CommandQueue.commands_finish .., ?_, fun other live => ?_, rfl⟩
          rfl rfl
        · simp [CommandQueue.streams_finish]
        · obtain ⟨before, differs⟩ := CommandQueue.live_of_finish live
          rw [worker]
          exact ⟨before, fun same => differs (Option.some.inj same).symm⟩
      · next stream worker =>
        refine .stops ⟨rfl, rfl, rfl, List.length_modify .., fun other live => ?_, rfl⟩ rfl rfl
        obtain ⟨before, differs⟩ := CommandQueue.live_of_cancel live
        rw [worker]
        exact ⟨before, fun same => differs (Option.some.inj same).symm⟩
      · next idleOpening idleReading =>
        refine .stops ⟨rfl, rfl, rfl, rfl, fun other live => ⟨live, ?_⟩, rfl⟩ rfl rfl
        cases worker : client.streamWorker with
        | opening stream => exact absurd worker (idleOpening stream)
        | reading stream => exact absurd worker (idleReading stream)
        | starting | resting | stopped => simp [StreamWorker.stream?]
    · exact .keeps (Keeps.of_same rfl rfl rfl rfl rfl)
  | finishClose =>
    simp only [perform]
    split
    · next finished =>
      have worker : client.streamWorker = .stopped := by
        simp only [Bool.and_eq_true, beq_iff_eq] at finished
        exact finished.1.2
      refine .resets ⟨rfl, rfl, rfl, rfl, fun other live => ⟨live, ?_⟩, ?_⟩ rfl
      · simp [worker, StreamWorker.stream?]
      · simp [resetCache, worker, StreamWorker.stream?]
    · exact .keeps (Keeps.of_same rfl rfl rfl rfl rfl)
  | startSweeps | scheduleSweep =>
    simp only [perform]
    split <;> exact .keeps (Keeps.of_same rfl rfl rfl rfl rfl)
  | stopSweepWorker =>
    simp only [perform, stopSweepWorker]
    split
    · split <;> exact .keeps (Keeps.of_same rfl rfl rfl rfl rfl)
    · exact .keeps (Keeps.of_same rfl rfl rfl rfl rfl)
  | beginClose | note | setClock => exact .keeps (Keeps.of_same rfl rfl rfl rfl rfl)

end Client

/-! ## Runs -/

/-- What a run sent, with the streams that it went out on. -/
def emitted (history : List Occurrence) : List (Nat × StampedCommand) :=
  history.filterMap Occurrence.sent

theorem emitted_snoc (history : List Occurrence) (occurrence : Occurrence) :
    emitted (history ++ [occurrence]) = emitted history ++ occurrence.sent.toList := by
  rw [emitted, List.filterMap_append]
  cases sent : occurrence.sent <;> simp [emitted, sent]

/-- At most one stream is live, the one that the worker serves; it was opened last, and whatever
went out on it or went out under the present generation is both. -/
structure Streaming (history : List Occurrence) (client : Client) : Prop where
  live : ∀ stream, client.queue.Live stream → client.streamWorker.stream? = some stream
  last : ∀ stream, client.streamWorker.stream? = some stream →
    stream + 1 = client.queue.streams.length
  known : ∀ stream stamped, (stream, stamped) ∈ emitted history →
    stream < client.queue.streams.length ∧ stamped.generation ≤ client.cache.generation
  present : ∀ stream stamped, (stream, stamped) ∈ emitted history →
    stamped.generation = client.cache.generation →
      stream + 1 = client.queue.streams.length ∧ client.streamWorker.waits = false
  serving : ∀ stream stamped, (stream, stamped) ∈ emitted history →
    client.streamWorker.stream? = some stream → stamped.generation = client.cache.generation
  waiting : ∀ stamped ∈ client.queue.commands, stamped.generation ≤ client.cache.generation
  past : ∀ occurrence ∈ history, occurrence.generation ≤ client.cache.generation

private theorem past_snoc {history : List Occurrence} {client after : Client} {act : Section}
    (streaming : Streaming history client)
    (later : client.cache.generation ≤ after.cache.generation) :
    ∀ occurrence ∈ history ++ [⟨client, act⟩],
      occurrence.generation ≤ after.cache.generation := by
  intro occurrence member
  rcases List.mem_append.mp member with old | new
  · exact (streaming.past occurrence old).trans later
  · obtain rfl := List.mem_singleton.mp new
    exact later

private theorem Client.Keeps.streaming {history : List Occurrence} {client after : Client}
    {act : Section} (effect : client.Keeps act after) (streaming : Streaming history client) :
    Streaming (history ++ [⟨client, act⟩]) after := by
  have member {stream : Nat} {stamped : StampedCommand}
      (out : (stream, stamped) ∈ emitted (history ++ [⟨client, act⟩])) :
      (stream, stamped) ∈ emitted history ∨
        stamped.generation = client.cache.generation ∧ client.queue.Live stream := by
    rw [emitted_snoc] at out
    rcases List.mem_append.mp out with old | new
    · exact .inl old
    · exact .inr (effect.sent stream stamped (Option.mem_toList.mp new))
  refine ⟨fun stream live => ?_, fun stream serves => ?_, fun stream stamped out => ?_,
    fun stream stamped out now => ?_, fun stream stamped out serves => ?_,
    fun stamped waits => ?_, past_snoc streaming effect.generation.ge⟩
  · rw [effect.stream]
    exact streaming.live stream (effect.live stream live)
  · rw [effect.stream] at serves
    rw [effect.length]
    exact streaming.last stream serves
  · rw [effect.length, effect.generation]
    rcases member out with old | ⟨now, live⟩
    · exact streaming.known stream stamped old
    · exact ⟨live.lt, now.le⟩
  · rw [effect.generation] at now
    rw [effect.length, effect.waits]
    rcases member out with old | ⟨_, live⟩
    · exact streaming.present stream stamped old now
    · have serves := streaming.live stream live
      refine ⟨streaming.last stream serves, ?_⟩
      cases worker : client.streamWorker <;> simp [worker, StreamWorker.stream?] at serves <;> rfl
  · rw [effect.stream] at serves
    rw [effect.generation]
    rcases member out with old | ⟨now, _⟩
    · exact streaming.serving stream stamped old serves
    · exact now
  · rw [effect.generation]
    rcases effect.waiting stamped waits with old | now
    · exact streaming.waiting stamped old
    · exact now.le

private theorem Client.Parts.streaming {history : List Occurrence} {client after : Client}
    {act : Section} (effect : client.Parts act after) (streaming : Streaming history client)
    (later : client.cache.generation ≤ after.cache.generation)
    (present : ∀ stream stamped, (stream, stamped) ∈ emitted history →
      stamped.generation = after.cache.generation →
        stream + 1 = client.queue.streams.length ∧ after.streamWorker.waits = false) :
    Streaming (history ++ [⟨client, act⟩]) after := by
  have same : emitted (history ++ [⟨client, act⟩]) = emitted history := by
    rw [emitted_snoc, effect.sent, Option.toList_none, List.append_nil]
  refine ⟨fun stream live => ?_, fun stream serves => ?_, fun stream stamped out => ?_,
    fun stream stamped out now => ?_, fun stream stamped out serves => ?_,
    fun stamped waits => ?_, past_snoc streaming later⟩
  · obtain ⟨before, differs⟩ := effect.live stream live
    exact absurd (streaming.live stream before) differs
  · rw [effect.stream] at serves
    cases serves
  · rw [same] at out
    rw [effect.length]
    obtain ⟨opened, old⟩ := streaming.known stream stamped out
    exact ⟨opened, old.trans later⟩
  · rw [same] at out
    rw [effect.length]
    exact present stream stamped out now
  · rw [effect.stream] at serves
    cases serves
  · rw [effect.commands] at waits
    exact (streaming.waiting stamped waits).trans later

private theorem Streaming.step {history : List Occurrence} {client : Client}
    (indexed : client.cache.Indexed) (streaming : Streaming history client) (act : Section) :
    Streaming (history ++ [⟨client, act⟩]) (client.perform act).2 := by
  have step := client.moves indexed act
  generalize (client.perform act).2 = after at step
  cases step with
  | keeps effect => exact effect.streaming streaming
  | requests sent issued waits result =>
    subst result
    have same : emitted (history ++ [⟨client, act⟩]) = emitted history := by
      rw [emitted_snoc, sent, Option.toList_none, List.append_nil]
    have idle (stream : Nat) : client.streamWorker.stream? ≠ some stream := by
      cases worker : client.streamWorker <;> simp [worker, StreamWorker.waits] at waits <;>
        simp [StreamWorker.stream?]
    have length : (client.queue.openStream client.settings.requestOptions).2.streams.length =
        client.queue.streams.length + 1 := List.length_append
    refine ⟨fun stream live => ?_, fun stream serves => ?_, fun stream stamped out => ?_,
      fun stream stamped out now => ?_, fun stream stamped out serves => ?_,
      streaming.waiting, past_snoc streaming le_rfl⟩
    · have bound := live.lt
      dsimp only at bound
      rw [length] at bound
      by_cases old : stream < client.queue.streams.length
      · obtain ⟨state, found, kept, unended⟩ := live
        simp only [CommandQueue.openStream] at found
        rw [List.getElem?_append_left old] at found
        exact absurd (streaming.live stream ⟨state, found, kept, unended⟩) (idle stream)
      · have new : stream = client.queue.streams.length := by omega
        rw [new]
        rfl
    · cases serves
      exact length.symm
    · rw [same] at out
      obtain ⟨opened, old⟩ := streaming.known stream stamped out
      exact ⟨by dsimp only; omega, old⟩
    · rw [same] at out
      obtain ⟨_, started⟩ := streaming.present stream stamped out now
      rw [waits] at started
      cases started
    · rw [same] at out
      cases serves
      exact absurd (streaming.known _ stamped out).1 (lt_irrefl _)
  | stops effect started generation =>
    refine effect.streaming streaming generation.ge (fun stream stamped out now => ?_)
    rw [generation] at now
    exact ⟨(streaming.present stream stamped out now).1, started⟩
  | resets effect generation =>
    -- Nothing was sent yet under the generation that starts now.
    refine effect.streaming streaming (by omega) (fun stream stamped out now => ?_)
    have old := (streaming.known stream stamped out).2
    omega

theorem Run.streaming {start client : Client} {history : List Occurrence} (fresh : start.Fresh)
    (run : Run start history client) : Streaming history client := by
  induction run with
  | start =>
    rw [fresh.eq]
    refine ⟨fun stream live => ?_, fun _ serves => (by cases serves), fun _ _ out => (by cases out),
      fun _ _ out => (by cases out), fun _ _ out => (by cases out), fun _ waits => (by cases waits),
      fun _ member => (by cases member)⟩
    have bound := live.lt
    simp at bound
  | step act run ih => exact ih.step (run.indexed fresh) act

/-! ## Commands of the present generation -/

/-- What a run sent on one stream. -/
def emittedOn (history : List Occurrence) (stream : Nat) : List StampedCommand :=
  ((emitted history).filter (fun out => decide (out.1 = stream))).map Prod.snd

/-- The commands of the present generation: those that went out on the stream that was opened
last, then those that wait. -/
def standing (history : List Occurrence) (client : Client) : List Command :=
  commandsOf client.cache.generation
    (emittedOn history (client.queue.streams.length - 1) ++ client.queue.commands)

/-- The sections that were carried out under the present generation. -/
def current (history : List Occurrence) (client : Client) : List Occurrence :=
  history.filter (fun occurrence => decide (occurrence.generation = client.cache.generation))

/-- The commands of the present generation that were sent, on whatever stream, or wait. -/
private def trail (history : List Occurrence) (client : Client) : List Command :=
  commandsOf client.cache.generation
    ((emitted history).map Prod.snd ++ client.queue.commands)

private theorem Streaming.standing_eq {history : List Occurrence} {client : Client}
    (streaming : Streaming history client) : standing history client = trail history client := by
  have same : commandsOf client.cache.generation
        (emittedOn history (client.queue.streams.length - 1)) =
      commandsOf client.cache.generation ((emitted history).map Prod.snd) := by
    rw [commandsOf, commandsOf, emittedOn, List.filter_map, List.filter_filter, List.filter_map]
    congr 2
    apply List.filter_congr
    intro out member
    by_cases now : out.2.generation = client.cache.generation
    · have last := (streaming.present out.1 out.2 member now).1
      have opened : out.1 = client.queue.streams.length - 1 := by omega
      simp [now, opened]
    · simp [now]
  rw [standing, trail, commandsOf_append, commandsOf_append, same]

theorem current_snoc {history : List Occurrence} {client after : Client} (act : Section)
    (generation : after.cache.generation = client.cache.generation) :
    current (history ++ [⟨client, act⟩]) after = current history client ++ [⟨client, act⟩] := by
  simp only [current, generation, List.filter_append]
  congr 1
  simp [Occurrence.generation]

theorem Streaming.current_reset {history : List Occurrence} {client after : Client}
    (streaming : Streaming history client) (act : Section)
    (generation : after.cache.generation = client.cache.generation + 1) :
    current (history ++ [⟨client, act⟩]) after = [] := by
  rw [current, List.filter_eq_nil_iff]
  intro occurrence member
  have past : occurrence.generation ≤ client.cache.generation :=
    past_snoc streaming le_rfl occurrence member
  simp only [decide_eq_true_eq]
  omega

private theorem Streaming.trail_step {history : List Occurrence} {client : Client}
    (indexed : client.cache.Indexed) (streaming : Streaming history client)
    (same : trail history client = (current history client).flatMap Occurrence.issued)
    (act : Section) :
    trail (history ++ [⟨client, act⟩]) (client.perform act).2 =
      (current (history ++ [⟨client, act⟩]) (client.perform act).2).flatMap
        Occurrence.issued := by
  have step := client.moves indexed act
  generalize (client.perform act).2 = after at step
  cases step with
  | keeps effect =>
    rw [current_snoc act effect.generation, List.flatMap_append, ← same, trail, emitted_snoc,
      effect.generation, List.map_append, List.append_assoc, commandsOf_append,
      ← Option.toList_map, effect.commands, ← List.append_assoc, ← commandsOf_append]
    simp [trail]
  | requests sent issued waits result =>
    have generation : after.cache.generation = client.cache.generation := by rw [result]
    have commands : after.queue.commands = client.queue.commands := by
      rw [result]
      rfl
    rw [current_snoc act generation, List.flatMap_append, ← same, trail, emitted_snoc, sent,
      commands, generation]
    simp [trail, issued]
  | stops effect started generation =>
    rw [current_snoc act generation, List.flatMap_append, ← same, trail, emitted_snoc,
      effect.sent, effect.commands, generation]
    simp [trail, effect.issued]
  | resets effect generation =>
    rw [streaming.current_reset act generation, trail, emitted_snoc, effect.sent, effect.commands]
    refine commandsOf_eq_nil (fun stamped member => ?_)
    have old : stamped.generation ≤ client.cache.generation := by
      simp only [Option.toList_none, List.append_nil] at member
      rcases List.mem_append.mp member with out | waits
      · obtain ⟨⟨stream, _⟩, sent, rfl⟩ := List.mem_map.mp out
        exact (streaming.known stream _ sent).2
      · exact streaming.waiting stamped waits
    omega

/-- The commands of the present generation are those that its sections issued, in their order. -/
theorem Run.standing_eq {start client : Client} {history : List Occurrence}
    (fresh : start.Fresh) (run : Run start history client) :
    standing history client = (current history client).flatMap Occurrence.issued := by
  rw [(run.streaming fresh).standing_eq]
  induction run with
  | start =>
    rw [fresh.eq]
    rfl
  | step act run ih => exact (run.streaming fresh).trail_step (run.indexed fresh) ih act

end ConfigWatch

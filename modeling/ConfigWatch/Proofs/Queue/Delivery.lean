import ConfigWatch.Proofs.Queue.Line

/-!
# Delivery of commands

Streams take commands from the front of the queue, one poll at a time, and send those that have
the stamp of the moment. So what was pushed is, in order, what was taken and what still waits; and
what was sent is, in order, what was taken in time. A cancelled stream takes nothing and leaves the
line for the lock; the last stream that runs has the lock and takes what there is to send.
-/

set_option autoImplicit false

namespace ConfigWatch

/-- A command that a stream took off the queue, and the generation of that moment. -/
structure Taking where
  stream : Nat
  options : RequestOptions
  generation : Nat
  stamped : StampedCommand

namespace Taking

/-- Whether the command was taken in time to be sent. A stale one is dropped. -/
def inTime (taking : Taking) : Bool := decide (taking.stamped.generation = taking.generation)

/-- The request that tells the server of the command. -/
def request (taking : Taking) : WatchRequest := taking.stamped.command.toRequest taking.options

end Taking

namespace QueueOperation

/-- The command that an operation adds to the queue. -/
def pushed? : QueueOperation → Option StampedCommand
  | .push generation command => some ⟨generation, command⟩
  | _ => none

/-- The request that an operation led to, and the stream that it goes out on. -/
def emitted? : QueueOperation → QueueAnswer → Option (Nat × WatchRequest)
  | .poll stream, .polled (.request _ request) => some (stream, request)
  | _, _ => none

end QueueOperation

namespace QueueScenario

/-- The commands that an operation takes off the queue. -/
def takings (scenario : QueueScenario) : QueueOperation → List Taking
  | .poll stream =>
    match scenario.queue.streams[stream]?,
      scenario.queue.taken? stream scenario.generation with
    | some state, some taken =>
      (taken.dropped ++ taken.sent.toList).map
        (fun stamped => ⟨stream, state.options, scenario.generation, stamped⟩)
    | _, _ => []
  | _ => []

/-- The commands that some operations take off the queue, one after the other. -/
def takingsAll (scenario : QueueScenario) : List QueueOperation → List Taking
  | [] => []
  | operation :: rest =>
    scenario.takings operation ++ (scenario.perform operation).2.takingsAll rest

/-- The requests that some operations lead to, in order, with the streams that they go out on. -/
def emitted (scenario : QueueScenario) (operations : List QueueOperation) :
    List (Nat × WatchRequest) :=
  (operations.zip (scenario.run operations)).filterMap
    (fun occurrence => occurrence.1.emitted? occurrence.2)

end QueueScenario

namespace CommandQueue

/-- What leaves the queue and what stays there make up the queue; what is sent has the stamp of the
moment, and what is dropped has not. -/
theorem take_parts (stream generation : Nat) (waiting : List Nat)
    (commands : List StampedCommand) :
    let taken := take stream generation waiting commands
    commands = taken.dropped ++ taken.sent.toList ++ taken.commands ∧
      (∀ stamped ∈ taken.dropped, stamped.generation ≠ generation) ∧
      ∀ stamped ∈ taken.sent.toList, stamped.generation = generation := by
  induction commands with
  | nil => simp [take]
  | cons stamped rest ih =>
    by_cases present : stamped.generation = generation
    · simp [take, present]
    · cases waiting with
      | nil =>
        obtain ⟨parts, stale, timely⟩ := ih
        simp only [take, if_neg present]
        refine ⟨?_, List.forall_mem_cons.mpr ⟨present, stale⟩, timely⟩
        rw [List.cons_append, List.cons_append, ← parts]
      | cons next others => simp [take, present]

/-- A stream that nobody waits behind comes to the first command that is to be sent. -/
theorem take_alone (stream : Nat) {generation : Nat} {commands : List StampedCommand}
    {stamped : StampedCommand}
    (oldest : commands.find? (fun command => decide (command.generation = generation)) =
      some stamped) : (take stream generation [] commands).sent = some stamped := by
  induction commands with
  | nil => cases oldest
  | cons first rest ih =>
    by_cases present : first.generation = generation
    · simp only [List.find?_cons, present, decide_true] at oldest
      simp only [take, if_pos present]
      exact oldest
    · simp only [List.find?_cons, present, decide_false] at oldest
      simp only [take, if_neg present]
      exact ih oldest

/-! ## A poll -/

/-- What a stream that has the lock answers when it took what it could. -/
def answerTo (options : RequestOptions) (taken : Taken) : PollAnswer :=
  match taken.sent with
  | some stamped => .request stamped (stamped.command.toRequest options)
  | none => .pending

/-- A poll takes what there is to take, or it takes nothing and sends nothing. -/
inductive Polled (queue : CommandQueue) (stream generation : Nat) : Prop where
  | took {state : OutboundStream} {taken : Taken} {after : CommandQueue} :
      queue.streams[stream]? = some state →
      taken = take stream generation queue.waiting queue.commands →
      queue.taken? stream generation = some taken →
      queue.poll stream generation = (answerTo state.options taken, after) →
      after.commands = taken.commands → Polled queue stream generation
  | idle {answer : PollAnswer} {after : CommandQueue} :
      queue.taken? stream generation = none →
      queue.poll stream generation = (answer, after) → answer.sent = none →
      after.commands = queue.commands → Polled queue stream generation

section Poll

variable {queue : CommandQueue} {stream generation : Nat} {state : OutboundStream}

theorem poll_ended (found : queue.streams[stream]? = some state) (ended : state.ended = true) :
    queue.poll stream generation = (.over, queue) := by
  simp only [poll, found, ended, if_true]

theorem poll_cancelled (found : queue.streams[stream]? = some state)
    (unended : state.ended = false) (cancelled : state.cancelled = true) :
    queue.poll stream generation = (.finished, queue.finish stream) := by
  simp only [poll, found, unended, cancelled, Bool.false_eq_true, if_false, if_true]

theorem taken?_cancelled (found : queue.streams[stream]? = some state)
    (cancelled : state.cancelled = true) : queue.taken? stream generation = none := by
  simp only [taken?, found, cancelled, Bool.or_true, if_true]

theorem poll_locked (found : queue.streams[stream]? = some state) (unended : state.ended = false)
    (kept : state.cancelled = false) (lock : queue.hasLock stream = true) :
    let taken := take stream generation queue.waiting queue.commands
    queue.poll stream generation = (answerTo state.options taken,
      { queue with
        commands := taken.commands, holder := taken.holder, waiting := taken.waiting }) := by
  simp only [poll, found, unended, kept, lock, Bool.false_eq_true, if_false, if_true, answerTo]
  cases (take stream generation queue.waiting queue.commands).sent <;> rfl

end Poll

theorem polled (queue : CommandQueue) (stream generation : Nat) :
    queue.Polled stream generation := by
  cases found : queue.streams[stream]? with
  | none => exact .idle (by rw [taken?, found]) (by rw [poll, found]) rfl rfl
  | some state =>
    cases ended : state.ended with
    | true => exact .idle (by simp [taken?, found, ended]) (poll_ended found ended) rfl rfl
    | false =>
      cases cancelled : state.cancelled with
      | true =>
        exact .idle (taken?_cancelled found cancelled) (poll_cancelled found ended cancelled) rfl
          (commands_finish queue stream)
      | false =>
        cases lock : queue.hasLock stream with
        | true =>
          exact .took found rfl (by simp [taken?, found, ended, cancelled, lock])
            (poll_locked found ended cancelled lock) rfl
        | false =>
          have nothing : queue.taken? stream generation = none := by
            simp [taken?, found, ended, cancelled, lock]
          by_cases waits : queue.waiting.contains stream = true
          · have stays : queue.poll stream generation = (.pending, queue) := by
              simp only [poll, found, ended, cancelled, lock, waits, Bool.false_eq_true, if_false,
                if_true]
            exact .idle nothing stays rfl rfl
          · have joins : queue.poll stream generation =
                (.pending, { queue with waiting := queue.waiting ++ [stream] }) := by
              simp only [poll, found, ended, cancelled, lock, waits, Bool.false_eq_true, if_false]
            exact .idle nothing joins rfl rfl

/-- What is left when a stream ends: it takes nothing along, and the others move up in the line. -/
structure Leaves (before after : CommandQueue) (stream : Nat) : Prop where
  commands : after.commands = before.commands
  line : after.line = before.line.filter (fun other => other != stream)
  ended : ∀ state, after.streams[stream]? = some state → state.ended = true

end CommandQueue

/-! ## One operation -/

namespace QueueScenario

/-- What an operation adds to the queue and what it takes off make up the difference. -/
theorem commands_perform (scenario : QueueScenario) (operation : QueueOperation) :
    scenario.queue.commands ++ operation.pushed?.toList =
      (scenario.takings operation).map Taking.stamped ++
        (scenario.perform operation).2.queue.commands := by
  cases operation with
  | push generation command => rfl
  | setGeneration generation | openStream options | cancel stream => exact List.append_nil _
  | dropStream stream =>
    rw [perform, CommandQueue.commands_finish]
    exact List.append_nil _
  | poll stream =>
    cases scenario.queue.polled stream scenario.generation with
    | @took state taken after found same takes polls left =>
      obtain ⟨parts, -, -⟩ := CommandQueue.take_parts stream scenario.generation
        scenario.queue.waiting scenario.queue.commands
      rw [← same] at parts
      simp only [takings, found, takes, perform, polls, left, QueueOperation.pushed?,
        Option.toList_none, List.append_nil, List.map_map, Function.comp_def, List.map_id']
      exact parts
    | @idle answer after nothing polls silent left =>
      have none : scenario.takings (.poll stream) = [] := by simp [takings, nothing]
      simp only [none, perform, polls, left, QueueOperation.pushed?, Option.toList_none,
        List.append_nil, List.map_nil, List.nil_append]

/-- An operation sends what it takes in time. -/
theorem emitted?_perform (scenario : QueueScenario) (operation : QueueOperation) :
    (operation.emitted? (scenario.perform operation).1).toList =
      ((scenario.takings operation).filter Taking.inTime).map
        (fun taking => (taking.stream, taking.request)) := by
  cases operation with
  | push generation command => rfl
  | setGeneration generation | openStream options | cancel stream | dropStream stream => rfl
  | poll stream =>
    cases scenario.queue.polled stream scenario.generation with
    | @took state taken after found same takes polls left =>
      obtain ⟨-, stale, timely⟩ := CommandQueue.take_parts stream scenario.generation
        scenario.queue.waiting scenario.queue.commands
      rw [← same] at stale timely
      let taking (stamped : StampedCommand) : Taking :=
        ⟨stream, state.options, scenario.generation, stamped⟩
      have dropped : (taken.dropped.map taking).filter Taking.inTime = [] := by
        rw [List.filter_eq_nil_iff, List.forall_mem_map]
        intro stamped member
        simpa [taking, Taking.inTime] using stale stamped member
      have sent : (taken.sent.toList.map taking).filter Taking.inTime =
          taken.sent.toList.map taking := by
        rw [List.filter_eq_self, List.forall_mem_map]
        intro stamped member
        simpa [taking, Taking.inTime] using timely stamped member
      have all : scenario.takings (.poll stream) =
          (taken.dropped ++ taken.sent.toList).map taking := by
        simp only [takings, found, takes, taking]
      rw [all, List.map_append, List.filter_append, dropped, sent, perform, polls]
      cases answer : taken.sent with
      | none => simp [CommandQueue.answerTo, answer, QueueOperation.emitted?]
      | some stamped =>
        simp [CommandQueue.answerTo, answer, QueueOperation.emitted?, taking, Taking.request]
    | @idle answer after nothing polls silent left =>
      have none : scenario.takings (.poll stream) = [] := by simp [takings, nothing]
      rw [none, perform, polls]
      cases answer with
      | request stamped request => cases silent
      | _ => rfl

/-! ## Any operations -/

theorem commands_performAll (scenario : QueueScenario) (operations : List QueueOperation) :
    scenario.queue.commands ++ operations.filterMap QueueOperation.pushed? =
      (scenario.takingsAll operations).map Taking.stamped ++
        (scenario.performAll operations).queue.commands := by
  induction operations generalizing scenario with
  | nil => simp [takingsAll, performAll]
  | cons operation rest ih =>
    have step := scenario.commands_perform operation
    have later := ih (scenario.perform operation).2
    calc scenario.queue.commands ++ (operation :: rest).filterMap QueueOperation.pushed?
        = (scenario.queue.commands ++ operation.pushed?.toList) ++
            rest.filterMap QueueOperation.pushed? := by
          cases pushed : operation.pushed? <;> simp [pushed]
      _ = (scenario.takings operation).map Taking.stamped ++
            ((scenario.perform operation).2.queue.commands ++
              rest.filterMap QueueOperation.pushed?) := by
          rw [step, List.append_assoc]
      _ = _ := by
          rw [later, ← List.append_assoc, ← List.map_append]
          rfl

theorem emitted_eq (scenario : QueueScenario) (operations : List QueueOperation) :
    scenario.emitted operations =
      ((scenario.takingsAll operations).filter Taking.inTime).map
        (fun taking => (taking.stream, taking.request)) := by
  induction operations generalizing scenario with
  | nil => rfl
  | cons operation rest ih =>
    have step := scenario.emitted?_perform operation
    have later := ih (scenario.perform operation).2
    calc scenario.emitted (operation :: rest)
        = (operation.emitted? (scenario.perform operation).1).toList ++
            (scenario.perform operation).2.emitted rest := by
          cases sent : operation.emitted? (scenario.perform operation).1 <;>
            simp [emitted, run, sent]
      _ = _ := by
          rw [step, later, takingsAll, List.filter_append, List.map_append]

/-! ## Cancelled streams and the last one -/

variable {scenario : QueueScenario} {stream : Nat} {state : OutboundStream}

theorem poll_of_cancelled (order : scenario.queue.InOrder)
    (found : scenario.queue.streams[stream]? = some state) (cancelled : state.cancelled = true) :
    scenario.takings (.poll stream) = [] ∧
      (scenario.perform (.poll stream)).1 =
        .polled (if state.ended then .over else .finished) ∧
      scenario.queue.Leaves (scenario.perform (.poll stream)).2.queue stream := by
  have nothing : scenario.takings (.poll stream) = [] := by
    simp [takings, CommandQueue.taken?_cancelled found cancelled]
  refine ⟨nothing, ?_⟩
  cases ended : state.ended with
  | true =>
    rw [perform, CommandQueue.poll_ended found ended]
    refine ⟨rfl, rfl, ?_, fun other same => ?_⟩
    · symm
      rw [List.filter_eq_self]
      intro other member
      refine bne_iff_ne.mpr ?_
      rintro rfl
      obtain ⟨running, here, unended⟩ := order.running other member
      rw [found] at here
      cases here
      rw [ended] at unended
      cases unended
    · rw [found] at same
      exact Option.some.inj same ▸ ended
  | false =>
    rw [perform, CommandQueue.poll_cancelled found ended cancelled]
    refine ⟨rfl, CommandQueue.commands_finish _ _, order.line_finish stream, fun other same => ?_⟩
    simp only [CommandQueue.streams_finish, List.getElem?_modify, if_true, found] at same
    exact Option.some.inj same ▸ rfl

/-- The last stream that runs takes the oldest command that is to be sent. -/
theorem poll_of_last (order : scenario.queue.InOrder)
    (found : scenario.queue.streams[stream]? = some state) (unended : state.ended = false)
    (kept : state.cancelled = false)
    (last : ∀ other running, scenario.queue.streams[other]? = some running → other ≠ stream →
      running.ended = true) {stamped : StampedCommand}
    (oldest : scenario.queue.commands.find?
      (fun command => decide (command.generation = scenario.generation)) = some stamped) :
    (scenario.perform (.poll stream)).1 =
      .polled (.request stamped (stamped.command.toRequest state.options)) := by
  have alone : ∀ other ∈ scenario.queue.line, other = stream := by
    intro other member
    obtain ⟨running, here, going⟩ := order.running other member
    by_contra different
    rw [last other running here different] at going
    cases going
  obtain ⟨lock, behind⟩ : scenario.queue.hasLock stream = true ∧ scenario.queue.waiting = [] := by
    cases holder : scenario.queue.holder with
    | none => exact ⟨by simp [CommandQueue.hasLock, holder], order.waiting_of_free holder⟩
    | some held =>
      have line := CommandQueue.InOrder.line_of_held holder
      have distinct := order.distinct
      rw [line, List.forall_mem_cons] at alone
      rw [line, List.nodup_cons] at distinct
      obtain ⟨rfl, others⟩ := alone
      refine ⟨by simp [CommandQueue.hasLock, holder], ?_⟩
      refine List.eq_nil_iff_forall_not_mem.mpr (fun other member => distinct.1 ?_)
      exact others other member ▸ member
  have sent := CommandQueue.take_alone stream oldest
  rw [perform, CommandQueue.poll_locked found unended kept lock, behind]
  simp only [CommandQueue.answerTo, sent]

end QueueScenario

/-- Whatever is done with a queue, and however many streams are open on it: what was pushed is, in
order, what streams took and what still waits; what was sent is, in order, what was taken under the
generation of its stamp; a stream that is polled after it was cancelled takes nothing, ends and
leaves the line for the lock; and when all others have ended, a stream that was not cancelled
answers with the oldest command that is to be sent. -/
theorem queue_delivers (operations : List QueueOperation) :
    let scenario := QueueScenario.performAll {} operations
    let takings := QueueScenario.takingsAll {} operations
    operations.filterMap QueueOperation.pushed? =
      takings.map Taking.stamped ++ scenario.queue.commands ∧
    QueueScenario.emitted {} operations =
      (takings.filter Taking.inTime).map (fun taking => (taking.stream, taking.request)) ∧
    (∀ stream state, scenario.queue.streams[stream]? = some state → state.cancelled = true →
      scenario.takings (.poll stream) = [] ∧
        (scenario.perform (.poll stream)).1 =
          .polled (if state.ended then .over else .finished) ∧
        scenario.queue.Leaves (scenario.perform (.poll stream)).2.queue stream) ∧
    (∀ stream state stamped, scenario.queue.streams[stream]? = some state →
      state.ended = false → state.cancelled = false →
      (∀ other running, scenario.queue.streams[other]? = some running → other ≠ stream →
        running.ended = true) →
      scenario.queue.commands.find?
        (fun command => decide (command.generation = scenario.generation)) = some stamped →
      (scenario.perform (.poll stream)).1 =
        .polled (.request stamped (stamped.command.toRequest state.options))) := by
  intro scenario takings
  have order : scenario.queue.InOrder := QueueScenario.inOrder operations
  refine ⟨QueueScenario.commands_performAll {} operations,
    QueueScenario.emitted_eq {} operations, fun stream state found cancelled => ?_,
    fun stream state stamped found unended kept last oldest => ?_⟩
  · exact QueueScenario.poll_of_cancelled order found cancelled
  · exact QueueScenario.poll_of_last order found unended kept last oldest

/-- One stream sends a command and waits for the next, with another one behind it. Then a stale and
a timely command come in, and the first stream is cancelled. -/
private def handingOver : List QueueOperation :=
  [.push 0 (.unsubscribe 1), .openStream {}, .openStream { logLevel := .debug }, .poll 0, .poll 0,
    .poll 1, .push 0 (.unsubscribe 2), .setGeneration 1, .push 1 (.unsubscribe 3), .cancel 0]

theorem queue_delivers_handing_over :
    let waiting := QueueScenario.performAll {} handingOver
    let alone := QueueScenario.performAll {} (handingOver ++ [.poll 0])
    (waiting.queue.holder = some 0 ∧ waiting.takings (.poll 0) = [] ∧
      (waiting.perform (.poll 0)).1 = .polled .finished) ∧
    (alone.perform (.poll 1)).1 = .polled (.request ⟨1, .unsubscribe 3⟩
      ((Command.unsubscribe 3).toRequest { logLevel := .debug })) := by
  intro waiting alone
  obtain ⟨-, -, cancelled, -⟩ := queue_delivers handingOver
  obtain ⟨-, -, -, last⟩ := queue_delivers (handingOver ++ [.poll 0])
  obtain ⟨nothing, answer, -⟩ := cancelled 0 ⟨{}, true, false⟩ rfl rfl
  refine ⟨⟨rfl, nothing, answer⟩, last 1 ⟨_, false, false⟩ _ rfl rfl rfl ?_ rfl⟩
  intro other running found different
  rcases other with _ | _ | other
  · cases found
    rfl
  · exact absurd rfl different
  · cases found

end ConfigWatch

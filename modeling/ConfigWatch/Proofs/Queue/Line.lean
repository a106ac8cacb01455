import ConfigWatch.Proofs.Queue.Polling
import ConfigWatch.Scenario.QueueOperation
import Mathlib.Data.List.Nodup

/-!
# The line for the queue

The streams that want the lock of a queue stand in a line, and the first of them has it. No stream
stands there twice, and none that has ended.
-/

set_option autoImplicit false

namespace ConfigWatch

/-- The line for the lock after something was taken. -/
def Taken.line (taken : Taken) : List Nat := taken.holder.toList ++ taken.waiting

namespace CommandQueue

/-- The stream that has the lock, and those that wait for it. -/
def line (queue : CommandQueue) : List Nat := queue.holder.toList ++ queue.waiting

/-- A stream that was opened and has not ended. -/
def Running (queue : CommandQueue) (stream : Nat) : Prop :=
  ∃ state, queue.streams[stream]? = some state ∧ state.ended = false

/-- The line is in order: its first stream has the lock, all streams in it are different, and all of
them are running. -/
structure InOrder (queue : CommandQueue) : Prop where
  first : queue.holder = queue.line.head?
  distinct : queue.line.Nodup
  running : ∀ stream ∈ queue.line, queue.Running stream

namespace InOrder

variable {queue : CommandQueue} {stream : Nat}

theorem waiting_of_free (order : queue.InOrder) (free : queue.holder = none) :
    queue.waiting = [] := by
  have first := order.first
  rw [line, free] at first
  exact List.head?_eq_none_iff.mp first.symm

theorem line_of_held (held : queue.holder = some stream) : queue.line = stream :: queue.waiting := by
  rw [line, held]
  rfl

theorem line_leave (order : queue.InOrder) (stream : Nat) :
    (queue.leave stream).line = queue.line.filter (fun other => other != stream) := by
  unfold leave
  split
  · next held =>
    have distinct := order.distinct
    rw [line_of_held held, List.nodup_cons] at distinct
    have others : queue.waiting.filter (fun other => other != stream) = queue.waiting := by
      rw [List.filter_eq_self]
      intro other member
      exact bne_iff_ne.mpr (fun same => distinct.1 (same ▸ member))
    rw [line_of_held held, List.filter_cons_of_neg (by simp), others, line]
    cases queue.waiting <;> rfl
  · next other =>
    have holder : queue.holder.toList.filter (fun other => other != stream) =
        queue.holder.toList := by
      rw [List.filter_eq_self]
      intro held member
      refine bne_iff_ne.mpr (fun same => other ?_)
      exact same ▸ Option.mem_toList.mp member
    rw [line, line, List.filter_append, holder]

theorem first_leave (order : queue.InOrder) (stream : Nat) :
    (queue.leave stream).holder = (queue.leave stream).line.head? := by
  unfold leave
  split
  · rw [line]
    cases queue.waiting <;> rfl
  · rw [line]
    cases held : queue.holder with
    | none => rw [order.waiting_of_free held]; rfl
    | some other => rfl

theorem line_finish (order : queue.InOrder) (stream : Nat) :
    (queue.finish stream).line = queue.line.filter (fun other => other != stream) :=
  order.line_leave stream

theorem finish (order : queue.InOrder) (stream : Nat) : (queue.finish stream).InOrder := by
  constructor
  · exact order.first_leave stream
  · rw [order.line_finish]
    exact order.distinct.filter _
  · intro other member
    rw [order.line_finish, List.mem_filter, bne_iff_ne] at member
    obtain ⟨state, found, unended⟩ := order.running other member.1
    refine ⟨state, ?_, unended⟩
    simp [streams_finish, Ne.symm member.2, found]

end InOrder

/-! ## Taking -/

/-- The line after a stream with the lock took what it could: it keeps the lock while it waits for
commands, leaves with a command to send, or goes to the end of the line. -/
theorem take_line (stream generation : Nat) (waiting : List Nat)
    (commands : List StampedCommand) :
    let taken := take stream generation waiting commands
    taken.holder = taken.line.head? ∧
      (taken.line = stream :: waiting ∨ taken.line = waiting ∨
        taken.line = waiting ++ [stream]) := by
  induction commands with
  | nil => exact ⟨rfl, .inl rfl⟩
  | cons stamped rest ih =>
    by_cases present : stamped.generation = generation
    · simp only [take, if_pos present]
      cases waiting with
      | nil => exact ⟨rfl, .inr (.inl rfl)⟩
      | cons next others => exact ⟨rfl, .inr (.inl rfl)⟩
    · cases waiting with
      | nil =>
        simp only [take, if_neg present]
        exact ih
      | cons next others =>
        simp only [take, if_neg present]
        exact ⟨rfl, .inr (.inr rfl)⟩

/-- The line of streams behind one that has the lock, or may have it at once. -/
theorem InOrder.line_of_hasLock {queue : CommandQueue} (order : queue.InOrder) {stream : Nat}
    (lock : queue.hasLock stream = true) :
    stream ∉ queue.waiting ∧ queue.waiting.Nodup := by
  rw [hasLock, Bool.or_eq_true, beq_iff_eq, beq_iff_eq] at lock
  rcases lock with held | free
  · have distinct := order.distinct
    rw [line_of_held held, List.nodup_cons] at distinct
    exact distinct
  · rw [order.waiting_of_free free]
    exact ⟨List.not_mem_nil, List.nodup_nil⟩

/-- A running stream may take any place in the line, as long as it stands there once. -/
theorem InOrder.moved {before after : CommandQueue} (order : before.InOrder) {stream : Nat}
    (running : before.Running stream) (streams : after.streams = before.streams)
    (first : after.holder = after.line.head?) (distinct : after.line.Nodup)
    (members : ∀ other ∈ after.line, other = stream ∨ other ∈ before.line) : after.InOrder := by
  refine ⟨first, distinct, fun other member => ?_⟩
  have still : before.Running other := by
    rcases members other member with rfl | old
    · exact running
    · exact order.running other old
  obtain ⟨state, found, unended⟩ := still
  exact ⟨state, streams ▸ found, unended⟩

theorem InOrder.took {queue : CommandQueue} (order : queue.InOrder) {stream : Nat}
    (running : queue.Running stream) (lock : queue.hasLock stream = true) (generation : Nat) :
    let taken := take stream generation queue.waiting queue.commands
    InOrder { queue with
      commands := taken.commands, holder := taken.holder, waiting := taken.waiting } := by
  intro taken
  obtain ⟨absent, distinct⟩ := order.line_of_hasLock lock
  obtain ⟨first, line⟩ := take_line stream generation queue.waiting queue.commands
  have behind : (stream :: queue.waiting).Nodup := List.nodup_cons.mpr ⟨absent, distinct⟩
  have rotated : (queue.waiting ++ [stream]).Perm (stream :: queue.waiting) :=
    List.perm_append_singleton ..
  have old : ∀ other ∈ queue.waiting, other ∈ queue.line := fun other member =>
    List.mem_append_right _ member
  have once : taken.line.Nodup := by
    rcases line with same | same | same
    · exact same ▸ behind
    · exact same ▸ distinct
    · exact same ▸ rotated.nodup_iff.mpr behind
  refine order.moved running rfl first once (fun other member => ?_)
  have within : other ∈ stream :: queue.waiting := by
    change other ∈ taken.line at member
    rcases line with same | same | same
    · exact same ▸ member
    · exact List.mem_cons_of_mem _ (same ▸ member)
    · exact rotated.mem_iff.mp (same ▸ member)
  exact (List.mem_cons.mp within).imp_right (old other)

theorem InOrder.joined {queue : CommandQueue} (order : queue.InOrder) {stream : Nat}
    (running : queue.Running stream) (busy : queue.hasLock stream = false)
    (away : stream ∉ queue.waiting) :
    InOrder { queue with waiting := queue.waiting ++ [stream] } := by
  obtain ⟨free, other⟩ : queue.holder ≠ none ∧ queue.holder ≠ some stream := by
    simp only [hasLock, Bool.or_eq_false_iff, beq_eq_false_iff_ne] at busy
    exact busy.symm
  obtain ⟨holder, held⟩ := Option.ne_none_iff_exists'.mp free
  have absent : stream ∉ queue.line := by
    rw [line_of_held held, List.mem_cons]
    exact not_or.mpr ⟨fun same => other (same ▸ held), away⟩
  have line : line { queue with waiting := queue.waiting ++ [stream] } = queue.line ++ [stream] :=
    (List.append_assoc ..).symm
  refine order.moved running rfl ?_ ?_ (fun other member => ?_)
  · rw [line, line_of_held held]
    exact held
  · rw [line]
    exact List.Nodup.append order.distinct (List.nodup_singleton stream) (by simpa using absent)
  · rw [line] at member
    rcases List.mem_append.mp member with old | new
    · exact .inr old
    · exact .inl (List.mem_singleton.mp new)

theorem InOrder.poll {queue : CommandQueue} (order : queue.InOrder) (stream generation : Nat) :
    (queue.poll stream generation).2.InOrder := by
  unfold CommandQueue.poll
  cases found : queue.streams[stream]? with
  | none => exact order
  | some state =>
    dsimp only
    split
    · exact order
    · next unended =>
      have running : queue.Running stream := ⟨state, found, by simpa using unended⟩
      split
      · exact order.finish stream
      · split
        · next lock =>
          have took := order.took running lock generation
          split <;> exact took
        · next busy =>
          split
          · exact order
          · next away =>
            exact order.joined running (by simpa using busy) (by simpa using away)

/-- An operation that leaves the line, and lets no stream end. -/
theorem InOrder.of_same {before after : CommandQueue} (order : before.InOrder)
    (line : after.line = before.line) (holder : after.holder = before.holder)
    (running : ∀ stream, before.Running stream → after.Running stream) : after.InOrder := by
  constructor
  · rw [holder, line]
    exact order.first
  · rw [line]
    exact order.distinct
  · intro stream member
    rw [line] at member
    exact running stream (order.running stream member)

theorem running_openStream {queue : CommandQueue} {stream : Nat} (running : queue.Running stream)
    (options : RequestOptions) : (queue.openStream options).2.Running stream := by
  obtain ⟨state, found, unended⟩ := running
  refine ⟨state, ?_, unended⟩
  have bound := (List.getElem?_eq_some_iff.mp found).1
  simp only [openStream]
  rw [List.getElem?_append_left bound, found]

theorem running_cancel {queue : CommandQueue} {stream : Nat} (running : queue.Running stream)
    (other : Nat) : (queue.cancel other).Running stream := by
  obtain ⟨state, found, unended⟩ := running
  by_cases same : other = stream
  · exact ⟨{ state with cancelled := true }, by simp [cancel, same, found], unended⟩
  · exact ⟨state, by simp [cancel, same, found], unended⟩

end CommandQueue

namespace QueueScenario

/-- Carries out operations one after the other. -/
def performAll (scenario : QueueScenario) (operations : List QueueOperation) : QueueScenario :=
  operations.foldl (fun scenario operation => (scenario.perform operation).2) scenario

theorem inOrder_perform {scenario : QueueScenario} (order : scenario.queue.InOrder)
    (operation : QueueOperation) : (scenario.perform operation).2.queue.InOrder := by
  cases operation with
  | push generation command => exact order.of_same rfl rfl (fun _ running => running)
  | setGeneration generation => exact order
  | openStream options =>
    exact order.of_same rfl rfl (fun _ running => CommandQueue.running_openStream running options)
  | poll stream => exact order.poll stream scenario.generation
  | cancel stream =>
    exact order.of_same rfl rfl (fun _ running => CommandQueue.running_cancel running stream)
  | dropStream stream => exact order.finish stream

theorem inOrder_performAll {scenario : QueueScenario} (order : scenario.queue.InOrder)
    (operations : List QueueOperation) : (scenario.performAll operations).queue.InOrder := by
  induction operations generalizing scenario with
  | nil => exact order
  | cons operation rest ih => exact ih (inOrder_perform order operation)

/-- Whatever is done with a new queue, its line stays in order. -/
theorem inOrder (operations : List QueueOperation) :
    (performAll {} operations).queue.InOrder := by
  have start : CommandQueue.InOrder {} :=
    ⟨rfl, List.nodup_nil, fun stream member => absurd member List.not_mem_nil⟩
  exact inOrder_performAll start operations

end QueueScenario

end ConfigWatch

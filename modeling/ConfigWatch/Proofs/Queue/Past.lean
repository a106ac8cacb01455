import ConfigWatch.Proofs.Cache.Past
import ConfigWatch.Proofs.Queue.Delivery

/-!
# Queues with a past

A past leaves more in a queue than higher numbers: commands of past generations, spent outbound
streams, and a line of such streams that did not give way yet. When they did, the first poll of a
new stream drops the old commands, and from then on the queue does what a new one does.
-/

set_option autoImplicit false

namespace ConfigWatch

/-- What a past leaves in a queue, in front of what is new. -/
structure Residue where
  streams : List OutboundStream
  commands : List StampedCommand := []
  holder : Option Nat := none
  waiting : List Nat := []

variable (past : Past)

def StampedCommand.withPast (stamped : StampedCommand) : StampedCommand :=
  { stamped with generation := past.generations + stamped.generation }

def PollAnswer.withPast : PollAnswer → PollAnswer
  | .request stamped message => .request (stamped.withPast past) message
  | .pending => .pending
  | .finished => .finished
  | .over => .over

def Taken.withPast (taken : Taken) : Taken where
  commands := taken.commands.map (StampedCommand.withPast past)
  holder := taken.holder.map (past.streams + ·)
  waiting := taken.waiting.map (past.streams + ·)
  dropped := taken.dropped.map (StampedCommand.withPast past)
  sent := taken.sent.map (StampedCommand.withPast past)

/-- A queue as it is with a past. -/
def CommandQueue.withPast (queue : CommandQueue) (residue : Residue) : CommandQueue where
  commands := residue.commands ++ queue.commands.map (StampedCommand.withPast past)
  streams := residue.streams ++ queue.streams
  holder := residue.holder.or (queue.holder.map (past.streams + ·))
  waiting := residue.waiting ++ queue.waiting.map (past.streams + ·)

/-- What a past can leave in front of a queue: streams that are spent and commands of generations
that are over. As long as a command or a line is left, no new stream stands in the line. -/
structure Residue.Fits (residue : Residue) (queue : CommandQueue) : Prop where
  length : residue.streams.length = past.streams
  spent : ∀ state ∈ residue.streams, state.cancelled = true ∨ state.ended = true
  older : ∀ stamped ∈ residue.commands, stamped.generation < past.generations
  holder : ∀ stream, residue.holder = some stream → stream < past.streams
  waiting : ∀ stream ∈ residue.waiting, stream < past.streams
  before : residue.commands = [] ∧ residue.holder = none ∧ residue.waiting = [] ∨
    queue.holder = none ∧ queue.waiting = []

namespace CommandQueue

/-! ## Taking -/

theorem take_withPast (stream generation : Nat) (waiting : List Nat)
    (commands : List StampedCommand) :
    take (past.streams + stream) (past.generations + generation)
        (waiting.map (past.streams + ·)) (commands.map (StampedCommand.withPast past)) =
      (take stream generation waiting commands).withPast past := by
  induction commands with
  | nil => rfl
  | cons stamped rest ih =>
    have present : (stamped.withPast past).generation = past.generations + generation ↔
        stamped.generation = generation := Nat.add_left_cancel_iff
    by_cases now : stamped.generation = generation
    · simp only [List.map_cons, take, if_pos (present.mpr now), if_pos now]
      cases waiting <;> rfl
    · simp only [List.map_cons, take, if_neg (mt present.mp now), if_neg now]
      cases waiting with
      | nil =>
        have later := ih
        rw [List.map_nil] at later
        simp only [List.map_nil, later]
        rfl
      | cons next others => simp [Taken.withPast]

/-- A stream that nobody waits behind drops the commands of other generations that come first. -/
theorem take_stale (stream : Nat) {generation : Nat} {stale : List StampedCommand}
    (other : ∀ stamped ∈ stale, stamped.generation ≠ generation)
    (commands : List StampedCommand) :
    take stream generation [] (stale ++ commands) =
      { take stream generation [] commands with
        dropped := stale ++ (take stream generation [] commands).dropped } := by
  induction stale with
  | nil => rfl
  | cons stamped rest ih =>
    have later := ih (fun stamped member => other stamped (List.mem_cons_of_mem _ member))
    simp only [List.cons_append, take, if_neg (other stamped List.mem_cons_self), later]

/-! ## Operations on new streams -/

variable {past} {residue : Residue} {queue : CommandQueue}

private theorem modify_behind {α : Type} (front rest : List α) (index : Nat) (change : α → α) :
    (front ++ rest).modify (front.length + index) change = front ++ rest.modify index change := by
  induction front with
  | nil => simp
  | cons first front ih =>
    rw [List.cons_append, List.length_cons, Nat.add_right_comm, List.modify_succ_cons, ih,
      List.cons_append]

private theorem modify_in_front {α : Type} {front : List α} {index : Nat}
    (within : index < front.length) (rest : List α) (change : α → α) :
    (front ++ rest).modify index change = front.modify index change ++ rest := by
  induction front generalizing index with
  | nil => cases within
  | cons first front ih =>
    cases index with
    | zero => rfl
    | succ index => simp [ih (Nat.lt_of_succ_lt_succ within)]

theorem push_withPast (generation : Nat) (command : Command) :
    (queue.withPast past residue).push (past.generations + generation) command =
      (queue.push generation command).withPast past residue := by
  simp [push, withPast, StampedCommand.withPast]

theorem openStream_withPast (fits : residue.Fits past queue) (options : RequestOptions) :
    (queue.withPast past residue).openStream options =
      (past.streams + (queue.openStream options).1,
        (queue.openStream options).2.withPast past residue) := by
  simp [openStream, withPast, fits.length]

theorem cancel_withPast (fits : residue.Fits past queue) (stream : Nat) :
    (queue.withPast past residue).cancel (past.streams + stream) =
      (queue.cancel stream).withPast past residue := by
  simp only [cancel, withPast, ← fits.length, modify_behind]

theorem getElem?_withPast (fits : residue.Fits past queue) (stream : Nat) :
    (queue.withPast past residue).streams[past.streams + stream]? = queue.streams[stream]? := by
  rw [withPast, ← fits.length, List.getElem?_append_right (Nat.le_add_right ..),
    Nat.add_sub_cancel_left]

private theorem filter_behind (waiting : List Nat) (stream : Nat) :
    (waiting.map (past.streams + ·)).filter (fun other => other != past.streams + stream) =
      (waiting.filter (fun other => other != stream)).map (past.streams + ·) := by
  rw [List.filter_map]
  refine congrArg (List.map _) (List.filter_congr (fun other _ => ?_))
  simp [bne, Nat.add_left_cancel_iff]

private theorem filter_other {waiting : List Nat} {stream : Nat} (other : stream ∉ waiting) :
    waiting.filter (fun other => other != stream) = waiting :=
  List.filter_eq_self.mpr (fun _ member => bne_iff_ne.mpr (fun same => other (same ▸ member)))

theorem leave_withPast (fits : residue.Fits past queue) (stream : Nat) :
    (queue.withPast past residue).leave (past.streams + stream) =
      (queue.leave stream).withPast past residue := by
  have away : past.streams + stream ∉ residue.waiting := fun member =>
    absurd (fits.waiting _ member) (Nat.not_lt.mpr (Nat.le_add_right ..))
  have held : (queue.withPast past residue).holder = some (past.streams + stream) ↔
      queue.holder = some stream := by
    cases old : residue.holder with
    | none => simp [withPast, old]
    | some other =>
      have bound := fits.holder other old
      have free : queue.holder = none := by
        rcases fits.before with ⟨_, none, _⟩ | ⟨none, _⟩
        · rw [none] at old
          cases old
        · exact none
      have differs : other ≠ past.streams + stream := by omega
      simp [withPast, old, free, differs]
  by_cases holds : queue.holder = some stream
  · have none : residue.holder = none ∧ residue.waiting = [] := by
      rcases fits.before with ⟨_, none⟩ | ⟨none, _⟩
      · exact none
      · rw [none] at holds
        cases holds
    rw [leave, if_pos (held.mpr holds), leave, if_pos holds]
    simp [withPast, none, List.map_tail]
  · rw [leave, if_neg (mt held.mp holds), leave, if_neg holds]
    simp only [withPast, List.filter_append, filter_behind, filter_other away]

theorem finish_withPast (fits : residue.Fits past queue) (stream : Nat) :
    (queue.withPast past residue).finish (past.streams + stream) =
      (queue.finish stream).withPast past residue := by
  simp only [finish, leave_withPast fits]
  simp only [withPast, ← fits.length, modify_behind]

end CommandQueue

namespace Residue.Fits

variable {past} {residue : Residue} {queue after : CommandQueue}

/-- It depends on the line of new streams alone whether a residue fits. -/
theorem of_free (fits : residue.Fits past queue)
    (free : queue.holder = none → queue.waiting = [] → after.holder = none ∧ after.waiting = []) :
    residue.Fits past after :=
  { fits with before := fits.before.imp_right (fun both => free both.1 both.2) }

theorem push (fits : residue.Fits past queue) (generation : Nat) (command : Command) :
    residue.Fits past (queue.push generation command) :=
  fits.of_free (fun holder waiting => ⟨holder, waiting⟩)

theorem openStream (fits : residue.Fits past queue) (options : RequestOptions) :
    residue.Fits past (queue.openStream options).2 :=
  fits.of_free (fun holder waiting => ⟨holder, waiting⟩)

theorem cancel (fits : residue.Fits past queue) (stream : Nat) :
    residue.Fits past (queue.cancel stream) :=
  fits.of_free (fun holder waiting => ⟨holder, waiting⟩)

theorem finish (fits : residue.Fits past queue) (stream : Nat) :
    residue.Fits past (queue.finish stream) := by
  refine fits.of_free (fun holder waiting => ?_)
  simp [CommandQueue.finish, CommandQueue.leave, holder, waiting]

theorem ending (fits : residue.Fits past queue) (stream : Nat) :
    Residue.Fits past { residue with
      streams := residue.streams.modify stream (fun state => { state with ended := true }) } queue :=
  { fits with
    length := by rw [List.length_modify, fits.length]
    spent := by
      intro state member
      obtain ⟨index, found⟩ := List.mem_iff_getElem?.mp member
      rw [List.getElem?_modify] at found
      obtain ⟨before, there, rfl⟩ := Option.map_eq_some_iff.mp found
      split
      · exact .inr rfl
      · exact fits.spent before (List.mem_of_getElem? there) }

end Residue.Fits

namespace CommandQueue

variable {past} {residue : Residue} {queue : CommandQueue}

/-! ## Streams of the past -/

/-- A spent stream that ends takes its place in the line with it. -/
theorem finish_past (fits : residue.Fits past queue) {stream : Nat}
    (old : stream < past.streams) :
    ∃ rest : Residue, rest.Fits past queue ∧
      (queue.withPast past residue).finish stream = queue.withPast past rest := by
  have within : stream < residue.streams.length := fits.length ▸ old
  have ending := fits.ending stream
  by_cases holds : residue.holder = some stream
  · have free : queue.holder = none ∧ queue.waiting = [] := by
      rcases fits.before with ⟨_, none, _⟩ | free
      · rw [none] at holds
        cases holds
      · exact free
    refine ⟨{ residue with
      streams := residue.streams.modify stream (fun state => { state with ended := true })
      holder := residue.waiting.head?
      waiting := residue.waiting.tail }, ?_, ?_⟩
    · exact { ending with
        holder := fun other first => fits.waiting other (List.mem_of_head? first)
        waiting := fun other member => fits.waiting other (List.mem_of_mem_tail member)
        before := .inr free }
    · simp [finish, leave, withPast, holds, free, modify_in_front within]
  · refine ⟨{ residue with
      streams := residue.streams.modify stream (fun state => { state with ended := true })
      waiting := residue.waiting.filter (fun other => other != stream) }, ?_, ?_⟩
    · exact { ending with
        waiting := fun other member => fits.waiting other (List.mem_of_mem_filter member)
        before := fits.before.imp_left (fun none => ⟨none.1, none.2.1, by rw [none.2.2]; rfl⟩) }
    · have new : stream ∉ queue.waiting.map (past.streams + ·) := by
        intro member
        obtain ⟨other, _, same⟩ := List.mem_map.mp member
        omega
      have differs : (queue.withPast past residue).holder ≠ some stream := by
        cases held : residue.holder with
        | some other =>
          rw [held] at holds
          simpa [withPast, held] using holds
        | none =>
          simp only [withPast, held, Option.none_or]
          intro same
          obtain ⟨other, _, same⟩ := Option.map_eq_some_iff.mp same
          omega
      rw [finish, leave, if_neg differs]
      simp only [withPast, List.filter_append, filter_other new, modify_in_front within]

/-- A stream of the past sends nothing any more. -/
theorem poll_past (fits : residue.Fits past queue) {stream : Nat} (old : stream < past.streams)
    (generation : Nat) :
    ((queue.withPast past residue).poll stream generation).1.sent = none ∧
      ∃ rest : Residue, rest.Fits past queue ∧
        ((queue.withPast past residue).poll stream generation).2 = queue.withPast past rest := by
  have within : stream < residue.streams.length := fits.length ▸ old
  have found : (queue.withPast past residue).streams[stream]? = some residue.streams[stream] := by
    rw [withPast, List.getElem?_append_left within, List.getElem?_eq_getElem within]
  have spent := fits.spent _ (List.getElem_mem within)
  cases ended : residue.streams[stream].ended with
  | true =>
    rw [poll_ended found ended]
    exact ⟨rfl, residue, fits, rfl⟩
  | false =>
    have cancelled : residue.streams[stream].cancelled = true :=
      spent.resolve_right (by simp [ended])
    rw [poll_cancelled found ended cancelled]
    exact ⟨rfl, finish_past fits old⟩

/-! ## Polls of new streams -/

theorem poll_busy {stream generation : Nat} {state : OutboundStream}
    (found : queue.streams[stream]? = some state) (unended : state.ended = false)
    (kept : state.cancelled = false) (busy : queue.hasLock stream = false) :
    queue.poll stream generation = (.pending, { queue with
      waiting :=
        if queue.waiting.contains stream then queue.waiting else queue.waiting ++ [stream] }) := by
  simp only [poll, found, unended, kept, busy, Bool.false_eq_true, if_false]
  split <;> rfl

theorem answerTo_withPast (options : RequestOptions) (taken : Taken) :
    answerTo options (taken.withPast past) = (answerTo options taken).withPast past := by
  simp only [answerTo, Taken.withPast]
  cases taken.sent <;> rfl

theorem hasLock_withPast (free : residue.holder = none) (stream : Nat) :
    (queue.withPast past residue).hasLock (past.streams + stream) = queue.hasLock stream := by
  simp only [hasLock, withPast, free, Option.none_or]
  cases queue.holder <;> simp [Nat.add_left_cancel_iff]

/-- The old commands are dropped on the way to the first that is to be sent. -/
theorem take_past (fits : residue.Fits past queue) (stream generation : Nat) :
    ∃ dropped, take (past.streams + stream) (past.generations + generation)
        (queue.waiting.map (past.streams + ·)) (queue.withPast past residue).commands =
      { (take stream generation queue.waiting queue.commands).withPast past with dropped } := by
  have stale (stamped : StampedCommand) (member : stamped ∈ residue.commands) :
      stamped.generation ≠ past.generations + generation := by
    have older := fits.older stamped member
    omega
  rcases fits.before with ⟨none, _⟩ | ⟨_, alone⟩
  · rw [withPast, none, List.nil_append, take_withPast]
    exact ⟨_, rfl⟩
  · have taken := take_withPast past stream generation [] queue.commands
    rw [List.map_nil] at taken
    rw [withPast, alone, List.map_nil, take_stale _ stale, taken]
    exact ⟨_, rfl⟩

/-- When no spent stream stands in the line any more, a new stream gets what it would get from a
new queue. -/
theorem poll_withPast (fits : residue.Fits past queue)
    (clear : residue.holder = none ∧ residue.waiting = []) (stream generation : Nat) :
    ∃ rest : Residue, rest.Fits past (queue.poll stream generation).2 ∧
      (queue.withPast past residue).poll (past.streams + stream) (past.generations + generation) =
        ((queue.poll stream generation).1.withPast past,
          (queue.poll stream generation).2.withPast past rest) := by
  have there := getElem?_withPast fits stream
  have lock : (queue.withPast past residue).hasLock (past.streams + stream) =
      queue.hasLock stream := hasLock_withPast clear.1 stream
  cases found : queue.streams[stream]? with
  | none =>
    have unknown : queue.poll stream generation = (.over, queue) := by rw [poll, found]
    rw [unknown, poll, there, found]
    exact ⟨residue, fits, rfl⟩
  | some state =>
  rw [found] at there
  cases ended : state.ended with
  | true =>
    rw [poll_ended found ended, poll_ended there ended]
    exact ⟨residue, fits, rfl⟩
  | false =>
  cases cancelled : state.cancelled with
  | true =>
    rw [poll_cancelled found ended cancelled, poll_cancelled there ended cancelled,
      finish_withPast fits]
    exact ⟨residue, fits.finish stream, rfl⟩
  | false =>
  cases locked : queue.hasLock stream with
  | true =>
    have waiting : (queue.withPast past residue).waiting =
        queue.waiting.map (past.streams + ·) := by
      rw [withPast, clear.2, List.nil_append]
    obtain ⟨dropped, takes⟩ := take_past fits stream generation
    rw [poll_locked found ended cancelled locked, poll_locked there ended cancelled
      (lock.trans locked), waiting, takes]
    refine ⟨{ residue with commands := [] }, ?_, ?_⟩
    · exact { fits with
        older := fun _ member => absurd member List.not_mem_nil
        before := .inl ⟨rfl, clear⟩ }
    · refine Prod.ext (answerTo_withPast state.options _) ?_
      simp [withPast, Taken.withPast, clear]
  | false =>
    have busy : queue.holder ≠ none := by
      intro free
      simp [hasLock, free] at locked
    have none : residue.commands = [] ∧ residue.holder = none ∧ residue.waiting = [] :=
      fits.before.resolve_right (fun free => busy free.1)
    rw [poll_busy found ended cancelled locked, poll_busy there ended cancelled
      (lock.trans locked)]
    refine ⟨residue, { fits with before := .inl none }, Prod.ext rfl ?_⟩
    have contains : ((queue.withPast past residue).waiting.contains (past.streams + stream)) =
        queue.waiting.contains stream := by
      simp [withPast, none, Nat.add_left_cancel_iff]
    simp only [contains]
    split
    · rfl
    · simp [withPast, none]

end CommandQueue

end ConfigWatch

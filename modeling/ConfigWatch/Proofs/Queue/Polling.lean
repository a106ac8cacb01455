import ConfigWatch.Queue.Basic

/-!
# What leaves the queue

A poll takes commands from the front of the queue. It sends at most one, which has the present
stamp, and drops only commands with another stamp; so what was sent and what still waits are,
under the present stamp, the commands that waited before.
-/

set_option autoImplicit false

namespace ConfigWatch

/-- The command that a poll sent. -/
def PollAnswer.sent : PollAnswer → Option StampedCommand
  | .request stamped _ => some stamped
  | _ => none

/-- The commands of a generation, without their stamps. -/
def commandsOf (generation : Nat) (stamped : List StampedCommand) : List Command :=
  (stamped.filter (fun command => decide (command.generation = generation))).map
    StampedCommand.command

theorem commandsOf_append (generation : Nat) (left right : List StampedCommand) :
    commandsOf generation (left ++ right) =
      commandsOf generation left ++ commandsOf generation right := by
  simp [commandsOf]

theorem commandsOf_eq_nil {generation : Nat} {stamped : List StampedCommand}
    (other : ∀ command ∈ stamped, command.generation ≠ generation) :
    commandsOf generation stamped = [] := by
  rw [commandsOf, List.map_eq_nil_iff, List.filter_eq_nil_iff]
  simpa using other

namespace CommandQueue

/-- A stream that was opened, and neither cancelled nor ended since. -/
def Live (queue : CommandQueue) (stream : Nat) : Prop :=
  ∃ state, queue.streams[stream]? = some state ∧ state.cancelled = false ∧ state.ended = false

/-- What taking from the front of the queue amounts to under the present stamp. -/
private theorem take_commandsOf (stream generation : Nat) (waiting : List Nat)
    (commands : List StampedCommand) :
    commandsOf generation ((take stream generation waiting commands).sent.toList ++
      (take stream generation waiting commands).commands) = commandsOf generation commands := by
  induction commands with
  | nil => rfl
  | cons stamped rest ih =>
    by_cases present : stamped.generation = generation
    · simp only [take, if_pos present, Option.toList_some, List.singleton_append]
    · have stale : commandsOf generation (stamped :: rest) = commandsOf generation rest := by
        simp [commandsOf, present]
      cases waiting with
      | nil =>
        simp only [take, if_neg present]
        rw [stale, ih]
      | cons next others =>
        simp only [take, if_neg present, Option.toList_none, List.nil_append]
        rw [stale]

private theorem take_sent {stream generation : Nat} {waiting : List Nat}
    {commands : List StampedCommand} {stamped : StampedCommand}
    (sent : (take stream generation waiting commands).sent = some stamped) :
    stamped.generation = generation := by
  induction commands with
  | nil => simp [take] at sent
  | cons first rest ih =>
    by_cases present : first.generation = generation
    · simp only [take, if_pos present, Option.some.injEq] at sent
      exact sent ▸ present
    · cases waiting with
      | nil =>
        simp only [take, if_neg present] at sent
        exact ih sent
      | cons next others => simp [take, present] at sent

private theorem take_suffix (stream generation : Nat) (waiting : List Nat)
    (commands : List StampedCommand) :
    (take stream generation waiting commands).commands <:+ commands := by
  induction commands with
  | nil => exact List.suffix_rfl
  | cons stamped rest ih =>
    by_cases present : stamped.generation = generation
    · simp only [take, if_pos present]
      exact List.suffix_cons ..
    · cases waiting with
      | nil =>
        simp only [take, if_neg present]
        exact ih.trans (List.suffix_cons ..)
      | cons next others =>
        simp only [take, if_neg present]
        exact List.suffix_cons ..

/-- What a poll of a stream does under the present generation. -/
structure Polls (queue : CommandQueue) (stream generation : Nat) (sent : Option StampedCommand)
    (after : CommandQueue) : Prop where
  stamp : ∀ stamped, sent = some stamped → stamped.generation = generation
  live : ∀ stamped, sent = some stamped → queue.Live stream
  commands : commandsOf generation (sent.toList ++ after.commands) =
    commandsOf generation queue.commands
  waiting : after.commands <:+ queue.commands
  streams : after.streams.length = queue.streams.length
  noneRevived : ∀ other, after.Live other → queue.Live other

theorem streams_finish (queue : CommandQueue) (stream : Nat) :
    (queue.finish stream).streams =
      queue.streams.modify stream (fun state => { state with ended := true }) := by
  unfold finish leave
  split <;> rfl

theorem commands_finish (queue : CommandQueue) (stream : Nat) :
    (queue.finish stream).commands = queue.commands := by
  unfold finish leave
  split <;> rfl

theorem live_of_finish {queue : CommandQueue} {stream other : Nat}
    (live : (queue.finish stream).Live other) : queue.Live other ∧ other ≠ stream := by
  obtain ⟨state, found, kept, unended⟩ := live
  rw [streams_finish, List.getElem?_modify] at found
  obtain ⟨before, there, rfl⟩ := Option.map_eq_some_iff.mp found
  by_cases same : stream = other
  · simp [same] at unended
  · simp only [if_neg same] at kept unended
    exact ⟨⟨before, there, kept, unended⟩, Ne.symm same⟩

theorem live_of_cancel {queue : CommandQueue} {stream other : Nat}
    (live : (queue.cancel stream).Live other) : queue.Live other ∧ other ≠ stream := by
  obtain ⟨state, found, kept, unended⟩ := live
  simp only [cancel, List.getElem?_modify] at found
  obtain ⟨before, there, rfl⟩ := Option.map_eq_some_iff.mp found
  by_cases same : stream = other
  · simp [same] at kept
  · simp only [if_neg same] at kept unended
    exact ⟨⟨before, there, kept, unended⟩, Ne.symm same⟩

theorem Live.lt {queue : CommandQueue} {stream : Nat} (live : queue.Live stream) :
    stream < queue.streams.length := by
  obtain ⟨state, found, _⟩ := live
  exact (List.getElem?_eq_some_iff.mp found).1

theorem polls (queue : CommandQueue) (stream generation : Nat) :
    Polls queue stream generation (queue.poll stream generation).1.sent
      (queue.poll stream generation).2 := by
  have idle : Polls queue stream generation none queue :=
    ⟨by simp, by simp, rfl, List.suffix_rfl, rfl, fun _ live => live⟩
  unfold poll
  cases found : queue.streams[stream]? with
  | none => exact idle
  | some state =>
    dsimp only
    split
    · exact idle
    · next unended =>
      split
      · refine ⟨by simp [PollAnswer.sent], by simp [PollAnswer.sent], ?_, ?_, ?_,
          fun other live => (live_of_finish live).1⟩
        · simp [PollAnswer.sent, commands_finish]
        · simp [commands_finish]
        · simp [streams_finish]
      · next kept =>
        have live : queue.Live stream := ⟨state, found, by simpa using kept, by simpa using unended⟩
        have whole := take_commandsOf stream generation queue.waiting queue.commands
        have rest := take_suffix stream generation queue.waiting queue.commands
        split
        · cases sent : (take stream generation queue.waiting queue.commands).sent with
          | some stamped =>
            rw [sent] at whole
            refine ⟨fun other same => ?_, fun _ _ => live, whole, rest, rfl, fun _ live => live⟩
            obtain rfl := Option.some.inj same
            exact take_sent sent
          | none =>
            rw [sent] at whole
            exact ⟨by simp [PollAnswer.sent], fun _ _ => live, whole, rest, rfl,
              fun _ live => live⟩
        · split
          · exact idle
          · exact ⟨by simp [PollAnswer.sent], fun _ _ => live, rfl, List.suffix_rfl, rfl,
              fun _ live => live⟩

end CommandQueue

end ConfigWatch

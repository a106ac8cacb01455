import ConfigWatch.Queue.Command
import ConfigWatch.Table

/-!
# The command queue

Commands wait in order of their arrival. Outbound streams take them off one at a time, under a
lock that goes to the streams in the order in which they asked for it. A stream that finds the
queue empty keeps the lock while it waits, and gives it up with every command that it takes.
Commands of another generation than the present one are dropped when they are taken.
-/

set_option autoImplicit false

namespace ConfigWatch

/-- An outbound stream: the options of its requests and how far it has come. -/
structure OutboundStream where
  options : RequestOptions := {}
  cancelled : Bool := false
  ended : Bool := false
deriving DecidableEq, Inhabited

/-- The waiting commands, the streams opened so far, which stream has the lock and which ones
wait for it. -/
structure CommandQueue where
  commands : List StampedCommand := []
  streams : List OutboundStream := []
  holder : Option Nat := none
  waiting : List Nat := []
deriving DecidableEq, Inhabited

/-- What a stream answers when it is polled. -/
inductive PollAnswer where
  /-- A request, and the command that it carries. -/
  | request (stamped : StampedCommand) (request : WatchRequest)
  /-- Nothing yet. -/
  | pending
  /-- The stream ends now. -/
  | finished
  /-- The stream ended before, or was never opened. -/
  | over
deriving DecidableEq, Inhabited

/-- What a stream with the lock takes off the queue: the commands left, the next holder of the
lock and those who wait for it, the stale commands dropped and the command to send. -/
structure Taken where
  commands : List StampedCommand
  holder : Option Nat
  waiting : List Nat
  dropped : List StampedCommand
  sent : Option StampedCommand
deriving DecidableEq, Inhabited

namespace CommandQueue

def push (queue : CommandQueue) (generation : Nat) (command : Command) : CommandQueue :=
  { queue with commands := queue.commands ++ [⟨generation, command⟩] }

def openStream (queue : CommandQueue) (options : RequestOptions) : Nat × CommandQueue :=
  (queue.streams.length, { queue with streams := queue.streams ++ [{ options }] })

def cancel (queue : CommandQueue) (stream : Nat) : CommandQueue :=
  { queue with
    streams := queue.streams.modify stream (fun state => { state with cancelled := true }) }

/-- Takes the lock, or the place in the line for it, away from a stream. -/
def leave (queue : CommandQueue) (stream : Nat) : CommandQueue :=
  if queue.holder = some stream then
    { queue with holder := queue.waiting.head?, waiting := queue.waiting.tail }
  else { queue with waiting := queue.waiting.filter (fun other => other != stream) }

def finish (queue : CommandQueue) (stream : Nat) : CommandQueue :=
  let left := queue.leave stream
  { left with streams := left.streams.modify stream (fun state => { state with ended := true }) }

/-- What a stream with the lock takes. The lock is given up after every command, so when others
wait for it a stream that took a stale command joins the end of the line. -/
def take (stream generation : Nat) (waiting : List Nat) : List StampedCommand → Taken
  | [] => ⟨[], some stream, waiting, [], none⟩
  | stamped :: rest =>
    if stamped.generation = generation then
      ⟨rest, waiting.head?, waiting.tail, [], some stamped⟩
    else
      match waiting with
      | next :: others => ⟨rest, some next, others ++ [stream], [stamped], none⟩
      | [] =>
        let later := take stream generation [] rest
        { later with dropped := stamped :: later.dropped }

/-- Whether a stream may take commands: it has the lock, or nobody has. -/
def hasLock (queue : CommandQueue) (stream : Nat) : Bool :=
  queue.holder == some stream || queue.holder == none

/-- What a poll of a stream takes off the queue, when it takes anything. -/
def taken? (queue : CommandQueue) (stream generation : Nat) : Option Taken :=
  match queue.streams[stream]? with
  | none => none
  | some state =>
    if state.ended || state.cancelled then none
    else if queue.hasLock stream then some (take stream generation queue.waiting queue.commands)
    else none

/-- A poll of a stream under the present generation. Three things are taken as the runtime gives
them: the lock goes to those who ask for it in the order in which they asked; a stream looks
whether it was cancelled before it asks for the lock and before it receives; and no budget cuts a
poll short that skips stale commands. That a poll is one step is an assumption too: the stream is
not cancelled, and the generation stays, from its start to its answer. -/
def poll (queue : CommandQueue) (stream generation : Nat) : PollAnswer × CommandQueue :=
  match queue.streams[stream]? with
  | none => (.over, queue)
  | some state =>
    if state.ended then (.over, queue)
    else if state.cancelled then (.finished, queue.finish stream)
    else if queue.hasLock stream then
      let taken := take stream generation queue.waiting queue.commands
      let queue :=
        { queue with commands := taken.commands, holder := taken.holder, waiting := taken.waiting }
      match taken.sent with
      | some stamped => (.request stamped (stamped.command.toRequest state.options), queue)
      | none => (.pending, queue)
    else if queue.waiting.contains stream then (.pending, queue)
    else (.pending, { queue with waiting := queue.waiting ++ [stream] })

end CommandQueue

end ConfigWatch

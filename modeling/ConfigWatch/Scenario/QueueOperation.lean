import ConfigWatch.Queue.Basic

/-!
# Operations on a queue

A command queue by itself: commands arrive, the generation moves on, and any number of outbound
streams are opened, polled, cancelled and dropped in any order.
-/

set_option autoImplicit false

namespace ConfigWatch

/-- One operation on a queue. -/
inductive QueueOperation where
  /-- A command arrives, stamped with a generation. -/
  | push (generation : Nat) (command : Command)
  | setGeneration (generation : Nat)
  | openStream (options : RequestOptions)
  | poll (stream : Nat)
  | cancel (stream : Nat)
  /-- Whoever polls a stream lets go of it. -/
  | dropStream (stream : Nat)
deriving DecidableEq, Inhabited

/-- The answer to an operation on a queue. -/
inductive QueueAnswer where
  | nothing
  | pushed (subscription : UInt32)
  | opened (stream : Nat)
  | polled (answer : PollAnswer)
deriving DecidableEq, Inhabited

/-- A queue and the present generation. -/
structure QueueScenario where
  queue : CommandQueue := {}
  generation : Nat := 0
deriving DecidableEq, Inhabited

namespace QueueScenario

def perform (scenario : QueueScenario) : QueueOperation → QueueAnswer × QueueScenario
  | .push generation command =>
    (.pushed command.subscription,
      { scenario with queue := scenario.queue.push generation command })
  | .setGeneration generation => (.nothing, { scenario with generation })
  | .openStream options =>
    let (stream, queue) := scenario.queue.openStream options
    (.opened stream, { scenario with queue })
  | .poll stream =>
    let (answer, queue) := scenario.queue.poll stream scenario.generation
    (.polled answer, { scenario with queue })
  | .cancel stream => (.nothing, { scenario with queue := scenario.queue.cancel stream })
  | .dropStream stream => (.nothing, { scenario with queue := scenario.queue.finish stream })

def run (scenario : QueueScenario) : List QueueOperation → List QueueAnswer
  | [] => []
  | operation :: rest =>
    let (answer, scenario) := scenario.perform operation
    answer :: scenario.run rest

end QueueScenario

end ConfigWatch

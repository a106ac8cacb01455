import ConfigWatch.Cache.Cleanup
import ConfigWatch.Error
import ConfigWatch.Queue.Basic
import ConfigWatch.Settings.Basic

/-!
# The client

The state of a client, and what its watchers took note of. Every operation of the client is a
function of this state; an operation that the cache answers in one piece is one step.
-/

set_option autoImplicit false

namespace ConfigWatch

/-- What a watcher took note of: an event, or the answer to a call that it made in turn. -/
inductive Observation where
  | event (event : Event)
  | removed (found : Bool)
  | counted (subscriptions : Nat)
  | watching (subscription : UInt32) (watcher : Option UInt32)
  | refused (cause : Error)

/-- A note of a watcher. -/
structure Note where
  label : String
  registration : Nat
  observation : Observation

/-- The worker that owns the watch stream. -/
inductive StreamWorker where
  /-- It did not run yet. -/
  | starting
  /-- It asked for a stream and has no answer. -/
  | opening (stream : Nat)
  /-- It reads a stream; the commands go out on the numbered outbound stream. -/
  | reading (stream : Nat)
  /-- It waits, up to a time in milliseconds, before it asks again. -/
  | resting (until_ : Nat)
  | stopped
deriving DecidableEq, Inhabited

/-- The worker that sweeps the cache. -/
inductive SweepWorker where
  /-- It did not run yet. -/
  | starting
  /-- It waits for its next sweep, at a time in milliseconds. -/
  | sleeping (due : Nat)
  | stopped
  /-- It could not compute when to sweep. -/
  | failed
deriving DecidableEq, Inhabited

/-- The state of a client. -/
structure Client where
  settings : CacheSettings
  cache : Cache
  queue : CommandQueue := {}
  clock : Clock := {}
  closed : Bool := false
  streamWorker : StreamWorker := .starting
  sweepWorker : SweepWorker := .starting
  registrations : Nat := 0
  journal : List Note := []

namespace Client

def create (settings : CacheSettings) (clock : Clock) : Except Error Client := do
  settings.check
  return { settings, clock, cache := { capacity := settings.capacity.toNat } }

def now (client : Client) : Instant × Client :=
  (client.clock.read.1, { client with clock := client.clock.read.2 })

def ensureOpen (client : Client) : Except Error Unit :=
  if client.closed then .error .closed else .ok ()

/-- Adds a command for the server, stamped with the present generation. -/
def push (client : Client) (command : Command) : Client :=
  { client with queue := client.queue.push client.cache.generation command }

def note (client : Client) (label : String) (registration : Nat) (observation : Observation) :
    Client :=
  { client with journal := client.journal ++ [⟨label, registration, observation⟩] }

/-- Decodes the payload of an answer, with places when the settings ask for them. -/
def decodePayload (client : Client) (nodes : List Node) : Except DecodeError Payload.Decoded :=
  Payload.decodeWith client.settings.withPositions nodes.toArray

end Client

end ConfigWatch

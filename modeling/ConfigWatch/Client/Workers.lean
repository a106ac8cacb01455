import ConfigWatch.Client.Reply

/-!
# Workers

Two workers run behind a client. The stream worker asks for a watch stream, reads it until it
fails, resets the cache and asks again after a pause. The sweep worker sweeps the cache at regular
intervals. Both stop when the client is closed or dropped.
-/

set_option autoImplicit false

namespace ConfigWatch.Client

/-- The stream worker asks for a stream. The commands go out on a new outbound stream. -/
def requestStream (client : Client) : Nat × Client :=
  let (stream, queue) := client.queue.openStream client.settings.requestOptions
  (stream, { client with queue, streamWorker := .opening stream })

def streamOpened (client : Client) (stream : Nat) : Client :=
  { client with streamWorker := .reading stream }

/-- The outbound stream of the present attempt is told to end. -/
def cancelOutbound (client : Client) : Client :=
  match client.streamWorker with
  | .opening stream | .reading stream => { client with queue := client.queue.cancel stream }
  | _ => client

/-- An attempt failed: the outbound stream ends, the cache starts afresh, and the worker pauses. -/
def streamFailed (client : Client) : Client :=
  let client := client.cancelOutbound.reset
  { client with
    streamWorker := .resting (client.clock.elapsed + client.settings.retryBackoffMillis.toNat) }

def wantsStream (client : Client) : Bool :=
  match client.streamWorker with
  | .starting => true
  | .resting until_ => until_ ≤ client.clock.elapsed
  | _ => false

/-- The stream worker stops. A request for a stream that has no answer is given up, together
with its outbound stream. -/
def stopStreamWorker (client : Client) : Client :=
  let stopped := { client with streamWorker := .stopped }
  match client.streamWorker with
  | .opening stream => { stopped with queue := client.queue.finish stream }
  | .reading stream => { stopped with queue := client.queue.cancel stream }
  | _ => stopped

def sweepPeriod (client : Client) : Nat := client.settings.cleanupIntervalSeconds.toNat * 1000

/-- The sweep worker starts: its first sweep is one period away, if the clock counts that far. -/
def startSweepWorker (client : Client) : SweepWorker :=
  if client.clock.canAwait client.settings.cleanupIntervalSeconds.toNat then
    .sleeping (client.clock.elapsed + client.sweepPeriod)
  else .failed

/-- When to sweep after a sweep that was due at some time. A sweep that is more than five
milliseconds late moves the later ones. -/
def nextSweep (client : Client) (due : Nat) : Nat :=
  if due + 5 < client.clock.elapsed then client.clock.elapsed + client.sweepPeriod
  else due + client.sweepPeriod

def runSweepWorker (client : Client) : Client :=
  match client.sweepWorker with
  | .starting => { client with sweepWorker := client.startSweepWorker }
  | .sleeping due =>
    if due ≤ client.clock.elapsed then
      { client.sweep with sweepWorker := .sleeping (client.nextSweep due) }
    else client
  | .stopped | .failed => client

/-- The sweep worker stops. One that did not run yet finds out first when to sweep. -/
def stopSweepWorker (client : Client) : Client :=
  match client.sweepWorker with
  | .starting =>
    { client with
      sweepWorker := if client.startSweepWorker = .failed then .failed else .stopped }
  | .sleeping _ => { client with sweepWorker := .stopped }
  | .stopped | .failed => client

def beginClose (client : Client) : Client := { client with closed := true }

def stopWorkers (client : Client) : Client := client.stopStreamWorker.stopSweepWorker

/-- The workers are gone: unless one of them failed, the cache is reset, and every watcher is
told that its subscription was removed. -/
def finishClose (client : Client) : Except Error Unit × Client :=
  if client.sweepWorker = .failed then (.error .workerFailed, client) else (.ok (), client.reset)

def close (client : Client) : Except Error Unit × Client :=
  if client.closed then (.ok (), client) else client.beginClose.stopWorkers.finishClose

end ConfigWatch.Client

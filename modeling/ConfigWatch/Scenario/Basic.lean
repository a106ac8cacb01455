import ConfigWatch.Client.Read
import ConfigWatch.Client.Service
import ConfigWatch.Scenario.Transport

/-!
# Scenarios

A client at work against a scripted transport, on one thread and in virtual time. Between the
operations of a scenario the workers and the transport run until none of them has work left.
-/

set_option autoImplicit false

namespace ConfigWatch

/-- A request that passes the cache by. -/
inductive ServiceRequest where
  | reload (request : ReloadRequest)
  | trace (request : TraceRequest)
deriving DecidableEq

/-- What the server saw and the log recorded: the watch requests sent, whether an outbound stream
ended, the reads and other requests made, and the diagnostics of the server. -/
structure Activity where
  sent : List WatchRequest := []
  sentEnd : Bool := false
  reads : List ReadRequest := []
  requests : List ServiceRequest := []
  lines : List LogLine := []

/-- The state of a scenario. Once the client is dropped, only sessions and begun reads use it. -/
structure Scenario where
  client : Client
  transport : ScriptedTransport := {}
  dropped : Bool := false
  sessions : Table String Session := Table.empty
  reads : Table String ReadStep := Table.empty
  named : List NamespaceKey := []
  activity : Activity := {}

namespace Scenario

/-- The commands that an outbound stream gives until it has to wait or ends, and whether it ended.
Every poll but the last takes a command off the queue, which bounds the number of polls. -/
def drainStream (stream : Nat) : (polls : Nat) → Client → List WatchRequest × Bool × Client
  | 0, client => ([], false, client)
  | polls + 1, client =>
    let (answer, queue) := client.queue.poll stream client.cache.generation
    let client := { client with queue }
    match answer with
    | .request _ request =>
      let (requests, ended, client) := drainStream stream polls client
      (request :: requests, ended, client)
    | .pending => ([], false, client)
    | .finished | .over => ([], true, client)

/-- The transport reads one of its outbound streams, and lets it go when it ended. -/
def readOutbound (scenario : Scenario) (stream : Nat) : Scenario :=
  let (requests, ended, client) :=
    drainStream stream (scenario.client.queue.commands.length + 1) scenario.client
  let activity := scenario.activity
  { scenario with
    client
    transport := if ended then scenario.transport.release stream else scenario.transport
    activity :=
      { activity with
        sent := activity.sent ++ requests
        sentEnd := activity.sentEnd || ended } }

/-- The transport reads its outbound streams, unless it is paused. -/
def runTransport (scenario : Scenario) : Scenario :=
  if scenario.transport.paused then scenario
  else scenario.transport.outbound.foldl readOutbound scenario

/-- The stream worker reads what arrived, up to the end of the stream. -/
def readInbound (scenario : Scenario) : List Delivery → Scenario
  | [] => { scenario with transport := { scenario.transport with inbound := some [] } }
  | .reply reply :: rest =>
    let lines := scenario.activity.lines ++ Client.replyLines reply
    readInbound
      { scenario with
        client := scenario.client.handleReply reply
        activity := { scenario.activity with lines } }
      rest
  | .failure _ :: _ | .finished :: _ =>
    { scenario with
      client := scenario.client.streamFailed
      transport := scenario.transport.abandon }

def attempt (scenario : Scenario) : Scenario :=
  let (stream, client) := scenario.client.requestStream
  match scenario.transport.nextOpening with
  | (.hangs, transport) => { scenario with client, transport }
  | (.fails _, transport) =>
    let failed := client.streamFailed
    { scenario with client := { failed with queue := failed.queue.finish stream }, transport }
  | (.succeeds, transport) =>
    { scenario with client := client.streamOpened stream, transport := transport.open_ stream }

def runStreamWorker (scenario : Scenario) : Scenario :=
  if scenario.client.wantsStream then scenario.attempt
  else
    match scenario.client.streamWorker, scenario.transport.inbound with
    | .reading _, some waiting => scenario.readInbound waiting
    | _, _ => scenario

/-- Runs both workers until they have to wait. They stop when the client was closed. -/
def runWorkers (scenario : Scenario) : Scenario :=
  if scenario.client.closed then
    { scenario with
      client := scenario.client.stopWorkers
      transport := scenario.transport.abandon }
  else
    let scenario := scenario.runStreamWorker
    { scenario with client := scenario.client.runSweepWorker }

def settle (scenario : Scenario) : Scenario := scenario.runWorkers.runTransport

/-- The longest time that passes at once, in milliseconds. -/
def timeSlice : Nat := 100

/-- Lets time pass in slices. Timers that are due within a slice fire at its end. -/
def elapse : (slices millis : Nat) → Scenario → Scenario
  | 0, _, scenario => scenario
  | slices + 1, millis, scenario =>
    if millis = 0 then scenario
    else
      let slice := min timeSlice millis
      let later :=
        { scenario with
          client := { scenario.client with clock := scenario.client.clock.advance slice } }
      elapse slices (millis - slice) later.settle

def advance (scenario : Scenario) (millis : Nat) : Scenario :=
  elapse (millis / timeSlice + 1) millis scenario

/-- Places a removal among the removals that directly follow, in ascending order of their ids. -/
def placeRemoval (request : WatchRequest) : List WatchRequest → List WatchRequest
  | [] => [request]
  | next :: rest =>
    if request.remove && next.remove && next.uid < request.uid then
      next :: placeRemoval request rest
    else request :: next :: rest

/-- Requests with the removals that stand next to each other in ascending order of their ids. -/
def sortRemovals (requests : List WatchRequest) : List WatchRequest :=
  requests.foldr placeRemoval []

end Scenario

end ConfigWatch

import ConfigWatch.Client.Workers

/-!
# A transport that follows a script

The far end of a watch stream, played from a script: how the next requests for a stream come out,
what arrives on the stream that is open, and whether the commands of the client are read.
-/

set_option autoImplicit false

namespace ConfigWatch

/-- What becomes of a request for a stream. -/
inductive Opening where
  /-- There is never an answer. -/
  | hangs
  | fails (cause : Error)
  | succeeds

/-- What arrives on a stream. A failure or the end leaves nothing to read after it. -/
inductive Delivery where
  | reply (reply : WatchResponse)
  | failure (cause : Error)
  | finished

/-- The scripted far end: the openings to come, the number of the stream opened last, what waits
to be read on it, whether more can be put there, the outbound streams held and whether they are
read. -/
structure ScriptedTransport where
  plan : List Opening := []
  stream : Nat := 0
  inbound : Option (List Delivery) := none
  accepting : Bool := false
  outbound : List Nat := []
  paused : Bool := false

namespace ScriptedTransport

/-- Puts something on the open stream, and tells whether there is one. -/
def deliver (transport : ScriptedTransport) (delivery : Delivery) : Bool × ScriptedTransport :=
  match transport.inbound with
  | some waiting =>
    if transport.accepting then
      (true, { transport with inbound := some (waiting ++ [delivery]) })
    else (false, transport)
  | none => (false, transport)

/-- Puts several things on the open stream, one after the other. -/
def deliverAll (transport : ScriptedTransport) : List Delivery → List Bool × ScriptedTransport
  | [] => ([], transport)
  | delivery :: rest =>
    let (accepted, transport) := transport.deliver delivery
    let (others, transport) := transport.deliverAll rest
    (accepted :: others, transport)

/-- The next opening of the script; with an empty script, requests succeed. -/
def nextOpening (transport : ScriptedTransport) : Opening × ScriptedTransport :=
  match transport.plan with
  | [] => (.succeeds, transport)
  | opening :: rest => (opening, { transport with plan := rest })

/-- A stream is open: it reads from a new inbound side and holds its outbound side. -/
def open_ (transport : ScriptedTransport) (stream : Nat) : ScriptedTransport :=
  { transport with
    stream
    inbound := some []
    accepting := true
    outbound := transport.outbound ++ [stream] }

def abandon (transport : ScriptedTransport) : ScriptedTransport :=
  { transport with inbound := none, accepting := false }

def release (transport : ScriptedTransport) (stream : Nat) : ScriptedTransport :=
  { transport with outbound := transport.outbound.filter (fun held => held != stream) }

/-- Nothing more is put on the stream, and its outbound side is let go. -/
def hangUp (transport : ScriptedTransport) : ScriptedTransport :=
  { transport with accepting := false }.release transport.stream

end ScriptedTransport

end ConfigWatch

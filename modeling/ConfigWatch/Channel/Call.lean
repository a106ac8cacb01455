import ConfigWatch.Channel.Metadata
import ConfigWatch.Channel.Timeout
import ConfigWatch.Protocol.Encoding
import ConfigWatch.Text.Percent

/-!
# Calls

One call over a channel: what the server sees of it, and what comes of the server's answer. A read
and a reload take one message and give one; a watch takes any number and gives any number; a trace
takes one and gives any number.
-/

set_option autoImplicit false

namespace ConfigWatch

/-- The calls of the configuration service. -/
inductive CallKind where
  | read
  | reload
  | watch
  | trace
deriving DecidableEq

namespace CallKind

def path : CallKind → String
  | .read => "/mhconfig.ConfigService/Get"
  | .reload => "/mhconfig.ConfigService/Update"
  | .watch => "/mhconfig.ConfigService/Watch"
  | .trace => "/mhconfig.ConfigService/Trace"

def isLimited : CallKind → Bool
  | .read | .reload => true
  | .watch | .trace => false

end CallKind

/-- A message as it travels. -/
inductive SentMessage where
  | plain (content : Bytes)
  | compressed (content : Bytes)
deriving DecidableEq

/-- A call as the server sees it. -/
structure SeenCall where
  path : String
  headers : List (String × String)
  messages : List SentMessage

/-- The answer of a server: encoded messages, then a status with a text that may have escapes.
The status may also come at once, in place of everything else. -/
structure ServerAnswer where
  messages : List Bytes := []
  status : Int := 0
  text : String := ""
  atOnce : Bool := false

/-- What a server does about a call. -/
inductive ServerReaction where
  | silent
  | answers (answer : ServerAnswer)

namespace ServerAnswer

/-- The code and the message of the status. A text that is not well-formed makes it unknown. -/
def outcome (answer : ServerAnswer) : Nat × String :=
  match Utf8.decode (Percent.decode (Utf8.encode answer.text)) with
  | .ok message => (callCode answer.status, message)
  | .error fault => (2, "Error deserializing status message header: " ++ fault.message)

/-- The error that the status is, unless the call went well. -/
def failure? (answer : ServerAnswer) : Option Error :=
  let (code, message) := answer.outcome
  if code = 0 then none else some (.call code (some message))

def refusal? (answer : ServerAnswer) : Option Error :=
  if answer.atOnce then answer.failure? else none

end ServerAnswer

namespace Call

/-- The error of a message that cannot be decoded, and of a message that is missing. -/
def malformed : Error := .call 13 none

def timedOut : Error := .call 1 none

def headers (settings : ChannelSettings) (kind : CallKind) (metadata : List (String × String)) :
    List (String × String) :=
  [("content-type", "application/grpc"), ("te", "trailers")] ++ metadata ++
    (if kind.isLimited then
      [("grpc-timeout", Timeout.toText settings.requestTimeoutMillis.toNat)] else []) ++
    (if settings.compression then
      [("grpc-encoding", "gzip"), ("grpc-accept-encoding", "gzip,identity")] else [])

/-- A call as the server sees it, unless the token cannot be sent. -/
def make (settings : ChannelSettings) (kind : CallKind) (messages : List Bytes) :
    Except Error SeenCall :=
  (Metadata.ofSettings settings).map (fun metadata =>
    { path := kind.path
      headers := headers settings kind metadata
      messages :=
        messages.map (if settings.compression then SentMessage.compressed else .plain) })

section

variable {α : Type} [Wire.Message α]

/-- Decodes the messages of an answer up to the first that cannot be decoded. -/
def decodeAll : List Bytes → List α × Bool
  | [] => ([], true)
  | bytes :: rest =>
    match Wire.Message.decode bytes with
    | none => ([], false)
    | some message =>
      let (messages, complete) := decodeAll rest
      (message :: messages, complete)

/-- What follows the good messages of an answer: an error, or nothing when all went well. -/
def ending? (answer : ServerAnswer) (complete : Bool) : Option Error :=
  if complete then answer.failure? else some malformed

/-- What comes of a call that gives one message: the first one, if the answer is good to its
end. -/
def single : ServerReaction → Except Error α
  | .silent => .error timedOut
  | .answers answer =>
    match answer.refusal? with
    | some cause => .error cause
    | none =>
      let (messages, complete) := decodeAll answer.messages
      match ending? answer complete, messages with
      | some cause, _ => .error cause
      | none, [] => .error malformed
      | none, message :: _ => .ok message

/-- What comes of a call that gives any number of messages: the good ones, and the error that
ends them if there is one. -/
def many : ServerReaction → Except Error (List (Except Error α))
  | .silent => .ok []
  | .answers answer =>
    match answer.refusal? with
    | some cause => .error cause
    | none =>
      let (messages, complete) := decodeAll answer.messages
      .ok (messages.map .ok ++ ((ending? answer complete).map .error).toList)

end

/-- How long a call waits for the server, in milliseconds. -/
def waitedMillis (settings : ChannelSettings) (kind : CallKind) : ServerReaction → Nat
  | .silent => if kind.isLimited then settings.requestTimeoutMillis.toNat else 0
  | .answers _ => 0

end Call

end ConfigWatch

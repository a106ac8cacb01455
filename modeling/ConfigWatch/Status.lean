/-!
# Statuses and levels

The outcomes that the service reports, under one set of names, and the levels of its
diagnostics. Each kind of message numbers the outcomes in its own way.
-/

set_option autoImplicit false

namespace ConfigWatch

/-- The outcome of a read, a reload or a watch. -/
inductive ReplyStatus where
  | ok
  | error
  | invalidVersion
  | refGraphIsNotDag
  | uidInUse
  | unknownUid
  | removed
  | permissionDenied
  | invalidArgument
deriving DecidableEq, Inhabited, Repr

namespace ReplyStatus

def isOk : ReplyStatus → Bool
  | .ok => true
  | _ => false

def toText : ReplyStatus → String
  | .ok => "OK"
  | .error => "ERROR"
  | .invalidVersion => "INVALID_VERSION"
  | .refGraphIsNotDag => "REF_GRAPH_IS_NOT_DAG"
  | .uidInUse => "UID_IN_USE"
  | .unknownUid => "UNKNOWN_UID"
  | .removed => "REMOVED"
  | .permissionDenied => "PERMISSION_DENIED"
  | .invalidArgument => "INVALID_ARGUMENT"

def all : List ReplyStatus :=
  [.ok, .error, .invalidVersion, .refGraphIsNotDag, .uidInUse, .unknownUid, .removed,
    .permissionDenied, .invalidArgument]

def ofText? (name : String) : Option ReplyStatus := all.find? (fun status => status.toText == name)

/-- The outcome that a number in news about a subscription stands for. -/
def ofWatchCode? (code : Int32) : Option ReplyStatus :=
  if code = 0 then some .ok
  else if code = 1 then some .error
  else if code = 2 then some .invalidVersion
  else if code = 3 then some .refGraphIsNotDag
  else if code = 4 then some .uidInUse
  else if code = 5 then some .unknownUid
  else if code = 6 then some .removed
  else if code = 7 then some .permissionDenied
  else if code = 8 then some .invalidArgument
  else none

/-- The outcome that a number in the answer to a read stands for. -/
def ofReadCode? (code : Int32) : Option ReplyStatus :=
  if code = 0 then some .ok
  else if code = 1 then some .error
  else if code = 2 then some .invalidVersion
  else if code = 3 then some .refGraphIsNotDag
  else if code = 4 then some .permissionDenied
  else if code = 5 then some .invalidArgument
  else none

/-- The outcome that a number in the answer to a reload stands for. -/
def ofReloadCode? (code : Int32) : Option ReplyStatus :=
  if code = 0 then some .ok else if code = 1 then some .error else none

/-- The outcome of news about a subscription; an unknown number is an error. -/
def ofWatchCode (code : Int32) : ReplyStatus := (ofWatchCode? code).getD .error

def ofReadCode (code : Int32) : ReplyStatus := (ofReadCode? code).getD .error

/-- The outcome of a reload; an unknown number is an error. -/
def ofReloadCode (code : Int32) : ReplyStatus := (ofReloadCode? code).getD .error

end ReplyStatus

/-- What happened to a traced document. -/
inductive TraceStatus where
  | returnedElements
  | error
  | addedWatcher
  | existingWatcher
  | removedWatcher
deriving DecidableEq, Inhabited, Repr

namespace TraceStatus

def toText : TraceStatus → String
  | .returnedElements => "RETURNED_ELEMENTS"
  | .error => "ERROR"
  | .addedWatcher => "ADDED_WATCHER"
  | .existingWatcher => "EXISTING_WATCHER"
  | .removedWatcher => "REMOVED_WATCHER"

/-- The happening that a number stands for; an unknown number is an error. -/
def ofCode (code : Int32) : TraceStatus :=
  if code = 0 then .returnedElements
  else if code = 1 then .error
  else if code = 2 then .addedWatcher
  else if code = 3 then .existingWatcher
  else if code = 4 then .removedWatcher
  else .error

end TraceStatus

/-- How much the server's diagnostics say, from the least to the most. -/
inductive LogLevel where
  | error
  | warn
  | info
  | debug
  | trace
deriving DecidableEq, Inhabited, Repr

namespace LogLevel

/-- The number that stands for a level, which also orders the levels. -/
def rank : LogLevel → Nat
  | .error => 0
  | .warn => 1
  | .info => 2
  | .debug => 3
  | .trace => 4

def code (level : LogLevel) : Int32 := Int32.ofNat level.rank

/-- The level that a number stands for; an unknown number is an error. -/
def ofCode (code : Int32) : LogLevel :=
  if code = 1 then .warn
  else if code = 2 then .info
  else if code = 3 then .debug
  else if code = 4 then .trace
  else .error

def toText : LogLevel → String
  | .error => "error"
  | .warn => "warn"
  | .info => "info"
  | .debug => "debug"
  | .trace => "trace"

/-- The name of a level in capitals, as log lines show it. -/
def capitals : LogLevel → String
  | .error => "ERROR"
  | .warn => "WARN"
  | .info => "INFO"
  | .debug => "DEBUG"
  | .trace => "TRACE"

def all : List LogLevel := [.error, .warn, .info, .debug, .trace]

def ofText? (name : String) : Option LogLevel := all.find? (fun level => level.toText == name)

end LogLevel

end ConfigWatch

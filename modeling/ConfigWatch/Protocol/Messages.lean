import ConfigWatch.Payload.Node

/-!
# Messages of the configuration service

The service answers reads of single documents, takes requests to reload, streams the changes of
watched documents and traces what others do with a document. Statuses and levels are kept as
the numbers that were sent, known or not.
-/

set_option autoImplicit false

namespace ConfigWatch

/-- A diagnostic of the server as it is sent. -/
structure LogEntry where
  level : Int32 := 0
  message : String := ""
  position : Option Position := none
  origin : Option Position := none
deriving DecidableEq, Inhabited

/-- A source file that positions refer to. -/
structure Source where
  id : UInt32 := 0
  checksum : UInt32 := 0
  path : String := ""
deriving DecidableEq, Inhabited

/-- Asks for one document, at a version when it is not zero. -/
structure ReadRequest where
  root : String := ""
  overrides : List String := []
  flavors : List String := []
  document : String := ""
  version : UInt32 := 0
  logLevel : Int32 := 0
  withPositions : Bool := false
deriving DecidableEq, Inhabited

/-- The answer to a read. -/
structure ReadResponse where
  status : Int32 := 0
  namespaceId : UInt64 := 0
  version : UInt32 := 0
  checksum : Bytes := []
  nodes : List Node := []
  logs : List LogEntry := []
  sources : List Source := []
deriving DecidableEq, Inhabited

/-- Asks to reload some files of a root, or all of it. -/
structure ReloadRequest where
  root : String := ""
  paths : List String := []
  all : Bool := false
deriving DecidableEq, Inhabited

/-- The answer to a reload. -/
structure ReloadResponse where
  status : Int32 := 0
  namespaceId : UInt64 := 0
  version : UInt32 := 0
deriving DecidableEq, Inhabited

/-- Starts watching a document under a subscription id, or stops. -/
structure WatchRequest where
  uid : UInt32 := 0
  remove : Bool := false
  root : String := ""
  overrides : List String := []
  flavors : List String := []
  document : String := ""
  logLevel : Int32 := 0
  withPositions : Bool := false
deriving DecidableEq, Inhabited

/-- News about one subscription. -/
structure WatchResponse where
  uid : UInt32 := 0
  status : Int32 := 0
  namespaceId : UInt64 := 0
  version : UInt32 := 0
  checksum : Bytes := []
  nodes : List Node := []
  logs : List LogEntry := []
  sources : List Source := []
deriving DecidableEq, Inhabited

/-- Asks to follow what happens to a document. -/
structure TraceRequest where
  root : String := ""
  overrides : List String := []
  flavors : List String := []
  document : String := ""
deriving DecidableEq, Inhabited

/-- One thing that happened to a traced document. -/
structure TraceResponse where
  status : Int32 := 0
  namespaceId : UInt64 := 0
  version : UInt32 := 0
  overrides : List String := []
  flavors : List String := []
  document : String := ""
  peer : String := ""
deriving DecidableEq, Inhabited

end ConfigWatch

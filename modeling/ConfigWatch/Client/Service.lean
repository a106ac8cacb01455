import ConfigWatch.Client.Basic

/-!
# Reloads and traces

Two calls that pass the cache by: a reload asks the server to read its files again, a trace
follows what the server does with one document.
-/

set_option autoImplicit false

namespace ConfigWatch

/-- The answer to a reload: its outcome and the version that the root has now. -/
structure ReloadReply where
  status : ReplyStatus
  version : Version
deriving DecidableEq, Inhabited

/-- Something the server did with a traced document. -/
structure TraceEvent where
  status : TraceStatus
  version : Version
  overrides : List String := []
  flavors : List String := []
  document : String := ""
  peer : String := ""
deriving DecidableEq, Inhabited

namespace ReloadReply

def ofResponse (response : ReloadResponse) : ReloadReply :=
  ⟨ReplyStatus.ofReloadCode response.status, ⟨response.namespaceId, response.version⟩⟩

end ReloadReply

namespace TraceEvent

def ofResponse (response : TraceResponse) : TraceEvent :=
  { status := TraceStatus.ofCode response.status
    version := ⟨response.namespaceId, response.version⟩
    overrides := response.overrides
    flavors := response.flavors
    document := response.document
    peer := response.peer }

end TraceEvent

namespace Client

/-- The request to reload some files of a root. Without a list of files all of it is reloaded;
an empty list reloads nothing. -/
def reloadRequest (client : Client) (root : String) (paths : Option (List String)) :
    Except Error ReloadRequest :=
  client.ensureOpen.map (fun _ => { root, paths := paths.getD [], all := paths.isNone })

def traceRequest (client : Client) (space : NamespaceKey) (key : DocumentKey) :
    Except Error TraceRequest :=
  client.ensureOpen.map (fun _ =>
    { root := space.root
      overrides := space.overrides
      flavors := key.flavors
      document := key.document })

end Client

end ConfigWatch

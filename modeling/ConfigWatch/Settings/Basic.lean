import ConfigWatch.Error
import ConfigWatch.Queue.Command
import ConfigWatch.Value.Text

/-!
# Settings

The sections of the settings with their defaults, and the checks that a section has to pass. The
first check that fails names the reason.
-/

set_option autoImplicit false

namespace ConfigWatch

/-- How the channel to the server is encrypted. -/
structure EncryptionSettings where
  enabled : Bool := false
  caCertificatePath : Option String := none
  domainName : Option String := none
deriving DecidableEq, Inhabited

/-- The channel to the server. -/
structure ChannelSettings where
  endpoint : String := "http://127.0.0.1:2222"
  connectTimeoutMillis : UInt64 := 1000
  requestTimeoutMillis : UInt64 := 3000
  tcpKeepaliveSeconds : UInt64 := 300
  keepAliveIntervalSeconds : UInt64 := 60
  keepAliveTimeoutSeconds : UInt64 := 20
  compression : Bool := false
  authToken : Option String := none
  encryption : EncryptionSettings := {}
deriving DecidableEq, Inhabited

/-- The cache and its workers. -/
structure CacheSettings where
  capacity : UInt64 := 1000
  cleanupIntervalSeconds : UInt64 := 60
  inactivityThresholdSeconds : UInt64 := 60
  retryBackoffMillis : UInt64 := 1000
  logLevel : LogLevel := .error
  withPositions : Bool := false
deriving DecidableEq, Inhabited

/-- Where log lines go. -/
structure LogSettings where
  directory : Option String := none
  fileName : String := "mhconfig-watch.log"
deriving DecidableEq, Inhabited

/-- A document to watch. -/
structure WatchTarget where
  root : String
  overrides : List String := []
  document : String
  flavors : List String := []
deriving DecidableEq, Inhabited

/-- All settings. -/
structure Settings where
  channel : ChannelSettings := {}
  cache : CacheSettings := {}
  log : LogSettings := {}
  watches : List WatchTarget := []
deriving DecidableEq, Inhabited

namespace EncryptionSettings

/-- Options of the encryption are only accepted when it is enabled. -/
def check (settings : EncryptionSettings) : Except Error Unit :=
  if !settings.enabled && (settings.caCertificatePath.isSome || settings.domainName.isSome) then
    .error (.setting "TLS options are set but TLS is disabled")
  else .ok ()

end EncryptionSettings

namespace ChannelSettings

/-- The endpoint is given, the timeouts leave room for each other, and a token says something. -/
def check (settings : ChannelSettings) : Except Error Unit := do
  if settings.endpoint = "" then throw (.setting "client endpoint cannot be empty")
  if settings.connectTimeoutMillis = 0 then throw (.setting "connect timeout must be > 0")
  if settings.requestTimeoutMillis ≤ settings.connectTimeoutMillis then
    throw (.setting ("request timeout " ++ toString settings.requestTimeoutMillis.toNat ++
      "ms must exceed connect timeout " ++ toString settings.connectTimeoutMillis.toNat ++ "ms"))
  if settings.keepAliveIntervalSeconds ≤ settings.keepAliveTimeoutSeconds then
    throw (.setting ("http2 keepalive timeout " ++
      toString settings.keepAliveTimeoutSeconds.toNat ++ "s must be shorter than its interval " ++
      toString settings.keepAliveIntervalSeconds.toNat ++ "s"))
  if settings.authToken = some "" then
    throw (.setting "auth token cannot be empty, leave it unset instead")
  settings.encryption.check

end ChannelSettings

namespace CacheSettings

def check (settings : CacheSettings) : Except Error Unit := do
  if settings.capacity = 0 then throw (.setting "cache capacity must be > 0")
  if settings.cleanupIntervalSeconds = 0 then throw (.setting "cleanup interval must be > 0")
  if settings.inactivityThresholdSeconds = 0 then
    throw (.setting "inactivity threshold must be > 0")
  if settings.retryBackoffMillis = 0 then throw (.setting "retry backoff must be > 0")

/-- What the client wants from the server in all its requests. -/
def requestOptions (settings : CacheSettings) : RequestOptions :=
  { logLevel := settings.logLevel, withPositions := settings.withPositions }

end CacheSettings

namespace WatchTarget

def space (target : WatchTarget) : NamespaceKey := ⟨target.root, target.overrides⟩

def key (target : WatchTarget) : DocumentKey := ⟨target.document, target.flavors⟩

def quotedList (items : List String) : String :=
  String.ofList ('[' :: (Value.separated (items.map Quoted.chars) ++ [']']))

def debugText (target : WatchTarget) : String :=
  "WatchTarget \x7b root_path: " ++ Quoted.quote target.root ++ ", overrides: " ++
    quotedList target.overrides ++ ", document: " ++ Quoted.quote target.document ++
    ", flavors: " ++ quotedList target.flavors ++ " \x7d"

def check (target : WatchTarget) : Except Error Unit :=
  if target.root = "" ∨ target.document = "" then
    .error (.setting ("watch target " ++ target.debugText ++ " needs a root_path and a document"))
  else .ok ()

end WatchTarget

namespace Settings

/-- The channel, the cache and every target pass their checks, in this order. -/
def check (settings : Settings) : Except Error Unit := do
  settings.channel.check
  settings.cache.check
  settings.watches.forM WatchTarget.check

end Settings

def optionalText (text : Option String) : String :=
  match text with
  | none => "None"
  | some content => "Some(" ++ Quoted.quote content ++ ")"

def truthText (truth : Bool) : String := if truth then "true" else "false"

namespace EncryptionSettings

def debugText (settings : EncryptionSettings) : String :=
  "TlsConfig \x7b enable_tls: " ++ truthText settings.enabled ++ ", ca_certificate_path: " ++
    optionalText settings.caCertificatePath ++ ", domain_name: " ++
    optionalText settings.domainName ++ " \x7d"

end EncryptionSettings

namespace ChannelSettings

/-- The section with the names of its parts; the token is never shown. -/
def debugText (settings : ChannelSettings) : String :=
  "ClientConfig \x7b endpoint: " ++ Quoted.quote settings.endpoint ++ ", connect_timeout_in_ms: " ++
    toString settings.connectTimeoutMillis.toNat ++ ", request_timeout_in_ms: " ++
    toString settings.requestTimeoutMillis.toNat ++ ", enable_compression: " ++
    truthText settings.compression ++ ", auth_token: " ++
    optionalText (settings.authToken.map (fun _ => "<redacted>")) ++ ", tls: " ++
    settings.encryption.debugText ++ " \x7d"

end ChannelSettings

/-- All times of the settings in milliseconds: connecting, a request, the three keepalive times,
the interval of sweeps, the threshold of inactivity and the backoff. -/
def Settings.timesInMillis (settings : Settings) : List Nat :=
  [ settings.channel.connectTimeoutMillis.toNat,
    settings.channel.requestTimeoutMillis.toNat,
    settings.channel.tcpKeepaliveSeconds.toNat * 1000,
    settings.channel.keepAliveIntervalSeconds.toNat * 1000,
    settings.channel.keepAliveTimeoutSeconds.toNat * 1000,
    settings.cache.cleanupIntervalSeconds.toNat * 1000,
    settings.cache.inactivityThresholdSeconds.toNat * 1000,
    settings.cache.retryBackoffMillis.toNat ]

end ConfigWatch

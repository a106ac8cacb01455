import ConfigWatch.Decimal.Numeral
import ConfigWatch.Settings.Basic
import ConfigWatch.Settings.Setting

/-!
# Sections from settings

What a setting means where a number, a truth value, a string or a section is expected. Numbers,
truth values and strings stand in for one another where that makes sense. A section is read from
a table by the names of its parts, or from a list by their places; names that it does not know
are left out of account.
-/

set_option autoImplicit false

namespace ConfigWatch

namespace Setting

/-- Whether a string is one of several words, whatever the case of its letters. -/
def isWord (content : String) (words : List String) : Bool := words.contains (lower content)

def word? : Setting → Option UInt64
  | .flag truth => some (if truth then 1 else 0)
  | .int number => if 0 ≤ number then some (UInt64.ofNat number.toNat) else none
  | .float number => some number.roundToWord
  | .text content =>
    if isWord content ["true", "on", "yes"] then some 1
    else if isWord content ["false", "off", "no"] then some 0
    else Numeral.uint64? content.toList
  | .absent | .list _ | .table _ => none

def flag? : Setting → Option Bool
  | .flag truth => some truth
  | .int number => some (number != 0)
  | .float number => some (!number.isZero)
  | .text content =>
    if isWord content ["1", "true", "on", "yes"] then some true
    else if isWord content ["0", "false", "off", "no"] then some false
    else none
  | .absent | .list _ | .table _ => none

def text? : Setting → Option String
  | .flag truth => some (truthText truth)
  | .int number => some (toString number)
  | .float number => some number.toText
  | .text content => some content
  | .absent | .list _ | .table _ => none

def optionalText? : Setting → Option (Option String)
  | .absent => some none
  | setting => setting.text?.map some

def list? : Setting → Option (List Setting)
  | .list items => some items
  | _ => none

def texts? (setting : Setting) : Option (List String) := setting.list?.bind (List.mapM text?)

/-- The level with a name, whatever the case of its letters. -/
def levelNamed? (name : String) : Option LogLevel := LogLevel.ofText? (lower name)

/-- A level: its name, or a table with its name as the only entry. -/
def level? : Setting → Option LogLevel
  | .text name => levelNamed? name
  | .table [(name, _)] => levelNamed? name
  | _ => none

def parts? : Setting → Option (Nat → String → Option Setting)
  | .table entries => some (fun _ name => Table.lookup name entries)
  | .list items => some (fun place _ => items[place]?)
  | _ => none

def orDefault {α : Type} (default : α) (read : Setting → Option α) : Option Setting → Option α
  | none => some default
  | some setting => read setting

end Setting

open Setting

def EncryptionSettings.ofSetting? (setting : Setting) : Option EncryptionSettings := do
  let part ← setting.parts?
  return {
    enabled := ← orDefault false flag? (part 0 "enable_tls")
    caCertificatePath := ← orDefault none optionalText? (part 1 "ca_certificate_path")
    domainName := ← orDefault none optionalText? (part 2 "domain_name") }

def ChannelSettings.ofSetting? (setting : Setting) : Option ChannelSettings := do
  let standard : ChannelSettings := {}
  let part ← setting.parts?
  return {
    endpoint := ← orDefault standard.endpoint text? (part 0 "endpoint")
    connectTimeoutMillis :=
      ← orDefault standard.connectTimeoutMillis word? (part 1 "connect_timeout_in_ms")
    requestTimeoutMillis :=
      ← orDefault standard.requestTimeoutMillis word? (part 2 "request_timeout_in_ms")
    tcpKeepaliveSeconds :=
      ← orDefault standard.tcpKeepaliveSeconds word? (part 3 "tcp_keepalive_in_secs")
    keepAliveIntervalSeconds :=
      ← orDefault standard.keepAliveIntervalSeconds word?
        (part 4 "http2_keep_alive_interval_in_secs")
    keepAliveTimeoutSeconds :=
      ← orDefault standard.keepAliveTimeoutSeconds word?
        (part 5 "http2_keep_alive_timeout_in_secs")
    compression := ← orDefault standard.compression flag? (part 6 "enable_compression")
    authToken := ← orDefault standard.authToken optionalText? (part 7 "auth_token")
    encryption := ← orDefault {} EncryptionSettings.ofSetting? (part 8 "tls") }

def CacheSettings.ofSetting? (setting : Setting) : Option CacheSettings := do
  let standard : CacheSettings := {}
  let part ← setting.parts?
  return {
    capacity := ← orDefault standard.capacity word? (part 0 "capacity")
    cleanupIntervalSeconds :=
      ← orDefault standard.cleanupIntervalSeconds word? (part 1 "cleanup_interval_in_secs")
    inactivityThresholdSeconds :=
      ← orDefault standard.inactivityThresholdSeconds word?
        (part 2 "inactivity_threshold_in_secs")
    retryBackoffMillis :=
      ← orDefault standard.retryBackoffMillis word? (part 3 "retry_backoff_in_ms")
    logLevel := ← orDefault standard.logLevel level? (part 4 "log_level")
    withPositions := ← orDefault standard.withPositions flag? (part 5 "with_position") }

def LogSettings.ofSetting? (setting : Setting) : Option LogSettings := do
  let standard : LogSettings := {}
  let part ← setting.parts?
  return {
    directory := ← orDefault standard.directory optionalText? (part 0 "dir")
    fileName := ← orDefault standard.fileName text? (part 1 "file_name") }

/-- A document to watch. Its root and its name have no default. -/
def WatchTarget.ofSetting? (setting : Setting) : Option WatchTarget := do
  let part ← setting.parts?
  return {
    root := ← (← part 0 "root_path").text?
    overrides := ← orDefault [] texts? (part 1 "overrides")
    document := ← (← part 2 "document").text?
    flavors := ← orDefault [] texts? (part 3 "flavors") }

def WatchTarget.listOfSetting? (setting : Setting) : Option (List WatchTarget) :=
  setting.list?.bind (List.mapM WatchTarget.ofSetting?)

def Settings.ofSetting? (setting : Setting) : Option Settings := do
  let part ← setting.parts?
  return {
    channel := ← orDefault {} ChannelSettings.ofSetting? (part 0 "client")
    cache := ← orDefault {} CacheSettings.ofSetting? (part 1 "cache")
    log := ← orDefault {} LogSettings.ofSetting? (part 2 "log")
    watches := ← orDefault [] WatchTarget.listOfSetting? (part 3 "watches") }

end ConfigWatch

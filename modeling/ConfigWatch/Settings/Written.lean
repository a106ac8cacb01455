import ConfigWatch.Settings.Sections

/-!
# Settings written out

The settings as a tree of settings in which every part has its name and nothing is left out.
Reading the tree again gives the settings back.
-/

set_option autoImplicit false

namespace ConfigWatch

namespace Setting

def ofWord (word : UInt64) : Setting := .int word.toNat

def ofOptional : Option String → Setting
  | none => .absent
  | some content => .text content

def ofTexts (texts : List String) : Setting := .list (texts.map .text)

end Setting

open Setting

def EncryptionSettings.toSetting (settings : EncryptionSettings) : Setting :=
  .table [
    ("enable_tls", .flag settings.enabled),
    ("ca_certificate_path", ofOptional settings.caCertificatePath),
    ("domain_name", ofOptional settings.domainName)]

def ChannelSettings.toSetting (settings : ChannelSettings) : Setting :=
  .table [
    ("endpoint", .text settings.endpoint),
    ("connect_timeout_in_ms", ofWord settings.connectTimeoutMillis),
    ("request_timeout_in_ms", ofWord settings.requestTimeoutMillis),
    ("tcp_keepalive_in_secs", ofWord settings.tcpKeepaliveSeconds),
    ("http2_keep_alive_interval_in_secs", ofWord settings.keepAliveIntervalSeconds),
    ("http2_keep_alive_timeout_in_secs", ofWord settings.keepAliveTimeoutSeconds),
    ("enable_compression", .flag settings.compression),
    ("auth_token", ofOptional settings.authToken),
    ("tls", settings.encryption.toSetting)]

def CacheSettings.toSetting (settings : CacheSettings) : Setting :=
  .table [
    ("capacity", ofWord settings.capacity),
    ("cleanup_interval_in_secs", ofWord settings.cleanupIntervalSeconds),
    ("inactivity_threshold_in_secs", ofWord settings.inactivityThresholdSeconds),
    ("retry_backoff_in_ms", ofWord settings.retryBackoffMillis),
    ("log_level", .text settings.logLevel.toText),
    ("with_position", .flag settings.withPositions)]

def LogSettings.toSetting (settings : LogSettings) : Setting :=
  .table [
    ("dir", ofOptional settings.directory),
    ("file_name", .text settings.fileName)]

def WatchTarget.toSetting (target : WatchTarget) : Setting :=
  .table [
    ("root_path", .text target.root),
    ("overrides", ofTexts target.overrides),
    ("document", .text target.document),
    ("flavors", ofTexts target.flavors)]

def Settings.toSetting (settings : Settings) : Setting :=
  .table [
    ("client", settings.channel.toSetting),
    ("cache", settings.cache.toSetting),
    ("log", settings.log.toSetting),
    ("watches", .list (settings.watches.map WatchTarget.toSetting))]

end ConfigWatch

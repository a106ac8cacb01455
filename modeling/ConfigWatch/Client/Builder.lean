import ConfigWatch.Channel.Open
import ConfigWatch.Client.Basic

/-!
# Building a client

A builder collects the settings of the channel and of the cache, one call at a time, and builds a
client from them. The settings are checked first, then the channel is set up.
-/

set_option autoImplicit false

namespace ConfigWatch

/-- The settings collected so far. -/
structure ClientBuilder where
  channel : ChannelSettings := {}
  cache : CacheSettings := {}
deriving DecidableEq, Inhabited

/-- One call to a builder. Times are in microseconds. -/
inductive BuilderCall where
  | connectTimeout (micros : Nat)
  | requestTimeout (micros : Nat)
  | retryBackoff (micros : Nat)
  | compression (on : Bool)
  | authToken (token : String)
  | capacity (capacity : UInt64)
  | logLevel (level : LogLevel)
  | withPositions (on : Bool)
  /-- Replaces all settings of the channel. -/
  | channel (settings : ChannelSettings)
  /-- Replaces all settings of the cache. -/
  | cache (settings : CacheSettings)

namespace ClientBuilder

def ofEndpoint (endpoint : String) : ClientBuilder := { channel := { endpoint } }

def ofSettings (settings : Settings) : ClientBuilder := ⟨settings.channel, settings.cache⟩

def wholeMillis (micros : Nat) : UInt64 := UInt64.ofNat (micros / 1000)

def apply (builder : ClientBuilder) : BuilderCall → ClientBuilder
  | .connectTimeout micros =>
    { builder with
      channel := { builder.channel with connectTimeoutMillis := wholeMillis micros } }
  | .requestTimeout micros =>
    { builder with
      channel := { builder.channel with requestTimeoutMillis := wholeMillis micros } }
  | .retryBackoff micros =>
    { builder with cache := { builder.cache with retryBackoffMillis := wholeMillis micros } }
  | .compression on => { builder with channel := { builder.channel with compression := on } }
  | .authToken token =>
    { builder with channel := { builder.channel with authToken := some token } }
  | .capacity capacity => { builder with cache := { builder.cache with capacity } }
  | .logLevel level => { builder with cache := { builder.cache with logLevel := level } }
  | .withPositions on => { builder with cache := { builder.cache with withPositions := on } }
  | .channel settings => { builder with channel := settings }
  | .cache settings => { builder with cache := settings }

def check (builder : ClientBuilder) : Except Error Unit := do
  builder.channel.check
  builder.cache.check

/-- Builds a client on a channel that is connected when it is first used. -/
def buildLazily (readable : String → Bool) (builder : ClientBuilder) : Except Error Client := do
  builder.check
  let _ ← Channel.openLazily readable builder.channel
  Client.create builder.cache {}

/-- Builds a client on a channel that is connected at once. -/
def build (readable : String → Bool) (answers : Bool) (builder : ClientBuilder) :
    Except Error Client := do
  builder.check
  let _ ← Channel.connect readable answers builder.channel
  Client.create builder.cache {}

end ClientBuilder

end ConfigWatch

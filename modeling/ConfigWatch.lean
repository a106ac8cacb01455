import ConfigWatch.Protocol.Encoding
import ConfigWatch.Value.Text
import ConfigWatch.Payload.Flatten
import ConfigWatch.Diagnostics
import ConfigWatch.Error
import ConfigWatch.Cache.Cleanup
import ConfigWatch.Queue.Basic
import ConfigWatch.Settings.Basic
import ConfigWatch.Client.Watch
import ConfigWatch.Client.Read
import ConfigWatch.Client.Reply
import ConfigWatch.Client.Service
import ConfigWatch.Client.Workers
import ConfigWatch.Scenario.Transport
import ConfigWatch.Scenario.Basic
import ConfigWatch.Scenario.Operation
import ConfigWatch.Scenario.CacheOperation
import ConfigWatch.Scenario.QueueOperation
import ConfigWatch.Settings.Load
import ConfigWatch.Channel.Open
import ConfigWatch.Channel.Call
import ConfigWatch.Client.Builder
import ConfigWatch.Settings.Written
import ConfigWatch.Proofs.Payload.Readings
import ConfigWatch.Proofs.Payload.Flattening
import ConfigWatch.Proofs.Payload.Writings
import ConfigWatch.Proofs.Table
import ConfigWatch.Proofs.Cache.Records
import ConfigWatch.Proofs.Cache.Observation
import ConfigWatch.Proofs.Client.Stages
import ConfigWatch.Proofs.Client.Sections
import ConfigWatch.Proofs.Client.Effects
import ConfigWatch.Proofs.Client.Coherence
import ConfigWatch.Proofs.Client.Unwatching
import ConfigWatch.Proofs.Client.Emissions
import ConfigWatch.Proofs.Client.Subscriptions
import ConfigWatch.Proofs.Cache.Seats
import ConfigWatch.Proofs.Client.Watchers
import ConfigWatch.Proofs.Client.Departures
import ConfigWatch.Proofs.Client.Plays
import ConfigWatch.Proofs.Client.Calls
import ConfigWatch.Proofs.Client.Dues
import ConfigWatch.Proofs.Client.Notifications
import ConfigWatch.Proofs.Client.Endings
import ConfigWatch.Proofs.Payload.Decoding
import ConfigWatch.Proofs.Client.Transparency
import ConfigWatch.Proofs.Queue.Line
import ConfigWatch.Proofs.Queue.Delivery
import ConfigWatch.Proofs.Client.Provenance
import ConfigWatch.Proofs.Cache.Catalogue
import ConfigWatch.Proofs.Client.Sharing
import ConfigWatch.Proofs.Client.Replays
import ConfigWatch.Proofs.Client.Pinning
import ConfigWatch.Proofs.Client.Traffic
import ConfigWatch.Proofs.Client.Quieting
import ConfigWatch.Proofs.Client.Ordering
import ConfigWatch.Proofs.Client.Succession
import ConfigWatch.Proofs.Client.Demultiplexing
import ConfigWatch.Proofs.Cache.Resolutions
import ConfigWatch.Proofs.Client.Resolutions
import ConfigWatch.Proofs.Cache.Renaming
import ConfigWatch.Proofs.Client.Handling
import ConfigWatch.Proofs.Client.Commuting
import ConfigWatch.Proofs.Cache.Past
import ConfigWatch.Proofs.Queue.Past
import ConfigWatch.Proofs.Client.Past
import ConfigWatch.Proofs.Client.Unmoved
import ConfigWatch.Proofs.Client.Resuming
import ConfigWatch.Proofs.Client.Reconnecting
import ConfigWatch.Proofs.Client.Completeness
import ConfigWatch.Proofs.Client.Retention
import ConfigWatch.Proofs.Client.Progression
import ConfigWatch.Proofs.Client.Ventures
import ConfigWatch.Proofs.Client.Closings
import ConfigWatch.Proofs.Payload.Gaps
import ConfigWatch.Proofs.Payload.Places
import ConfigWatch.Proofs.Protocol.Faithfulness
import ConfigWatch.Proofs.Cache.Numbering
import ConfigWatch.Proofs.Payload.Causes
import ConfigWatch.Proofs.Client.Undecodable
import ConfigWatch.Proofs.Client.Converging
import ConfigWatch.Proofs.Cache.Sweeping
import ConfigWatch.Proofs.Client.Touching
import ConfigWatch.Proofs.Decimal.Exactness
import ConfigWatch.Proofs.Cache.Trimming
import ConfigWatch.Proofs.Client.Works
import ConfigWatch.Proofs.Client.Evictions
import ConfigWatch.Proofs.Cache.Pruning
import ConfigWatch.Proofs.Client.Uses
import ConfigWatch.Proofs.Cache.Resweeping
import ConfigWatch.Proofs.Client.Attending
import ConfigWatch.Proofs.Payload.Preorder
import ConfigWatch.Proofs.Value.Wording
import ConfigWatch.Proofs.Client.Timing

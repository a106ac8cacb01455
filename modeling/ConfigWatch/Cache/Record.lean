import ConfigWatch.Cache.Event

/-!
# Subscription records

The state of one subscription: what the last reply said, the version and content held, and who
watches. A record is pending until its first reply and deactivated when it leaves the cache. The
version held only ever moves to one that supersedes it.
-/

set_option autoImplicit false

namespace ConfigWatch

/-- The stages in the life of a record. -/
inductive RecordState where
  | pending
  | active
  | deactivated
deriving DecidableEq, Inhabited, Repr

namespace RecordState

def toText : RecordState → String
  | .pending => "Pending"
  | .active => "Active"
  | .deactivated => "Deactivated"

end RecordState

/-- The state of one subscription. -/
structure Record where
  key : DocumentKey
  subscription : UInt32
  state : RecordState := .pending
  status : Option ReplyStatus := none
  latest : Option (Version × Content) := none
  watchers : Table UInt32 Watcher := Table.empty
  nextWatcher : UInt32 := 0
  lastTouch : Instant
deriving Inhabited

namespace Record

def isActive (record : Record) : Bool := record.state != .deactivated

/-- The event that tells the state of the record under an outcome. -/
def event (record : Record) (status : ReplyStatus) : Event :=
  { subscription := record.subscription
    status
    version := record.latest.map Prod.fst
    content := record.latest.map Prod.snd }

/-- The event that tells the state of the record, once a reply was applied to it. -/
def currentEvent (record : Record) : Option Event := record.status.map record.event

def notifyAll (record : Record) (status : ReplyStatus) : List Notification :=
  record.watchers.values.map (fun watcher => ⟨watcher, record.event status⟩)

def addWatcher (record : Record) (watcher : Watcher) : UInt32 × Record :=
  (record.nextWatcher,
    { record with
      nextWatcher := record.nextWatcher + 1
      watchers := record.watchers.insert record.nextWatcher watcher })

def removeWatcher (record : Record) (id : UInt32) : Bool × Record :=
  (record.watchers.contains id, { record with watchers := record.watchers.erase id })

/-- Whether a version is news: nothing is held yet, or it supersedes the version held. -/
def isNews (record : Record) (version : Version) : Bool :=
  match record.latest with
  | none => true
  | some (current, _) => version.supersedes current

/-- Whether a content differs from the one held, by its checksum. -/
def changes (record : Record) (content : Content) : Bool :=
  match record.latest with
  | none => true
  | some (_, held) => held.checksum != content.checksum

/-- Applies a good reply. A version that is no news is ignored; watchers are told if the content
or the outcome is another than before. -/
def update (record : Record) (version : Version) (content : Content) :
    List Notification × Record :=
  if record.state = .deactivated then ([], record)
  else if record.isNews version = false then ([], record)
  else
    let updated :=
      { record with latest := some (version, content), state := .active, status := some .ok }
    if record.changes content || record.status != some .ok then (updated.notifyAll .ok, updated)
    else ([], updated)

/-- Applies an outcome without a content. Watchers are told if it is another than before. -/
def updateStatus (record : Record) (status : ReplyStatus) : List Notification × Record :=
  if record.state = .deactivated then ([], record)
  else
    let updated := { record with state := .active, status := some status }
    if record.status != some status then (updated.notifyAll status, updated) else ([], updated)

/-- Ends the record: every watcher is told that it was removed, and none is left. -/
def deactivate (record : Record) : List Notification × Record :=
  if record.state = .deactivated then ([], record)
  else
    (record.notifyAll .removed,
      { record with state := .deactivated, watchers := Table.empty })

end Record

end ConfigWatch

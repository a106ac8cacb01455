import ConfigWatch.Cache.Record
import ConfigWatch.Payload.Decode

/-!
# The cache

Records and version indices by namespace, and two indices across all namespaces: subscription
ids, and contents by checksum. A payload is decoded once for each checksum in the index; all
holders of a content share one touch time, which `touches` keeps by content id.
-/

set_option autoImplicit false

namespace ConfigWatch

/-- A content under a version, and when it was last stored or read there. -/
structure VersionEntry where
  content : Content
  lastTouch : Instant
deriving Inhabited

/-- The records and the known versions of one namespace. -/
structure Namespace where
  key : NamespaceKey
  records : Table DocumentKey Record := Table.empty
  versions : Table (Version × DocumentKey) VersionEntry := Table.empty
deriving Inhabited

namespace Namespace

def content? (space : Namespace) (version : Version) (key : DocumentKey) : Option Content :=
  (space.versions.get? (version, key)).map VersionEntry.content

def insertVersion (space : Namespace) (version : Version) (key : DocumentKey) (content : Content)
    (now : Instant) : Namespace :=
  { space with versions := space.versions.insert (version, key) ⟨content, now⟩ }

end Namespace

/-- The state shared by all operations of a client. -/
structure Cache where
  namespaces : Table NamespaceKey Namespace := Table.empty
  bySubscription : Table UInt32 (NamespaceKey × DocumentKey) := Table.empty
  byChecksum : Table Bytes Content := Table.empty
  nextSubscription : UInt32 := 0
  /-- How often the cache was reset. A count of 64 bits would overflow after `2 ^ 64` resets; that
  is left out. -/
  generation : Nat := 0
  capacity : Nat
  touches : Array Instant := #[]
deriving Inhabited

namespace Cache

def namespaceOrNew (cache : Cache) (key : NamespaceKey) : Namespace :=
  (cache.namespaces.get? key).getD { key }

def ensureNamespace (cache : Cache) (key : NamespaceKey) : Cache :=
  { cache with namespaces := cache.namespaces.insert key (cache.namespaceOrNew key) }

def setNamespace (cache : Cache) (key : NamespaceKey) (space : Namespace) : Cache :=
  { cache with namespaces := cache.namespaces.insert key space }

def recordAt? (cache : Cache) (space : NamespaceKey) (key : DocumentKey) : Option Record :=
  (cache.namespaces.get? space).bind (fun found => found.records.get? key)

def modifyRecord (cache : Cache) (space : NamespaceKey) (key : DocumentKey)
    (change : Record → Record) : Cache :=
  { cache with
    namespaces := cache.namespaces.modify space
      (fun found => { found with records := found.records.modify key change }) }

/-- The document that a subscription id stands for, and its record. -/
def located? (cache : Cache) (id : UInt32) : Option (NamespaceKey × DocumentKey × Record) := do
  let (space, key) ← cache.bySubscription.get? id
  let record ← cache.recordAt? space key
  return (space, key, record)

def record? (cache : Cache) (id : UInt32) : Option Record :=
  (cache.located? id).map (fun located => located.2.2)

def contentTouch (cache : Cache) (content : Content) : Instant := cache.touches.getD content.id 0

def touchContent (cache : Cache) (content : Content) (now : Instant) : Cache :=
  { cache with touches := cache.touches.setIfInBounds content.id now }

/-- Touches the record of a document and the content it holds. -/
def touchRecord (cache : Cache) (space : NamespaceKey) (key : DocumentKey) (now : Instant) :
    Cache :=
  match cache.recordAt? space key with
  | none => cache
  | some record =>
    let touched := cache.modifyRecord space key (fun record => { record with lastTouch := now })
    match record.latest with
    | none => touched
    | some (_, content) => touched.touchContent content now

/-- The record of a document and whether it is new. A new one gets the next subscription id. -/
def recordOrNew (cache : Cache) (space : NamespaceKey) (key : DocumentKey) (now : Instant) :
    Bool × Record × Cache :=
  let found := cache.namespaceOrNew space
  match found.records.get? key with
  | some record => (false, record, cache)
  | none =>
    let record : Record := { key, subscription := cache.nextSubscription, lastTouch := now }
    (true, record,
      { cache with
        namespaces :=
          cache.namespaces.insert space { found with records := found.records.insert key record }
        bySubscription := cache.bySubscription.insert cache.nextSubscription (space, key)
        nextSubscription := cache.nextSubscription + 1 })

/-- Forgets a subscription id. The record, if there is one, stays. -/
def forgetSubscription (cache : Cache) (id : UInt32) : Bool × Cache :=
  (cache.bySubscription.contains id,
    { cache with bySubscription := cache.bySubscription.erase id })

/-- The content of a checksum. One in the index is touched and returned, whatever the payload
is; otherwise the payload is decoded, and a good value enters the index as a new content. -/
def resolve (cache : Cache) (checksum : Bytes) (decode : Unit → Except DecodeError Payload.Decoded)
    (now : Instant) : Except DecodeError (Content × Cache) :=
  match cache.byChecksum.get? checksum with
  | some content => .ok (content, cache.touchContent content now)
  | none =>
    match decode () with
    | .error cause => .error cause
    | .ok decoded =>
      let content : Content := ⟨cache.touches.size, checksum, decoded.value, decoded.positions⟩
      .ok (content,
        { cache with
          byChecksum := cache.byChecksum.insert checksum content
          touches := cache.touches.push now })

/-- Stores the content of a document at a version, in a namespace that may be new. -/
def insertVersion (cache : Cache) (space : NamespaceKey) (version : Version) (key : DocumentKey)
    (content : Content) (now : Instant) : Cache :=
  cache.setNamespace space ((cache.namespaceOrNew space).insertVersion version key content now)

def contentAt? (cache : Cache) (space : NamespaceKey) (version : Version) (key : DocumentKey) :
    Option Content :=
  (cache.namespaces.get? space).bind (fun found => found.content? version key)

/-- Reads the content of a document at a version, which touches the content and its entry. -/
def readVersion (cache : Cache) (space : NamespaceKey) (version : Version) (key : DocumentKey)
    (now : Instant) : Option (Content × Cache) :=
  (cache.contentAt? space version key).map (fun content =>
    (content,
      { cache with
        namespaces := cache.namespaces.modify space (fun found =>
          { found with
            versions := found.versions.modify (version, key)
              (fun entry => { entry with lastTouch := now }) })
        touches := cache.touches.setIfInBounds content.id now }))

/-- Applies a change to the record of a subscription id, which may tell watchers about it. -/
def changeRecord (cache : Cache) (id : UInt32) (change : Record → List Notification × Record) :
    List Notification × Cache :=
  match cache.located? id with
  | none => ([], cache)
  | some (space, key, record) =>
    ((change record).1, cache.modifyRecord space key (fun _ => (change record).2))

/-- Deactivates every record, clears everything and starts the next generation. The notifications
come in the order of the tables; a client may tell them in any other. -/
def reset (cache : Cache) : List Notification × Cache :=
  (cache.namespaces.values.flatMap (fun space =>
      space.records.values.flatMap (fun record => record.deactivate.1)),
    { cache with
      namespaces := Table.empty
      bySubscription := Table.empty
      byChecksum := Table.empty
      nextSubscription := 0
      generation := cache.generation + 1 })

end Cache

end ConfigWatch

import ConfigWatch.Proofs.Client.Demultiplexing
import ConfigWatch.Proofs.Client.Sharing

/-!
# The whole effect of a reply

What a reply comes to is decided by its content, if it has one that can be decoded, and by the
record it is for. Handling it then changes that record, the index by checksum, one version of one
document, and at most one command is pushed; the watchers of the record take note of one event at
most.
-/

set_option autoImplicit false

namespace ConfigWatch

namespace Catalogue

/-- The content of a checksum: the one in the index, or the next one that is decoded. -/
def resolve (catalogue : Catalogue) (checksum : Bytes)
    (decoded : Except DecodeError Payload.Decoded) : Option Content :=
  match catalogue.index.get? checksum with
  | some content => some content
  | none =>
    decoded.toOption.map (fun good => ⟨catalogue.decoded, checksum, good.value, good.positions⟩)

/-- The catalogue with a content that was resolved, which is new unless its checksum is indexed. -/
def file (catalogue : Catalogue) : Option Content → Catalogue
  | none => catalogue
  | some content =>
    if catalogue.index.contains content.checksum then catalogue
    else ⟨catalogue.index.insert content.checksum content, catalogue.decoded + 1⟩

end Catalogue

theorem Cache.Files.catalogue {before after : Cache} {stored : Option Content}
    (files : Cache.Files before after stored) :
    after.catalogue = before.catalogue.file stored := by
  cases files with
  | keeps same => exact same
  | @finds content found same =>
    have indexed : before.catalogue.index.contains content.checksum = true :=
      Option.isSome_iff_exists.mpr ⟨_, found⟩
    rw [Catalogue.file, if_pos indexed]
    exact same
  | @decodes content lost _ new =>
    have absent : ¬ before.catalogue.index.contains content.checksum = true := by
      rw [Table.contains, Cache.catalogue, lost]
      simp
    rw [Catalogue.file, if_neg absent]
    exact new

/-! ## Versions of documents -/

namespace Cache

section

variable {space other : NamespaceKey} {version number : Version} {key document : DocumentKey}

theorem contentAt?_modifyRecord (cache : Cache) (change : Record → Record) :
    (cache.modifyRecord space key change).contentAt? other number document =
      cache.contentAt? other number document := by
  simp only [contentAt?, modifyRecord, Table.get?_modify]
  split
  · cases cache.namespaces.get? other <;> rfl
  · rfl

theorem contentAt?_touchRecord (cache : Cache) (now : Instant) :
    (cache.touchRecord space key now).contentAt? other number document =
      cache.contentAt? other number document := by
  unfold touchRecord
  split
  · rfl
  · split
    · exact contentAt?_modifyRecord ..
    · exact contentAt?_modifyRecord ..

theorem contentAt?_changeRecord (cache : Cache) (id : UInt32)
    (change : Record → List Notification × Record) :
    (cache.changeRecord id change).2.contentAt? other number document =
      cache.contentAt? other number document := by
  unfold changeRecord
  split
  · rfl
  · exact contentAt?_modifyRecord ..

theorem contentAt?_insertVersion (cache : Cache) (content : Content) (now : Instant) :
    (cache.insertVersion space version key content now).contentAt? other number document =
      if other = space ∧ number = version ∧ document = key then some content
      else cache.contentAt? other number document := by
  simp only [contentAt?, insertVersion, setNamespace, Table.get?_insert]
  by_cases same : other = space
  · subst same
    simp only [true_and, if_true, Option.bind_some]
    rw [Namespace.content?, Namespace.insertVersion, Table.get?_insert]
    by_cases here : number = version ∧ document = key
    · rw [if_pos (Prod.ext here.1 here.2), if_pos here]
      rfl
    · rw [if_neg (fun pair => here (Prod.ext_iff.mp pair)), if_neg here]
      exact namespaceOrNew_content? ..
  · rw [if_neg same, if_neg (fun here => same here.1)]

end

end Cache

/-! ## Verdicts -/

/-- What a reply makes of a record when its content is known, and whom it tells. -/
def WatchResponse.judge (reply : WatchResponse) (content? : Option Content) (record : Record) :
    List Notification × Record :=
  match ReplyStatus.ofWatchCode reply.status with
  | .removed => ([], record)
  | .ok =>
    match content? with
    | none => record.updateStatus .error
    | some content => record.update ⟨reply.namespaceId, reply.version⟩ content
  | status => record.updateStatus status

/-- What a reply enters for a document at a version, if anything: its content, for its own document
at its own version. -/
def WatchResponse.enters (reply : WatchResponse) (content? : Option Content) (space : NamespaceKey)
    (key : DocumentKey) (other : NamespaceKey) (number : Version) (document : DocumentKey) :
    Option Content :=
  if other = space ∧ number = ⟨reply.namespaceId, reply.version⟩ ∧ document = key then content?
  else none

/-- The command that a reply gives rise to: a removal makes the client subscribe again. -/
def WatchResponse.resubscribes (reply : WatchResponse) (generation : Nat) (space : NamespaceKey)
    (key : DocumentKey) : Option StampedCommand :=
  if ReplyStatus.ofWatchCode reply.status = .removed then
    some ⟨generation, .subscribe reply.uid space key⟩
  else none

namespace Client

/-- What registrations heard when some notifications were noted. -/
theorem heard_noted (client : Client) (notifications : List Notification) (registration : Nat) :
    heard { client with journal := client.journal ++ notifications.map Notification.toNote }
        registration =
      heard client registration ++ eventsFor registration notifications := by
  rw [heard, List.filterMap_append, ← heard, List.filterMap_map, eventsFor]
  congr 1
  induction notifications with
  | nil => rfl
  | cons notification rest ih =>
    rw [List.filterMap_cons, List.filter_cons]
    by_cases here : notification.watcher.registration = registration
    · simp only [Function.comp_apply, Notification.toNote, Note.event?, here, if_true, decide_true,
        List.map_cons]
      exact congrArg _ ih
    · simp only [Function.comp_apply, Notification.toNote, Note.event?, here, if_false,
        decide_false, Bool.false_eq_true]
      exact ih

variable {client : Client} {reply : WatchResponse} {space : NamespaceKey} {key : DocumentKey}
  {record : Record}

/-- The content of a good reply, if its payload resolves. -/
def content? (client : Client) (reply : WatchResponse) : Option Content :=
  if ReplyStatus.ofWatchCode reply.status = .ok then
    client.resolved? reply.checksum reply.nodes
  else none

theorem resolved?_eq_catalogue (client : Client) (checksum : Bytes) (nodes : List Node) :
    client.resolved? checksum nodes =
      client.cache.catalogue.resolve checksum (client.decodePayload nodes) := by
  rw [resolved?, Cache.resolve, Catalogue.resolve, Cache.catalogue]
  dsimp only
  cases client.cache.byChecksum.get? checksum with
  | some content => rfl
  | none => cases client.decodePayload nodes <;> rfl

theorem verdict_eq_judge (client : Client) (reply : WatchResponse) (record : Record) :
    client.verdict reply record = reply.judge (client.content? reply) record := by
  cases outcome : ReplyStatus.ofWatchCode reply.status with
  | ok =>
    simp only [verdict, WatchResponse.judge, content?, outcome, if_true, resolved?]
    cases client.cache.resolve reply.checksum (fun _ => client.decodePayload reply.nodes) 0 <;> rfl
  | _ => simp only [verdict, WatchResponse.judge, outcome]

theorem stored_eq_content? (located : client.cache.located? reply.uid = some (space, key, record)) :
    (Occurrence.stored ⟨client, .reply reply⟩).map Stored.content = client.content? reply := by
  obtain ⟨index, _⟩ := Cache.located?_eq_some_iff.mp located
  simp only [Occurrence.stored, content?, index]
  split
  · rw [Option.bind_some, Option.map_map]
    exact Option.map_id_fun ▸ rfl
  · rfl

/-- What handling a reply does for its record when no watcher of the record makes calls. -/
structure Handles (client : Client) (reply : WatchResponse) (space : NamespaceKey)
    (key : DocumentKey) (record : Record) (after : Client) : Prop where
  settings : after.settings = client.settings
  closed : after.closed = client.closed
  streamWorker : after.streamWorker = client.streamWorker
  sweepWorker : after.sweepWorker = client.sweepWorker
  registrations : after.registrations = client.registrations
  records : ∀ other document, after.cache.restAt? other document =
    if other = space ∧ document = key then
      some (reply.judge (client.content? reply) record.atRest).2
    else client.cache.restAt? other document
  subscriptions : after.cache.bySubscription = client.cache.bySubscription
  next : after.cache.nextSubscription = client.cache.nextSubscription
  generation : after.cache.generation = client.cache.generation
  namespaces : ∀ other, after.cache.namespaces.contains other =
    client.cache.namespaces.contains other
  catalogue : after.cache.catalogue = client.cache.catalogue.file (client.content? reply)
  versions : ∀ other number document, after.cache.contentAt? other number document =
    (reply.enters (client.content? reply) space key other number document).or
      (client.cache.contentAt? other number document)
  queue : after.queue = { client.queue with
    commands := client.queue.commands ++
      (reply.resubscribes client.cache.generation space key).toList }
  heard : ∀ registration, heard after registration = heard client registration ++
    eventsFor registration (reply.judge (client.content? reply) record.atRest).1

private theorem versions_applyContent (good : ReplyStatus.ofWatchCode reply.status = .ok)
    (other : NamespaceKey) (number : Version) (document : DocumentKey) :
    (client.applyContent reply space key).2.cache.contentAt? other number document =
      (reply.enters (client.content? reply) space key other number document).or
        (client.cache.contentAt? other number document) := by
  rw [WatchResponse.enters, content?, if_pos good, client.resolved?_eq reply.checksum reply.nodes
    client.clock.read.1, applyContent_stages]
  cases resolved : client.cache.resolve reply.checksum
      (fun _ => client.decodePayload reply.nodes) client.clock.read.1 with
  | error cause =>
    have none : (Except.map Prod.fst (.error cause : Except DecodeError (Content × Cache))).toOption =
        Option.none := rfl
    rw [none, ite_self, Option.none_or]
    exact Cache.contentAt?_changeRecord ..
  | ok found =>
    obtain ⟨content, cache⟩ := found
    have content? : (Except.map Prod.fst
        (.ok (content, cache) : Except DecodeError (Content × Cache))).toOption = some content := rfl
    have before : cache.contentAt? other number document =
        client.cache.contentAt? other number document := by
      rw [Cache.contentAt?, Cache.resolve_namespaces resolved, Cache.contentAt?]
    refine ((Cache.contentAt?_changeRecord ..).trans (Cache.contentAt?_touchRecord ..)).trans ?_
    rw [content?, ← before]
    refine (Cache.contentAt?_insertVersion ..).trans ?_
    split <;> rfl

private theorem versions_applyRemoval (client : Client) (id : UInt32) (space : NamespaceKey)
    (key : DocumentKey) (other : NamespaceKey) (number : Version) (document : DocumentKey) :
    (client.applyRemoval id space key).cache.contentAt? other number document =
      client.cache.contentAt? other number document := by
  have touched : (client.touchAt space key).cache.contentAt? other number document =
      client.cache.contentAt? other number document := Cache.contentAt?_touchRecord ..
  rcases client.applyRemoval_cases id space key with done | done <;> rw [done] <;> exact touched

/-- A reply enters its content under its version, and enters nothing else. -/
theorem versions_applyReply
    (located : client.cache.located? reply.uid = some (space, key, record)) (other : NamespaceKey)
    (number : Version) (document : DocumentKey) :
    (client.applyReply reply).2.cache.contentAt? other number document =
      (reply.enters (client.content? reply) space key other number document).or
        (client.cache.contentAt? other number document) := by
  obtain ⟨index, _⟩ := Cache.located?_eq_some_iff.mp located
  unfold applyReply
  rw [index]
  dsimp only
  split
  · next removed =>
    have bad : ReplyStatus.ofWatchCode reply.status ≠ .ok := by
      rw [removed]
      decide
    rw [WatchResponse.enters, content?, if_neg bad, ite_self, Option.none_or]
    exact versions_applyRemoval ..
  · next good => exact versions_applyContent good other number document
  · next bad =>
    rw [WatchResponse.enters, content?, if_neg bad, ite_self, Option.none_or]
    exact (Cache.contentAt?_changeRecord ..).trans (Cache.contentAt?_touchRecord ..)

/-! ## Handling -/

/-- A subscription with its record, whose watchers make no calls. -/
structure Listens (client : Client) (id : UInt32) (space : NamespaceKey) (key : DocumentKey)
    (record : Record) : Prop where
  located : client.cache.located? id = some (space, key, record)
  silent : ∀ watcher ∈ record.watchers.values, watcher.reaction.isSilent = true

/-- Handling a reply is its section, and the notes of whom it tells. -/
theorem handleReply_eq (indexed : client.cache.Indexed)
    (seated : client.cache.Seated client.registrations)
    (listens : client.Listens reply.uid space key record) :
    client.handleReply reply = { (client.applyReply reply).2 with
      journal := (client.applyReply reply).2.journal ++
        (client.applyReply reply).1.map Notification.toNote } := by
  have quiet : ∀ notification ∈ (client.applyReply reply).1,
      notification.watcher.reaction.isSilent = true := by
    intro notification member
    rcases (isolates indexed seated reply).news with none | ⟨_, _, _, event, there, _, _, all⟩
    · rw [none] at member
      cases member
    · rw [listens.located] at there
      cases there
      rw [all] at member
      obtain ⟨watcher, sits, rfl⟩ := List.mem_map.mp member
      exact listens.silent watcher sits
  exact dispatch_of_silent _ quiet

theorem handles (indexed : client.cache.Indexed) (labelled : client.cache.Labelled)
    (seated : client.cache.Seated client.registrations)
    (listens : client.Listens reply.uid space key record) :
    client.Handles reply space key record (client.handleReply reply) := by
  obtain ⟨_, found⟩ := Cache.located?_eq_some_iff.mp listens.located
  have alive := indexed.alive space key _ (Cache.restAt?_eq_some found)
  have effect := replies listens.located alive.active
  have told : (client.applyReply reply).1 =
      (reply.judge (client.content? reply) record.atRest).1 := by
    rw [effect.told, verdict_eq_judge]
  rw [handleReply_eq indexed seated listens, effect.outside.journal]
  constructor
  case settings => exact effect.outside.settings
  case closed => exact effect.outside.closed
  case streamWorker => exact effect.outside.streamWorker
  case sweepWorker => exact effect.outside.sweepWorker
  case registrations => exact effect.registrations
  case records =>
    intro other document
    rw [← verdict_eq_judge]
    exact effect.records other document
  case subscriptions => exact effect.subscriptions
  case next => exact effect.next
  case generation => exact effect.generation
  case namespaces => exact (isolates indexed seated reply).namespaces
  case catalogue =>
    have files := (reply_files labelled reply).catalogue
    rw [stored_eq_content? listens.located] at files
    exact files
  case versions => exact versions_applyReply listens.located
  case queue =>
    rw [WatchResponse.resubscribes]
    refine effect.queue.trans ?_
    split
    · rfl
    · rw [Option.toList_none, List.append_nil]
  case heard =>
    intro registration
    rw [← told]
    exact heard_noted client _ registration

end Client

end ConfigWatch

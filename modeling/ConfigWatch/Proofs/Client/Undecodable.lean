import ConfigWatch.Proofs.Client.Demultiplexing
import ConfigWatch.Proofs.Client.Pinning

/-!
# Payloads that do not decode

A payload is decoded before anything of an answer is stored. One that does not decode ends a read
and leaves the client as the answer found it. A reply with such a payload turns the record under its
id to an error, and leaves everything else alone, what the record holds included.
-/

set_option autoImplicit false

namespace ConfigWatch

/-- A payload has to be decoded, for its checksum is not in the index, and does not decode. -/
structure Client.Undecodable (client : Client) (checksum : Bytes) (nodes : List Node)
    (cause : DecodeError) : Prop where
  unknown : client.cache.byChecksum.get? checksum = none
  fails : client.decodePayload nodes = .error cause

/-- The error that a read ends with when the payload of a good answer does not decode. Whether the
answer keeps the pin comes first. -/
def ReadResponse.failure (response : ReadResponse) (cause : DecodeError) : Option Version → Error
  | none => .decode cause
  | some version =>
    if response.held = version then .decode cause else .inconsistent version response.held

/-- What a good reply does whose payload does not decode. -/
structure Client.TurnsToError (client : Client) (reply : WatchResponse)
    (told : List Notification) (after : Client) : Prop where
  outside : SameOutside client after
  registrations : after.registrations = client.registrations
  queue : after.queue = client.queue
  checksums : after.cache.byChecksum = client.cache.byChecksum
  touches : after.cache.touches = client.cache.touches
  versions : ∀ space, (after.cache.namespaces.get? space).map Namespace.versions =
    (client.cache.namespaces.get? space).map Namespace.versions
  subscriptions : after.cache.bySubscription = client.cache.bySubscription
  next : after.cache.nextSubscription = client.cache.nextSubscription
  generation : after.cache.generation = client.cache.generation
  records : ∀ space key, after.cache.recordAt? space key =
    (client.cache.recordAt? space key).map (fun record =>
      if client.cache.bySubscription.get? reply.uid = some (space, key) then
        { record with state := .active, status := some .error }
      else record)
  news : told = (client.cache.record? reply.uid).elim [] (fun record =>
    if record.status = some .error then []
    else record.watchers.values.map (fun watcher => ⟨watcher, record.event .error⟩))
  once : (told.map (fun notification => notification.watcher.registration)).Nodup

theorem Record.updateStatus_of_alive {record : Record} (alive : record.state ≠ .deactivated)
    (status : ReplyStatus) :
    record.updateStatus status =
      (if record.status = some status then [] else record.notifyAll status,
        { record with state := .active, status := some status }) := by
  rw [updateStatus, if_neg alive]
  by_cases shown : record.status = some status
  · simp [shown]
  · simp only [bne_iff_ne, ne_eq, shown, not_false_eq_true, if_true, if_false]
    rfl

theorem Cache.versions_modifyRecord (cache : Cache) (space : NamespaceKey) (key : DocumentKey)
    (change : Record → Record) (other : NamespaceKey) :
    ((cache.modifyRecord space key change).namespaces.get? other).map Namespace.versions =
      (cache.namespaces.get? other).map Namespace.versions := by
  rw [modifyRecord, Table.get?_modify]
  split
  · rw [Option.map_map]
    rfl
  · rfl

namespace Client

variable {client : Client} {checksum : Bytes} {nodes : List Node} {cause : DecodeError}

namespace Undecodable

theorem resolve (undecodable : client.Undecodable checksum nodes cause) (now : Instant) :
    client.cache.resolve checksum (fun _ => client.decodePayload nodes) now = .error cause := by
  rw [Cache.resolve, undecodable.unknown]
  dsimp only
  rw [undecodable.fails]

/-! ## Reads -/

theorem storeRead {response : ReadResponse}
    (undecodable : client.Undecodable response.checksum response.nodes cause)
    (pending : PendingRead) : client.storeRead pending response = .error (.decode cause) := by
  rw [storeRead_stages, undecodable.resolve]

theorem finishRead {response : ReadResponse}
    (undecodable : client.Undecodable response.checksum response.nodes cause)
    (good : ReplyStatus.ofReadCode response.status = .ok) (pending : PendingRead) :
    client.finishRead pending (.ok response) =
      (.error (response.failure cause pending.pinned), client) := by
  have stored := undecodable.storeRead pending
  have isOk := ReplyStatus.isOk_eq_true_iff.mpr good
  cases pinned : pending.pinned with
  | none =>
    simp only [Client.finishRead, pinned, Option.filter_none, if_pos isOk, stored,
      ReadResponse.failure]
  | some version =>
    by_cases same : response.held = version
    · have kept : breaksPin version ⟨response.namespaceId, response.version⟩
          (ReplyStatus.ofReadCode response.status) = false := by
        rw [← Bool.not_eq_true]
        refine mt breaksPin_eq_true_iff.mp (not_or.mpr ⟨fun other => other.2 same, ?_⟩)
        rw [good]
        decide
      simp only [Client.finishRead, pinned, Option.filter_some, kept, Bool.false_eq_true, if_false,
        if_pos isOk, stored, ReadResponse.failure, if_pos same]
    · have broken : breaksPin version ⟨response.namespaceId, response.version⟩
          (ReplyStatus.ofReadCode response.status) = true :=
        breaksPin_eq_true_iff.mpr (.inl ⟨good, same⟩)
      simp only [Client.finishRead, pinned, Option.filter_some, broken, if_true,
        ReadResponse.failure, if_neg same]
      rfl

end Undecodable

/-- A read that asks the server has changed nothing by then. -/
theorem get_of_request {asked : PendingRead} {answer : Except Error ReadResponse}
    {meanwhile : Client → Client}
    (requested : (client.get asked answer meanwhile).request.isSome = true) :
    client.get asked answer meanwhile =
      ⟨some (client.readRequest asked), ((meanwhile client).finishRead asked answer).1,
        ((meanwhile client).finishRead asked answer).2⟩ := by
  simp only [get, beginRead] at requested ⊢
  cases opened : client.ensureOpen with
  | error cause => simp [opened] at requested
  | ok _ =>
    cases cached : client.cached asked.space asked.key asked.pinned with
    | some found => simp [opened, cached] at requested
    | none => rfl

/-! ## Replies -/

theorem Undecodable.applyReply {reply : WatchResponse}
    (undecodable : client.Undecodable reply.checksum reply.nodes cause)
    (good : ReplyStatus.ofWatchCode reply.status = .ok) {space : NamespaceKey} {key : DocumentKey}
    {record : Record} (located : client.cache.located? reply.uid = some (space, key, record))
    (alive : record.state ≠ .deactivated) :
    client.applyReply reply =
      (if record.status = some .error then [] else record.notifyAll .error,
        { client with
          clock := client.clock.read.2
          cache := client.cache.modifyRecord space key
            (fun _ => { record with state := .active, status := some .error }) }) := by
  obtain ⟨index, _⟩ := Cache.located?_eq_some_iff.mp located
  simp only [Client.applyReply, index, good, applyContent_stages, undecodable.resolve,
    changeRecord, holding, Cache.changeRecord, located, Record.updateStatus_of_alive alive]

theorem Undecodable.turnsToError (indexed : client.cache.Indexed)
    (seated : client.cache.Seated client.registrations) {reply : WatchResponse}
    (undecodable : client.Undecodable reply.checksum reply.nodes cause)
    (good : ReplyStatus.ofWatchCode reply.status = .ok) :
    client.TurnsToError reply (client.applyReply reply).1 (client.applyReply reply).2 := by
  have once := (isolates indexed seated reply).once
  cases index : client.cache.bySubscription.get? reply.uid with
  | none =>
    have unknown : client.cache.record? reply.uid = none := by
      simp [Cache.record?, Cache.located?, index]
    rw [applyReply_unknown index] at once ⊢
    refine ⟨⟨rfl, rfl, rfl, rfl, rfl⟩, rfl, rfl, rfl, rfl, fun _ => rfl, rfl, rfl, rfl,
      fun space key => ?_, ?_, once⟩
    · simp [index]
    · rw [unknown, Option.elim_none]
  | some place =>
    obtain ⟨space, key⟩ := place
    obtain ⟨record, located, _, alive⟩ := indexed.located? index
    obtain ⟨_, found⟩ := Cache.located?_eq_some_iff.mp located
    have known : client.cache.record? reply.uid = some record := by
      rw [Cache.record?, located, Option.map_some]
    rw [undecodable.applyReply good located alive] at once ⊢
    refine ⟨⟨rfl, rfl, rfl, rfl, rfl⟩, rfl, rfl, rfl, rfl, fun other => ?_, rfl, rfl, rfl,
      fun other document => ?_, ?_, once⟩
    · exact client.cache.versions_modifyRecord space key _ other
    · rw [Cache.recordAt?_modifyRecord, index]
      by_cases here : other = space ∧ document = key
      · obtain ⟨rfl, rfl⟩ := here
        simp [found]
      · have elsewhere : ¬ (space, key) = (other, document) := by
          rintro ⟨⟩
          exact here ⟨rfl, rfl⟩
        simp [here, elsewhere]
    · rw [known, Option.elim_some]
      rfl

end Client

/-- An answer with a payload that does not decode changes nothing but a status. A read whose good
answer brings it is told the cause, or, if it is pinned to another version than that of the answer,
that the pin is broken; either way the client is as the answer found it. A good reply that brings it
turns the record under its id to an error, with what it holds, and every watcher of the record is
told that once, unless the record showed an error before. When the watchers that are told make no
calls of their own, that is all that handling the reply does. -/
theorem failed_decode_is_atomic {start client : Client} {history : List Occurrence}
    (fresh : start.Fresh) (run : Run start history client) (cause : DecodeError) :
    (∀ (asked : PendingRead) (response : ReadResponse) (meanwhile : Client → Client),
      let read := client.get asked (.ok response) meanwhile
      read.request.isSome = true → ReplyStatus.ofReadCode response.status = .ok →
      (meanwhile client).Undecodable response.checksum response.nodes cause →
      read.outcome = .error (response.failure cause asked.pinned) ∧
        read.after = meanwhile client) ∧
    ∀ reply : WatchResponse, ReplyStatus.ofWatchCode reply.status = .ok →
      client.Undecodable reply.checksum reply.nodes cause →
      let told := (client.applyReply reply).1
      client.TurnsToError reply told (client.applyReply reply).2 ∧
      (∀ registration < client.registrations,
        heard (client.handleReply reply) registration =
          heard client registration ++ eventsFor registration told) ∧
      ((∀ notification ∈ told, notification.watcher.reaction.isSilent = true) →
        client.handleReply reply = { (client.applyReply reply).2 with
          journal := client.journal ++ told.map Notification.toNote }) := by
  refine ⟨fun asked response meanwhile => ?_, fun reply good undecodable => ?_⟩
  · intro read requested good undecodable
    have finished := undecodable.finishRead good asked
    have result : read = _ := Client.get_of_request requested
    rw [result, finished]
    exact ⟨rfl, rfl⟩
  · intro told
    have effect := undecodable.turnsToError (run.indexed fresh) (run.seated fresh) good
    have handled : client.handleReply reply = (client.applyReply reply).2.dispatch told := rfl
    refine ⟨effect, fun registration made => ?_, fun silent => ?_⟩
    · rw [← effect.registrations] at made
      rw [handled, Client.heard_dispatch _ _ _ made, heard, effect.outside.journal, heard]
    · rw [handled, Client.dispatch_of_silent _ silent, effect.outside.journal]

/-- A document is watched, and the server sends a number for it. -/
private def receivingNumber : List Section :=
  [.watch { root := "/srv" } { document := "a" } (some ("A", .idle)),
    .reply
      { namespaceId := 1, version := 1, checksum := [1], nodes := [{ valueType := 4, int := 1 }] }]

private theorem undecodable_receivingNumber :
    (Client.byDefault.performAll receivingNumber).Undecodable [2] [{ valueType := 99 }]
      (.unknownValueType 0 99) :=
  ⟨rfl, rfl⟩

/-- The next version of the document does not decode, neither for a read nor for its watcher. -/
theorem failed_decode_is_atomic_next_version :
    let client := Client.byDefault.performAll receivingNumber
    let read := client.get ⟨{ root := "/srv" }, { document := "a" }, some ⟨1, 2⟩⟩
      (.ok { namespaceId := 1, version := 2, checksum := [2], nodes := [{ valueType := 99 }] }) id
    let reply : WatchResponse :=
      { namespaceId := 1, version := 2, checksum := [2], nodes := [{ valueType := 99 }] }
    read.outcome = .error (.decode (.unknownValueType 0 99)) ∧ read.after = client ∧
      client.TurnsToError reply (client.applyReply reply).1 (client.applyReply reply).2 ∧
      (client.handleReply reply).journal.map Note.label =
        client.journal.map Note.label ++ ["A"] := by
  intro client read reply
  obtain ⟨reads, replies⟩ := failed_decode_is_atomic Client.byDefault_fresh
    (Run.start.performAll receivingNumber) (.unknownValueType 0 99)
  obtain ⟨outcome, after⟩ := reads
    ⟨{ root := "/srv" }, { document := "a" }, some ⟨1, 2⟩⟩
    { namespaceId := 1, version := 2, checksum := [2], nodes := [{ valueType := 99 }] } id
    (by decide +kernel) rfl undecodable_receivingNumber
  obtain ⟨turns, _, silent⟩ := replies reply rfl undecodable_receivingNumber
  refine ⟨outcome, after, turns, ?_⟩
  rw [silent (by decide +kernel), List.map_append, List.append_cancel_left_eq]
  decide +kernel

/-- A read that is pinned to another version than that of the answer is not told that the payload
does not decode. -/
theorem broken_pin_hides_decode_error :
    let read := Client.byDefault.get ⟨{ root := "/srv" }, { document := "a" }, some ⟨1, 1⟩⟩
      (.ok { namespaceId := 1, version := 2, checksum := [1], nodes := [{ valueType := 99 }] }) id
    Client.byDefault.Undecodable [1] [{ valueType := 99 }] (.unknownValueType 0 99) ∧
      read.request.isSome = true ∧
      read.outcome = .error (.inconsistent ⟨1, 1⟩ ⟨1, 2⟩) ∧
      read.outcome ≠ .error (.decode (.unknownValueType 0 99)) := by
  intro read
  have broken : read.outcome = .error (.inconsistent ⟨1, 1⟩ ⟨1, 2⟩) := rfl
  refine ⟨⟨rfl, rfl⟩, rfl, broken, ?_⟩
  rw [broken]
  rintro ⟨⟩

end ConfigWatch

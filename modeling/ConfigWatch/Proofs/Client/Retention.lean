import ConfigWatch.Proofs.Client.Handling
import ConfigWatch.Proofs.Client.Pinning
import ConfigWatch.Proofs.Client.Provenance
import ConfigWatch.Proofs.Client.Unmoved

/-!
# Versions that are kept

A record and the versions known of its document are stored apart, and a sweep prunes the versions.
Still the version that a record holds is always among them, so that it can be read by name. Record
and version may have got their contents at different times; they agree in their checksums as long
as the server does not contradict itself.
-/

set_option autoImplicit false

namespace ConfigWatch

/-- What a stored content is for a document at a version: itself in its own place, and nothing
anywhere else. -/
def Stored.entry? (stored : Stored) (space : NamespaceKey) (version : Version)
    (key : DocumentKey) : Option Content :=
  if space = stored.space ∧ version = stored.version ∧ key = stored.key then some stored.content
  else none

/-! ## Versions of documents -/

namespace Cache

theorem contentAt?_recordOrNew (cache : Cache) (space : NamespaceKey) (key : DocumentKey)
    (now : Instant) (other : NamespaceKey) (version : Version) (document : DocumentKey) :
    (cache.recordOrNew space key now).2.2.contentAt? other version document =
      cache.contentAt? other version document := by
  simp only [recordOrNew]
  split
  · rfl
  · simp only [contentAt?, Table.get?_insert]
    split
    · next same =>
      rw [same]
      exact cache.namespaceOrNew_content? space version document
    · rfl

theorem contentAt?_readVersion {cache after : Cache} {space : NamespaceKey} {version : Version}
    {key : DocumentKey} {now : Instant} {content : Content}
    (read : cache.readVersion space version key now = some (content, after))
    (other : NamespaceKey) (number : Version) (document : DocumentKey) :
    after.contentAt? other number document = cache.contentAt? other number document := by
  obtain ⟨_, _, same⟩ := Option.map_eq_some_iff.mp read
  cases same
  simp only [contentAt?, Table.get?_modify]
  split
  · cases cache.namespaces.get? other with
    | none => rfl
    | some found =>
      simp only [Option.map_some, Option.bind_some, Namespace.content?, Table.get?_modify]
      split
      · rw [Option.map_map]
        rfl
      · rfl
  · rfl

theorem contentAt?_store (cache : Cache) (space : NamespaceKey) (version : Version)
    (key : DocumentKey) (content : Content) (now : Instant) (other : NamespaceKey)
    (number : Version) (document : DocumentKey) :
    (cache.insertVersion space version key content now).contentAt? other number document =
      (Stored.entry? ⟨space, key, version, content⟩ other number document).or
        (cache.contentAt? other number document) := by
  rw [contentAt?_insertVersion, Stored.entry?]
  dsimp only
  split <;> rfl

/-- A sweep leaves the version that a record holds in its place. -/
theorem contentAt?_cleanup {cache : Cache} {limit : Instant} {space : NamespaceKey}
    {key : DocumentKey} {rest : Record} {version : Version} {content : Content}
    (found : (cache.cleanup limit).2.restAt? space key = some rest)
    (latest : rest.latest = some (version, content)) :
    (cache.cleanup limit).2.contentAt? space version key = cache.contentAt? space version key := by
  obtain ⟨record, there, busy, rfl⟩ := restAt?_cleanup_eq_some_iff.mp found
  obtain ⟨place, here, sits⟩ := Option.bind_eq_some_iff.mp there
  have kept : (place.dropIdle limit).records.get? key = some record := by
    rw [Namespace.dropIdle, Table.get?_filter, sits, Option.filter_some, busy]
    rfl
  have holds : (place.dropIdle limit).isHeld version key = true := by
    have own : record.latest = some (version, content) := latest
    simp only [Namespace.isHeld, kept, own, Option.map_some, beq_self_eq_true]
  simp only [cleanup, prune, trim, dropIdle, contentAt?, Table.get?_mapValues, here,
    Option.map_some, Option.bind_some, Namespace.content?, Namespace.prune, Table.get?_filter]
  simp only [holds, Bool.true_or]
  have same : (place.dropIdle limit).versions = place.versions := rfl
  rw [same]
  cases place.versions.get? (version, key) <;> rfl

end Cache

/-! ## What sections do to the versions of documents -/

namespace Client

/-- What a section does to the versions known of documents. -/
inductive Enters (client : Client) (after : Cache) : Section → Prop where
  | stores {act : Section} :
      (∀ space version key, after.contentAt? space version key =
        ((Occurrence.stored ⟨client, act⟩).bind (fun gain => gain.entry? space version key)).or
          (client.cache.contentAt? space version key)) →
      Enters client after act
  | sweeps {moment limit : Instant} : after = (client.cache.cleanup limit).2 →
      Enters client after (.sweep moment)
  | resets {act : Section} : Occurrence.stored ⟨client, act⟩ = none →
      after = client.cache.reset.2 → Enters client after act

/-- A section that stores nothing, and leaves what is known as it was. -/
theorem Enters.of_same {client : Client} {after : Cache} {act : Section}
    (nothing : Occurrence.stored ⟨client, act⟩ = none)
    (same : ∀ space version key, after.contentAt? space version key =
      client.cache.contentAt? space version key) : Enters client after act := by
  refine .stores (fun space version key => ?_)
  rw [nothing, Option.bind_none, Option.none_or]
  exact same space version key

private theorem register_contentAt? {client : Client} {space : NamespaceKey} {key : DocumentKey}
    {watcher : Option (String × Reaction)} {registered : Registered}
    (accepted : client.register space key watcher = .ok registered) (other : NamespaceKey)
    (version : Version) (document : DocumentKey) :
    registered.client.cache.contentAt? other version document =
      client.cache.contentAt? other version document := by
  obtain ⟨created, touched, clock, done⟩ :=
    register_opened client (open_of_register accepted) space key watcher
  rw [accepted] at done
  have ready : ((client.cache.recordOrNew space key created).2.2.touchRecord space key
      touched).contentAt? other version document =
        client.cache.contentAt? other version document :=
    (Cache.contentAt?_touchRecord ..).trans (Cache.contentAt?_recordOrNew ..)
  have attached (joining : Client) (record : Record) :
      (joining.attach space key record watcher).2.2.cache.contentAt? other version document =
        joining.cache.contentAt? other version document := by
    cases watcher with
    | none => rfl
    | some watcher => exact Cache.contentAt?_modifyRecord ..
  cases done
  dsimp only
  split
  · exact (attached _ _).trans ready
  · exact (attached _ _).trans ready

private theorem beginRead_contentAt? (client : Client) (space : NamespaceKey) (key : DocumentKey)
    (pinned : Option Version) (other : NamespaceKey) (version : Version)
    (document : DocumentKey) :
    (client.beginRead space key pinned).2.cache.contentAt? other version document =
      client.cache.contentAt? other version document := by
  rcases client.beginRead_cases space key pinned with same | ⟨reply, after, found, same⟩
  · rw [same]
  · rw [same]
    cases found with
    | latest => exact Cache.contentAt?_touchRecord ..
    | pinned read => exact Cache.contentAt?_readVersion read other version document

private theorem finishRead_enters (client : Client) (pending : PendingRead)
    (response : Except Error ReadResponse) :
    client.Enters (client.finishRead pending response).2.cache (.finishRead pending response) := by
  have finished := client.finishesRead pending response
  refine .stores (fun other version document => ?_)
  unfold Occurrence.stored
  dsimp only
  generalize client.finishRead pending response = result at finished ⊢
  cases finished with
  | @leaves _ outcome empty =>
    cases outcome with
    | error cause => rfl
    | ok reply =>
      simp only [empty reply rfl]
      rfl
  | @stores _ reply content cache resolved held told =>
    have before : cache.contentAt? other version document =
        client.cache.contentAt? other version document := by
      rw [Cache.contentAt?, Cache.resolve_namespaces resolved, Cache.contentAt?]
    simp only [told, held, Option.map_some]
    rw [← before]
    exact Cache.contentAt?_store ..

private theorem reply_enters {client : Client} (indexed : client.cache.Indexed)
    (reply : WatchResponse) :
    client.Enters (client.applyReply reply).2.cache (.reply reply) := by
  cases index : client.cache.bySubscription.get? reply.uid with
  | none =>
    rw [applyReply_unknown index]
    refine .of_same ?_ (fun _ _ _ => rfl)
    simp only [Occurrence.stored, index, Option.bind_none, ite_self]
  | some place =>
    obtain ⟨space, key⟩ := place
    obtain ⟨record, located, _, _⟩ := indexed.located? index
    refine .stores (fun other version document => ?_)
    rw [versions_applyReply located, WatchResponse.enters, content?]
    by_cases good : ReplyStatus.ofWatchCode reply.status = .ok
    · simp only [Occurrence.stored, index, Option.bind_some, if_pos good]
      cases client.resolved? reply.checksum reply.nodes with
      | none => rw [ite_self, Option.map_none, Option.bind_none]
      | some content => rw [Option.map_some, Option.bind_some, Stored.entry?]
    · simp only [Occurrence.stored, if_neg good, ite_self, Option.bind_none]

theorem stored_of_other (client : Client) {act : Section} (other : act.isWork = false) :
    Occurrence.stored ⟨client, act⟩ = none := by
  cases act with
  | finishRead | reply => cases other
  | _ => rfl

/-- A section that is no work on the cache leaves it alone, or starts it afresh. -/
theorem cache_of_other (client : Client) {act : Section} (other : act.isWork = false) :
    (client.perform act).2.cache = client.cache ∨
      (client.perform act).2.cache = client.cache.reset.2 := by
  cases act with
  | watch | unwatch | beginRead | finishRead | reply | sweep => cases other
  | failStream =>
    simp only [perform, cancelOutbound]
    split
    · next serving =>
      rw [serving]
      exact .inr rfl
    · next serving =>
      rw [serving]
      exact .inr rfl
    · exact .inl rfl
  | finishClose =>
    simp only [perform]
    split
    · exact .inr rfl
    · exact .inl rfl
  | requestStream | openStream | startSweeps | scheduleSweep =>
    simp only [perform]
    split <;> exact .inl rfl
  | cancelStream =>
    simp only [perform, cancelOutbound]
    split <;> exact .inl rfl
  | stopStreamWorker =>
    simp only [perform, stopStreamWorker]
    split
    · split <;> exact .inl rfl
    · exact .inl rfl
  | stopSweepWorker =>
    simp only [perform, stopSweepWorker]
    split
    · split <;> exact .inl rfl
    · exact .inl rfl
  | poll | dropStream | beginClose | note | setClock => exact .inl rfl

theorem perform_enters {client : Client} (indexed : client.cache.Indexed) (act : Section) :
    client.Enters (client.perform act).2.cache act := by
  cases work : act.isWork with
  | false =>
    have nothing := client.stored_of_other work
    rcases client.cache_of_other work with same | afresh
    · rw [same]
      exact .of_same nothing (fun _ _ _ => rfl)
    · exact .resets nothing afresh
  | true =>
    cases act with
    | watch space key watcher =>
      simp only [perform]
      split
      · exact .of_same rfl (fun _ _ _ => rfl)
      · next accepted =>
        have same := register_contentAt? accepted
        exact .of_same rfl same
    | unwatch subscription watcher =>
      refine .of_same rfl (fun _ _ _ => ?_)
      simp only [perform, unwatch]
      split
      · rfl
      · exact Cache.contentAt?_modifyRecord ..
    | beginRead space key pinned =>
      exact .of_same rfl (beginRead_contentAt? { client with closed := false } space key pinned)
    | finishRead pending response => exact client.finishRead_enters pending response
    | reply reply => exact reply_enters indexed reply
    | sweep moment =>
      cases reached : client.clock.before? moment
          client.settings.inactivityThresholdSeconds.toNat with
      | none =>
        simp only [perform, sweepAt_unreached reached]
        exact .of_same rfl (fun _ _ _ => rfl)
      | some limit =>
        simp only [perform, sweepAt_eq reached]
        exact .sweeps rfl
    | _ => cases work

/-- What a section stored is there after it. -/
theorem entered_of_stored {client : Client} (indexed : client.cache.Indexed) {act : Section}
    {gain : Stored} (stored : Occurrence.stored ⟨client, act⟩ = some gain) :
    (client.perform act).2.cache.contentAt? gain.space gain.version gain.key =
      some gain.content := by
  have enters := perform_enters indexed act
  generalize (client.perform act).2.cache = after at enters
  cases enters with
  | stores known =>
    rw [known, stored, Option.bind_some, Stored.entry?, if_pos ⟨rfl, rfl, rfl⟩, Option.some_or]
  | sweeps => cases stored
  | resets nothing _ =>
    rw [nothing] at stored
    cases stored

end Client

/-! ## Versions that are held -/

/-- The version that a record holds is known of its document. -/
def Cache.Retains (cache : Cache) : Prop :=
  ∀ space key rest version content, cache.restAt? space key = some rest →
    rest.latest = some (version, content) →
    (cache.contentAt? space version key).isSome = true

theorem Client.perform_retains {client : Client} (indexed : client.cache.Indexed)
    (retains : client.cache.Retains) (act : Section) :
    (client.perform act).2.cache.Retains := by
  intro space key rest version content found latest
  rcases latest_of_perform indexed found latest with ⟨earlier, there, held⟩ | stored
  · have known := retains space key earlier version content there held
    have enters := perform_enters indexed act
    generalize (client.perform act).2.cache = after at enters found
    cases enters with
    | stores entered =>
      rw [entered, Option.isSome_or, known, Bool.or_true]
    | sweeps swept =>
      subst swept
      rw [Cache.contentAt?_cleanup found latest]
      exact known
    | resets _ afresh =>
      rw [afresh] at found
      cases found
  · rw [entered_of_stored indexed stored]
    rfl

theorem Run.retains {start client : Client} {history : List Occurrence} (fresh : start.Fresh)
    (run : Run start history client) : client.cache.Retains := by
  induction run with
  | start =>
    rw [fresh.eq]
    intro _ _ _ _ _ found
    cases found
  | step act run ih => exact Client.perform_retains (run.indexed fresh) ih act

/-! ## Checksums -/

/-- What the server sends of a document at a version, under a checksum: news of a subscription
to it, or the answer to a read of it. -/
inductive Occurrence.Sends (occurrence : Occurrence) (space : NamespaceKey)
    (key : DocumentKey) : Version → Bytes → Prop where
  | news {reply : WatchResponse} :
      occurrence.act = .reply reply → ReplyStatus.ofWatchCode reply.status = .ok →
      occurrence.before.cache.bySubscription.get? reply.uid = some (space, key) →
      Sends occurrence space key ⟨reply.namespaceId, reply.version⟩ reply.checksum
  | answer {pinned : Option Version} {answer : ReadResponse} :
      occurrence.act = .finishRead ⟨space, key, pinned⟩ (.ok answer) →
      (ReplyStatus.ofReadCode answer.status).isOk = true →
      Sends occurrence space key answer.held answer.checksum

/-- The server never sent two checksums for a document at one version. -/
def Unequivocal (history : List Occurrence) : Prop :=
  ∀ space key version, ∀ left ∈ history, ∀ right ∈ history, ∀ first second,
    left.Sends space key version first → right.Sends space key version second → first = second

/-- Whatever is obtained has the checksum that was sent with it. -/
theorem Occurrence.Obtains.sends {occurrence : Occurrence} {space : NamespaceKey}
    {key : DocumentKey} {version : Version} {content : Content}
    (obtains : occurrence.Obtains space key version content)
    (labelled : occurrence.before.cache.Labelled) :
    occurrence.Sends space key version content.checksum := by
  have own {checksum : Bytes} {nodes : List Node}
      (resolved : occurrence.before.resolved? checksum nodes = some content) :
      checksum = content.checksum := by
    rcases Client.resolved?_origin resolved with found | ⟨same, _⟩
    · exact (labelled.checksums checksum content found).symm
    · exact same.symm
  cases obtains with
  | news act good index resolved =>
    rw [← own resolved]
    exact .news act good index
  | answer act good resolved =>
    rw [← own resolved]
    exact .answer act good

section

variable {start client : Client} {history : List Occurrence}

theorem Run.sent_of_obtained (fresh : start.Fresh) (run : Run start history client)
    {space : NamespaceKey} {key : DocumentKey} {version : Version} {content : Content}
    (obtained : Obtained history space key version content) :
    ∃ occurrence ∈ history, occurrence.Sends space key version content.checksum := by
  obtain ⟨occurrence, member, obtains⟩ := obtained
  obtain ⟨_, before⟩ := run.reaches member
  exact ⟨occurrence, member, obtains.sends (before.labelled fresh)⟩

theorem Unequivocal.agree (unequivocal : Unequivocal history) (fresh : start.Fresh)
    (run : Run start history client) {space : NamespaceKey} {key : DocumentKey}
    {version : Version} {one other : Content} (here : Obtained history space key version one)
    (there : Obtained history space key version other) : one.checksum = other.checksum := by
  obtain ⟨left, leftMember, first⟩ := run.sent_of_obtained fresh here
  obtain ⟨right, rightMember, second⟩ := run.sent_of_obtained fresh there
  exact unequivocal space key version left leftMember right rightMember _ _ first second

/-! ## Reading what is held -/

/-- An open client answers an unpinned read with what the record holds if its last reply was
good. -/
theorem Client.get_of_held (opened : client.closed = false) {space : NamespaceKey}
    {key : DocumentKey} {record : Record} {version : Version} {content : Content}
    (found : client.cache.recordAt? space key = some record) (good : record.status = some .ok)
    (latest : record.latest = some (version, content)) (answer : Except Error ReadResponse)
    (meanwhile : Client → Client) :
    ∃ after, client.get ⟨space, key, none⟩ answer meanwhile =
      ⟨none, .ok { status := .ok, version, content := some content }, after⟩ := by
  simp [get, beginRead, ensureOpen, opened, cached, found, good, latest, now]

/-- What a record holds can be read by name. In every state the versions of a namespace have an
entry for the version that a record holds, whatever sweeps there were, so an open client answers a
read pinned to that version itself; and if the server never sent two checksums for a document at
one version, the entry has the checksum of the content that the record holds, so that pinned and
unpinned reads agree. -/
theorem held_version_is_kept (fresh : start.Fresh) (run : Run start history client)
    {space : NamespaceKey} {found : Namespace} {key : DocumentKey} {record : Record}
    {version : Version} {content : Content}
    (here : client.cache.namespaces.get? space = some found)
    (there : found.records.get? key = some record)
    (latest : record.latest = some (version, content)) :
    ∃ entry, found.versions.get? (version, record.key) = some entry ∧
      (client.closed = false → ∀ answer meanwhile, ∃ after,
        client.get ⟨space, record.key, some version⟩ answer meanwhile =
          ⟨none, .ok { status := .ok, version, content := some entry.content }, after⟩) ∧
      (client.closed = false → record.status = some .ok → ∀ answer meanwhile, ∃ after,
        client.get ⟨space, record.key, none⟩ answer meanwhile =
          ⟨none, .ok { status := .ok, version, content := some content }, after⟩) ∧
      (Unequivocal history → entry.content.checksum = content.checksum) := by
  have placed : client.cache.recordAt? space key = some record :=
    Option.bind_eq_some_iff.mpr ⟨found, here, there⟩
  have rest := Cache.restAt?_eq_some placed
  have own : record.key = key := (run.labelled fresh).record placed
  have derives := run.derives fresh
  obtain ⟨kept, known⟩ := Option.isSome_iff_exists.mp
    (run.retains fresh space key record.atRest version content rest latest)
  obtain ⟨place, same, entered⟩ := Option.bind_eq_some_iff.mp known
  obtain rfl := Option.some.inj (here.symm.trans same)
  obtain ⟨entry, listed, rfl⟩ := Option.map_eq_some_iff.mp entered
  rw [own]
  refine ⟨entry, listed, fun opened => Client.get_of_kept opened known,
    fun opened good => Client.get_of_held opened placed good latest, fun unequivocal => ?_⟩
  exact unequivocal.agree fresh run (derives.entered space version key _ known)
    (derives.latest space key record.atRest version content rest latest)

end

private def numbered (number : UInt32) (byte : UInt8) : WatchResponse :=
  { namespaceId := 1, version := number, checksum := [byte]
    nodes := [{ valueType := 4, int := 1 }] }

/-- A document is watched and the server sends two versions of it, of which a sweep prunes the
first. -/
private def sweptVersions : List Section :=
  [.watch { root := "/srv" } { document := "a" } (some ("A", .idle)), .reply (numbered 7 7),
    .reply (numbered 8 8), .sweep 61000000000]

private theorem unequivocal_sweptVersions :
    Unequivocal (Client.byDefault.occurrences sweptVersions) := by
  have named (occurrence : Occurrence) (member : occurrence ∈
      Client.byDefault.occurrences sweptVersions) (space : NamespaceKey) (key : DocumentKey)
      (version : Version) (checksum : Bytes) (sends : occurrence.Sends space key version checksum) :
      checksum = [version.number.toUInt8] := by
    rcases List.mem_cons.mp member with rfl | member
    · cases sends with
      | news act | answer act => cases act
    rcases List.mem_cons.mp member with rfl | member
    · cases sends with
      | news act =>
        cases act
        rfl
      | answer act => cases act
    rcases List.mem_cons.mp member with rfl | member
    · cases sends with
      | news act =>
        cases act
        rfl
      | answer act => cases act
    · obtain rfl := List.mem_singleton.mp member
      cases sends with
      | news act | answer act => cases act
  intro space key version left leftMember right rightMember first second here there
  exact (named left leftMember space key version first here).trans
    (named right rightMember space key version second there).symm

theorem held_version_is_kept_swept :
    ∃ client found record content entry after,
      Run Client.byDefault (Client.byDefault.occurrences sweptVersions) client ∧
      client.cache.namespaces.get? { root := "/srv" } = some found ∧
      found.records.get? { document := "a" } = some record ∧
      record.latest = some (⟨1, 8⟩, content) ∧
      client.cache.contentAt? { root := "/srv" } ⟨1, 7⟩ { document := "a" } = none ∧
      found.versions.get? (⟨1, 8⟩, record.key) = some entry ∧
      client.get ⟨{ root := "/srv" }, record.key, some ⟨1, 8⟩⟩ (.error .closed) id =
        ⟨none, .ok { status := .ok, version := ⟨1, 8⟩, content := some entry.content }, after⟩ ∧
      entry.content.checksum = content.checksum := by
  have run : Run Client.byDefault _ _ := Run.start.performAll sweptVersions
  have pruned : ((Client.byDefault.performAll sweptVersions).cache.contentAt?
      { root := "/srv" } ⟨1, 7⟩ { document := "a" }).isNone = true := by decide +kernel
  have held : ((Client.byDefault.performAll sweptVersions).cache.recordAt?
      { root := "/srv" } { document := "a" }).bind (fun record => record.latest.map Prod.fst) =
        some ⟨1, 8⟩ := by decide +kernel
  have opened : (Client.byDefault.performAll sweptVersions).closed = false := by decide +kernel
  obtain ⟨record, found, held⟩ := Option.bind_eq_some_iff.mp held
  obtain ⟨⟨_, content⟩, latest, rfl⟩ := Option.map_eq_some_iff.mp held
  obtain ⟨place, here, there⟩ := Option.bind_eq_some_iff.mp found
  obtain ⟨entry, listed, pinned, _, agree⟩ :=
    held_version_is_kept Client.byDefault_fresh run here there latest
  obtain ⟨after, answered⟩ := pinned opened (.error .closed) id
  exact ⟨_, place, record, content, entry, after, run, here, there, latest,
    Option.isNone_iff_eq_none.mp pruned, listed, answered, agree unequivocal_sweptVersions⟩

end ConfigWatch

import ConfigWatch.Proofs.Cache.Pruning
import ConfigWatch.Proofs.Client.Retention
import ConfigWatch.Proofs.Client.Touching

/-!
# Uses of versions

A version of a document is used when its content is stored there, and when it answers a read that is
pinned to it. An unpinned read uses the record of the document, not the version. The entry of a
version was last touched when it was last used.
-/

set_option autoImplicit false

namespace ConfigWatch

namespace Cache

variable {cache after : Cache} {space other : NamespaceKey} {version number : Version}
  {key document : DocumentKey}

/-- Two caches know the same of every document at every version. -/
def SameEntries (cache after : Cache) : Prop :=
  ∀ space version key, after.entryAt? space version key = cache.entryAt? space version key

theorem SameEntries.trans {middle : Cache} (first : SameEntries cache middle)
    (second : SameEntries middle after) : SameEntries cache after :=
  fun space version key => (second space version key).trans (first space version key)

theorem sameEntries_modifyRecord (cache : Cache) (space : NamespaceKey) (key : DocumentKey)
    (change : Record → Record) : SameEntries cache (cache.modifyRecord space key change) := by
  intro other version document
  simp only [entryAt?, modifyRecord, Table.get?_modify]
  split
  · cases cache.namespaces.get? other <;> rfl
  · rfl

theorem sameEntries_touchRecord (cache : Cache) (space : NamespaceKey) (key : DocumentKey)
    (now : Instant) : SameEntries cache (cache.touchRecord space key now) := by
  unfold touchRecord
  split
  · exact fun _ _ _ => rfl
  · split <;> exact cache.sameEntries_modifyRecord space key _

theorem sameEntries_resolve {checksum : Bytes} {decode : Unit → Except DecodeError Payload.Decoded}
    {now : Instant} {content : Content}
    (resolved : cache.resolve checksum decode now = .ok (content, after)) :
    SameEntries cache after := by
  intro other version document
  rw [entryAt?, resolve_namespaces resolved, entryAt?]

theorem sameEntries_changeRecord (cache : Cache) (id : UInt32)
    (change : Record → List Notification × Record) :
    SameEntries cache (cache.changeRecord id change).2 := by
  unfold changeRecord
  split
  · exact fun _ _ _ => rfl
  · next space key record _ => exact cache.sameEntries_modifyRecord space key _

theorem get?_versions_namespaceOrNew (cache : Cache) (space : NamespaceKey) (version : Version)
    (key : DocumentKey) :
    (cache.namespaceOrNew space).versions.get? (version, key) =
      cache.entryAt? space version key := by
  rw [namespaceOrNew, entryAt?]
  cases cache.namespaces.get? space <;> rfl

theorem sameEntries_recordOrNew (cache : Cache) (space : NamespaceKey) (key : DocumentKey)
    (now : Instant) : SameEntries cache (cache.recordOrNew space key now).2.2 := by
  intro other version document
  simp only [recordOrNew]
  split
  · rfl
  · rw [entryAt?, Table.get?_insert]
    split
    · next same =>
      rw [same]
      exact cache.get?_versions_namespaceOrNew space version document
    · rfl

theorem entryAt?_insertVersion (cache : Cache) (content : Content) (now : Instant) :
    (cache.insertVersion space version key content now).entryAt? other number document =
      if other = space ∧ number = version ∧ document = key then some ⟨content, now⟩
      else cache.entryAt? other number document := by
  rw [entryAt?, insertVersion, setNamespace, Table.get?_insert]
  by_cases same : other = space
  · subst same
    rw [if_pos rfl, Option.bind_some, Namespace.insertVersion, Table.get?_insert,
      get?_versions_namespaceOrNew]
    simp only [Prod.mk.injEq, true_and]
  · rw [if_neg same, if_neg (fun here => same here.1), entryAt?]

theorem entryAt?_readVersion {now : Instant} {content : Content}
    (read : cache.readVersion space version key now = some (content, after)) :
    after.entryAt? other number document =
      if other = space ∧ number = version ∧ document = key then
        (cache.entryAt? other number document).map (fun entry => { entry with lastTouch := now })
      else cache.entryAt? other number document := by
  obtain ⟨_, _, same⟩ := Option.map_eq_some_iff.mp read
  cases same
  simp only [entryAt?, Table.get?_modify]
  by_cases same : other = space
  · subst same
    cases cache.namespaces.get? other with
    | none => simp
    | some found =>
      simp only [if_true, Option.map_some, Option.bind_some, Table.get?_modify, Prod.mk.injEq,
        true_and]
  · rw [if_neg same, if_neg (fun here => same here.1)]

end Cache

/-- The moment at which a section used a version of a document: it stored a content there, or
answered a read that is pinned to it. -/
def Occurrence.usedVersionAt? (occurrence : Occurrence) (space : NamespaceKey) (version : Version)
    (key : DocumentKey) : Option Instant :=
  match occurrence.act with
  | .beginRead other document (some number) =>
    if other = space ∧ number = version ∧ document = key then
      (occurrence.before.cached space key (some version)).map
        (fun _ => occurrence.before.clock.read.1)
    else none
  | _ =>
    (occurrence.stored.bind (fun gain => gain.entry? space version key)).map
      (fun _ => occurrence.before.clock.read.2.read.1)

/-- A version of a document was used at a moment of a history. -/
def UsedVersion (history : List Occurrence) (space : NamespaceKey) (version : Version)
    (key : DocumentKey) (moment : Instant) : Prop :=
  ∃ occurrence ∈ history, occurrence.usedVersionAt? space version key = some moment

namespace Client

variable {client : Client} {space : NamespaceKey} {version : Version} {key : DocumentKey}
  {entry : VersionEntry}

/-- Every version known after a section was used by it, or was known as it is before. -/
def Dates (client : Client) (act : Section) (after : Cache) : Prop :=
  ∀ space version key entry, after.entryAt? space version key = some entry →
    Occurrence.usedVersionAt? ⟨client, act⟩ space version key = some entry.lastTouch ∨
      Occurrence.usedVersionAt? ⟨client, act⟩ space version key = none ∧
        client.cache.entryAt? space version key = some entry

theorem Dates.of_same {act : Section} {after : Cache}
    (nothing : ∀ space version key,
      Occurrence.usedVersionAt? ⟨client, act⟩ space version key = none)
    (same : Cache.SameEntries client.cache after) : client.Dates act after := by
  intro space version key entry found
  rw [same] at found
  exact .inr ⟨nothing space version key, found⟩

/-- A section that stores a content, or none, at the second reading of the clock. -/
theorem Dates.of_stored {act : Section} {after before : Cache} {stored : Option Stored}
    (uses : ∀ space version key, Occurrence.usedVersionAt? ⟨client, act⟩ space version key =
      (stored.bind (fun gain => gain.entry? space version key)).map
        (fun _ => client.clock.read.2.read.1))
    (same : Cache.SameEntries client.cache before)
    (stores : Cache.SameEntries (stored.elim before (fun gain => before.insertVersion gain.space
      gain.version gain.key gain.content client.clock.read.2.read.1)) after) :
    client.Dates act after := by
  intro space version key entry found
  rw [stores] at found
  rw [uses]
  cases stored with
  | none =>
    rw [Option.elim_none, same] at found
    exact .inr ⟨rfl, found⟩
  | some gain =>
    rw [Option.elim_some, Cache.entryAt?_insertVersion] at found
    rw [Option.bind_some, Stored.entry?]
    split at found
    · next here =>
      cases found
      rw [if_pos here, Option.map_some]
      exact .inl rfl
    · next elsewhere =>
      rw [if_neg elsewhere, Option.map_none]
      exact .inr ⟨rfl, (same space version key).symm.trans found⟩

theorem usedVersionAt?_of_other (client : Client) {act : Section} (other : act.isWork = false)
    (space : NamespaceKey) (version : Version) (key : DocumentKey) :
    Occurrence.usedVersionAt? ⟨client, act⟩ space version key = none := by
  cases act with
  | beginRead | finishRead | reply => cases other
  | _ => rfl

private theorem accept_sameEntries (client : Client) (space : NamespaceKey) (key : DocumentKey)
    (watcher : Option (String × Reaction)) :
    Cache.SameEntries client.cache (client.accept space key watcher).client.cache := by
  have touched := (client.cache.sameEntries_recordOrNew space key client.clock.read.1).trans
    (Cache.sameEntries_touchRecord _ space key client.clock.read.2.read.1)
  have attached (joining : Client) (record : Record)
      (before : Cache.SameEntries client.cache joining.cache) :
      Cache.SameEntries client.cache (joining.attach space key record watcher).2.2.cache := by
    cases watcher with
    | none => exact before
    | some watcher => exact before.trans (joining.cache.sameEntries_modifyRecord space key _)
  unfold accept
  dsimp only
  split
  · exact attached _ _ touched
  · exact attached _ _ touched

private theorem beginRead_dates (client : Client) (space : NamespaceKey) (key : DocumentKey)
    (pinned : Option Version) :
    client.Dates (.beginRead space key pinned)
      (client.perform (.beginRead space key pinned)).2.cache := by
  cases pinned with
  | none =>
    apply Dates.of_same (fun _ _ _ => rfl)
    rcases ({ client with closed := false } : Client).beginRead_cases space key none with
      same | ⟨reply, after, found, same⟩
    · simp only [perform, same]
      exact fun _ _ _ => rfl
    · simp only [perform, same]
      cases found with
      | latest => exact client.cache.sameEntries_touchRecord space key _
  | some version =>
    intro other number document entry found
    have uses : Occurrence.usedVersionAt? ⟨client, .beginRead space key (some version)⟩ other
        number document = if space = other ∧ version = number ∧ key = document then
          (client.cache.readVersion other number document client.clock.read.1).map
            (fun _ => client.clock.read.1)
        else none := by
      simp only [Occurrence.usedVersionAt?, cached_pinned, Option.map_map]
      rfl
    rw [uses]
    simp only [perform, beginRead, ensureOpen, Bool.false_eq_true, if_false, cached_pinned] at found
    cases read : client.cache.readVersion space version key client.clock.read.1 with
    | none =>
      simp only [read, Option.map_none] at found
      refine .inr ⟨?_, found⟩
      split
      · next here =>
        obtain ⟨rfl, rfl, rfl⟩ := here
        rw [read, Option.map_none]
      · rfl
    | some answer =>
      obtain ⟨content, after⟩ := answer
      simp only [read, Option.map_some, holding] at found
      rw [Cache.entryAt?_readVersion read] at found
      split at found
      · next here =>
        obtain ⟨rfl, rfl, rfl⟩ := here
        obtain ⟨_, _, rfl⟩ := Option.map_eq_some_iff.mp found
        rw [if_pos ⟨rfl, rfl, rfl⟩, read, Option.map_some]
        exact .inl rfl
      · next elsewhere =>
        rw [if_neg (fun here => elsewhere ⟨here.1.symm, here.2.1.symm, here.2.2.symm⟩)]
        exact .inr ⟨rfl, found⟩

private theorem finishRead_dates (client : Client) (pending : PendingRead)
    (response : Except Error ReadResponse) :
    client.Dates (.finishRead pending response) (client.finishRead pending response).2.cache := by
  have finished := client.finishesRead pending response
  have stored : Occurrence.stored ⟨client, .finishRead pending response⟩ =
      (client.finishRead pending response).1.toOption.bind (fun reply =>
        reply.content.map (fun content =>
          ⟨pending.space, pending.key, reply.version, content⟩)) := by
    simp only [Occurrence.stored]
    cases (client.finishRead pending response).1 <;> rfl
  generalize client.finishRead pending response = result at finished stored ⊢
  cases finished with
  | @leaves _ outcome empty =>
    apply Dates.of_stored (fun _ _ _ => rfl) (fun _ _ _ => rfl)
    rw [stored]
    cases outcome with
    | error cause => exact fun _ _ _ => rfl
    | ok reply =>
      simp only [Except.toOption, Option.bind_some, empty reply rfl]
      exact fun _ _ _ => rfl
  | @stores _ reply content cache resolved held told =>
    apply Dates.of_stored (fun _ _ _ => rfl) (Cache.sameEntries_resolve resolved)
    simp only [stored, Except.toOption, Option.bind_some, told, held, Option.map_some]
    exact fun _ _ _ => rfl

private theorem applyReply_dates (client : Client) (reply : WatchResponse) :
    client.Dates (.reply reply) (client.applyReply reply).2.cache := by
  have touched (space : NamespaceKey) (key : DocumentKey) :
      Cache.SameEntries client.cache (client.touchAt space key).cache :=
    client.cache.sameEntries_touchRecord space key _
  have nothing {after : Cache} (none : Occurrence.stored ⟨client, .reply reply⟩ = none)
      (same : Cache.SameEntries client.cache after) : client.Dates (.reply reply) after := by
    apply Dates.of_same ?_ same
    intro space version key
    simp only [Occurrence.usedVersionAt?, none, Option.bind_none, Option.map_none]
  unfold applyReply
  split
  · next absent =>
    apply nothing ?_ (fun _ _ _ => rfl)
    simp only [Occurrence.stored, absent, Option.bind_none, ite_self]
  · next space key found =>
    split
    · next removed =>
      apply nothing
      · simp [Occurrence.stored, removed]
      · rcases client.applyRemoval_cases reply.uid space key with done | done <;> rw [done] <;>
          exact touched space key
    · next good =>
      rw [applyContent_stages]
      cases resolved : client.cache.resolve reply.checksum
          (fun _ => client.decodePayload reply.nodes) client.clock.read.1 with
      | error cause =>
        apply nothing ?_ (client.cache.sameEntries_changeRecord reply.uid _)
        simp only [Occurrence.stored, good, if_true, found, Option.bind_some,
          client.resolved?_eq reply.checksum reply.nodes client.clock.read.1, resolved]
        rfl
      | ok result =>
        obtain ⟨content, cache⟩ := result
        have stored : Occurrence.stored ⟨client, .reply reply⟩ =
            some ⟨space, key, ⟨reply.namespaceId, reply.version⟩, content⟩ := by
          simp only [Occurrence.stored, good, if_true, found, Option.bind_some,
            resolved?_eq_some resolved, Option.map_some]
        apply Dates.of_stored (fun _ _ _ => rfl) (Cache.sameEntries_resolve resolved)
        rw [stored]
        exact (Cache.sameEntries_touchRecord _ space key _).trans
          (Cache.sameEntries_changeRecord _ reply.uid _)
    · next bad =>
      apply nothing
      · simp only [Occurrence.stored, if_neg bad]
      · exact (touched space key).trans (Cache.sameEntries_changeRecord _ reply.uid _)

theorem perform_dates (client : Client) (act : Section) :
    client.Dates act (client.perform act).2.cache := by
  cases work : act.isWork with
  | false =>
    have unused := client.usedVersionAt?_of_other work
    rcases client.cache_of_other work with same | afresh
    · rw [same]
      exact .of_same unused (fun _ _ _ => rfl)
    · rw [afresh]
      intro _ _ _ _ found
      cases found
  | true =>
    cases act with
    | watch space key watcher =>
      rw [perform, register_accepts rfl]
      have same := ({ client with closed := false } : Client).accept_sameEntries space key watcher
      exact .of_same (fun _ _ _ => rfl) same
    | unwatch subscription watcher =>
      apply Dates.of_same (fun _ _ _ => rfl)
      simp only [perform, unwatch]
      split
      · exact fun _ _ _ => rfl
      · next space key record _ => exact client.cache.sameEntries_modifyRecord space key _
    | beginRead space key pinned => exact client.beginRead_dates space key pinned
    | finishRead pending response => exact client.finishRead_dates pending response
    | reply reply => exact client.applyReply_dates reply
    | sweep moment =>
      cases reached : client.clock.before? moment
          client.settings.inactivityThresholdSeconds.toNat with
      | none =>
        simp only [perform, sweepAt_unreached reached]
        exact .of_same (fun _ _ _ => rfl) (fun _ _ _ => rfl)
      | some limit =>
        simp only [perform, sweepAt_eq reached]
        intro space version key entry found
        exact .inr ⟨rfl, (((client.cache.prunes_cleanup limit).entries _ _ _ entry).mp found).1⟩
    | _ => cases work

/-! ## The clock -/

private theorem finishRead_clock {pending : PendingRead} {response : Except Error ReadResponse}
    {gain : Stored} (stored : Occurrence.stored ⟨client, .finishRead pending response⟩ = some gain) :
    (client.finishRead pending response).2.clock = client.clock.read.2.read.2 := by
  obtain ⟨answer, reply, rfl, _, told, _⟩ := stored_read stored
  simp only [Occurrence.stored] at stored
  have finished := client.finishesRead pending (.ok answer)
  generalize client.finishRead pending (.ok answer) = result at finished stored ⊢
  cases finished with
  | @leaves _ outcome empty =>
    cases outcome with
    | error cause => cases stored
    | ok reply =>
      simp only [empty reply rfl] at stored
      cases stored
  | stores => rfl

private theorem applyReply_clock {reply : WatchResponse} {gain : Stored}
    (stored : Occurrence.stored ⟨client, .reply reply⟩ = some gain) :
    (client.applyReply reply).2.clock = client.clock.read.2.read.2.read.2 := by
  obtain ⟨good, index, _, resolved⟩ := stored_reply stored
  rw [client.resolved?_eq reply.checksum reply.nodes client.clock.read.1] at resolved
  unfold applyReply
  simp only [index, good, applyContent_stages]
  cases found : client.cache.resolve reply.checksum (fun _ => client.decodePayload reply.nodes)
      client.clock.read.1 with
  | error cause =>
    rw [found] at resolved
    cases resolved
  | ok result => rfl

/-- What a section uses it uses at its own time. -/
theorem usedVersionAt?_present {act : Section} {moment : Instant}
    (used : Occurrence.usedVersionAt? ⟨client, act⟩ space version key = some moment) :
    client.clock.read.1 ≤ moment ∧ moment ≤ (client.perform act).2.clock.read.1 := by
  cases act with
  | beginRead other document pinned =>
    cases pinned with
    | none => cases used
    | some number =>
      simp only [Occurrence.usedVersionAt?] at used
      split at used
      · obtain ⟨_, _, rfl⟩ := Option.map_eq_some_iff.mp used
        refine ⟨Int.le_refl _, ?_⟩
        exact (client.perform_advances (fun _ other => by cases other)).clock
      · cases used
  | finishRead pending response =>
    obtain ⟨_, entered, rfl⟩ := Option.map_eq_some_iff.mp used
    obtain ⟨gain, stored, _⟩ := Option.bind_eq_some_iff.mp entered
    refine ⟨client.clock.read_le, ?_⟩
    rw [perform, finishRead_clock stored]
    exact client.clock.read.2.read_le
  | reply reply =>
    obtain ⟨_, entered, rfl⟩ := Option.map_eq_some_iff.mp used
    obtain ⟨gain, stored, _⟩ := Option.bind_eq_some_iff.mp entered
    refine ⟨client.clock.read_le, ?_⟩
    rw [perform, applyReply_clock stored]
    exact Int.le_trans client.clock.read.2.read_le (Clock.read_le _)
  | _ => cases used

/-- The uses of versions lie in the past, and what is known was last touched when it was last
used. -/
structure Dated (client : Client) (history : List Occurrence) : Prop where
  past : ∀ space version key moment, UsedVersion history space version key moment →
    moment ≤ client.clock.read.1
  used : ∀ space version key entry, client.cache.entryAt? space version key = some entry →
    UsedVersion history space version key entry.lastTouch
  last : ∀ space version key entry, client.cache.entryAt? space version key = some entry →
    ∀ moment, UsedVersion history space version key moment → moment ≤ entry.lastTouch

end Client

theorem usedVersion_step {history : List Occurrence} {occurrence : Occurrence}
    {space : NamespaceKey} {version : Version} {key : DocumentKey} {moment : Instant} :
    UsedVersion (history ++ [occurrence]) space version key moment ↔
      UsedVersion history space version key moment ∨
        occurrence.usedVersionAt? space version key = some moment := by
  simp only [UsedVersion, List.mem_append, List.mem_singleton, or_and_right, exists_or,
    exists_eq_left]

theorem Client.Dated.perform {client : Client} {history : List Occurrence}
    (dated : client.Dated history) {act : Section}
    (forward : ∀ clock, act = .setClock clock → client.clock.read.1 ≤ clock.read.1) :
    (client.perform act).2.Dated (history ++ [⟨client, act⟩]) := by
  have dates := client.perform_dates act
  constructor
  case past =>
    intro space version key moment used
    rcases usedVersion_step.mp used with earlier | now
    · exact Int.le_trans (dated.past space version key moment earlier)
        (perform_clock_le forward)
    · exact (usedVersionAt?_present now).2
  case used =>
    intro space version key entry found
    rcases dates space version key entry found with now | ⟨_, known⟩
    · exact usedVersion_step.mpr (.inr now)
    · exact usedVersion_step.mpr (.inl (dated.used space version key entry known))
  case last =>
    intro space version key entry found moment used
    rcases dates space version key entry found with now | ⟨unused, known⟩
    · rcases usedVersion_step.mp used with earlier | same
      · exact Int.le_trans (dated.past space version key moment earlier)
          (usedVersionAt?_present now).1
      · rw [now, Option.some.injEq] at same
        exact Int.le_of_eq same.symm
    · rcases usedVersion_step.mp used with earlier | same
      · exact dated.last space version key entry known moment earlier
      · rw [unused] at same
        cases same

section

variable {start client : Client} {history : List Occurrence}

theorem Run.dated (fresh : start.Fresh) (run : Run start history client)
    (forward : Forward history) : client.Dated history := by
  induction run with
  | start =>
    rw [fresh.eq]
    constructor
    case past =>
      rintro _ _ _ _ ⟨_, member, _⟩
      cases member
    case used =>
      intro _ _ _ _ found
      cases found
    case last =>
      intro _ _ _ _ found
      cases found
  | @step history client act run ih =>
    have before := ih (fun other inside => forward other (List.mem_append_left _ inside))
    apply before.perform
    intro clock same
    exact forward ⟨client, act⟩ (List.mem_append_right _ List.mem_cons_self) clock same

/-- What is known of a document at a version was touched at some moment or later if and only if the
version was used then. -/
theorem Client.Dated.touched_since_iff (dated : client.Dated history) {space : NamespaceKey}
    {version : Version} {key : DocumentKey} {entry : VersionEntry}
    (found : client.cache.entryAt? space version key = some entry) (limit : Instant) :
    limit ≤ entry.lastTouch ↔
      ∃ moment, limit ≤ moment ∧ UsedVersion history space version key moment := by
  constructor
  · intro recent
    exact ⟨entry.lastTouch, recent, dated.used space version key entry found⟩
  · rintro ⟨moment, recent, used⟩
    exact Int.le_trans recent (dated.last space version key entry found moment used)

/-- Versions are pruned exactly. Of any cache and at any limit, and in whatever order the index is
trimmed, a sweep leaves what is known of a document at a version if the record of the document is
left and holds the version, or if the content is left in the index of checksums and the version was
touched since the limit; it removes the rest, and alters nothing. In a run that does not set the
clock back, a version was touched since the limit if it was used since. So a namespace of which no
version was used since is left with the versions that its records hold, one for each record at
most. -/
theorem sweep_prunes_the_unused (fresh : start.Fresh) (run : Run start history client) :
    (∀ (cache : Cache) (limit : Instant), cache.Prunes limit (cache.cleanup limit).2 ∧
      ∀ order, cache.Prunes limit (cache.sweepBy limit order)) ∧
    (Forward history → ∀ limit space,
      let after := (client.cache.cleanup limit).2
      (∀ version key entry, after.entryAt? space version key = some entry ↔
        client.cache.entryAt? space version key = some entry ∧
          (after.HoldsVersion space version key ∨
            after.byChecksum.contains entry.content.checksum = true ∧
              ∃ moment, limit ≤ moment ∧ UsedVersion history space version key moment)) ∧
      ((∀ version key moment, UsedVersion history space version key moment → moment < limit) →
        ∀ found, after.namespaces.get? space = some found →
          (∀ version key entry, found.versions.get? (version, key) = some entry →
            found.HoldsVersion version key) ∧
          found.versions.size ≤ found.records.size)) := by
  constructor
  · intro cache limit
    exact ⟨cache.prunes_cleanup limit, cache.prunes_sweepBy limit⟩
  · intro forward limit space after
    have dated := run.dated fresh forward
    have prunes := client.cache.prunes_cleanup limit
    constructor
    · intro version key entry
      rw [prunes.entries]
      apply and_congr_right
      intro found
      rw [dated.touched_since_iff found]
    · intro unused found here
      apply prunes.unused space found here
      intro version key entry known
      exact unused version key entry.lastTouch (dated.used space version key entry known)

end

private def publishes (version : UInt32) (byte : UInt8) : Section :=
  .reply
    { namespaceId := 1, version, checksum := [byte], nodes := [{ valueType := 4, int := 1 }] }

/-- Three versions of a document are sent, and then the first of them is read. -/
private def readingFirst : List Section :=
  [.watch { root := "/srv" } { document := "a" } (some ("A", .idle)), publishes 1 1,
    publishes 2 2, publishes 3 3,
    .beginRead { root := "/srv" } { document := "a" } (some ⟨1, 1⟩)]

private theorem forward_readingFirst : Forward (Client.byDefault.occurrences readingFirst) := by
  intro occurrence member clock sets
  simp only [readingFirst, publishes, Client.occurrences, List.mem_cons, List.not_mem_nil,
    or_false] at member
  rcases member with rfl | rfl | rfl | rfl | rfl <;> cases sets

/-- At the time of the read the first version stays, which was read then, and the third, which is
held; later the third stays alone. -/
theorem sweep_prunes_the_unused_of_three :
    let cache := (Client.byDefault.performAll readingFirst).cache
    ((cache.cleanup 12).2.entryAt? { root := "/srv" } ⟨1, 1⟩ { document := "a" }).isSome = true ∧
      (cache.cleanup 12).2.entryAt? { root := "/srv" } ⟨1, 2⟩ { document := "a" } = none ∧
      ((cache.cleanup 12).2.entryAt? { root := "/srv" } ⟨1, 3⟩ { document := "a" }).isSome = true ∧
      ∃ found, (cache.cleanup 14).2.namespaces.get? { root := "/srv" } = some found ∧
        found.versions.size ≤ found.records.size ∧ found.records.size = 1 := by
  intro cache
  have run : Run Client.byDefault (Client.byDefault.occurrences readingFirst)
      (Client.byDefault.performAll readingFirst) := Run.start.performAll readingFirst
  obtain ⟨_, always⟩ := sweep_prunes_the_unused Client.byDefault_fresh run
  obtain ⟨entries, _⟩ := always forward_readingFirst 12 { root := "/srv" }
  obtain ⟨_, unused⟩ := always forward_readingFirst 14 { root := "/srv" }
  have third : (cache.cleanup 12).2.HoldsVersion { root := "/srv" } ⟨1, 3⟩ { document := "a" } :=
    ⟨_, rfl, _, _, rfl, rfl⟩
  refine ⟨?_, ?_, ?_, ?_⟩
  · have read : UsedVersion (Client.byDefault.occurrences readingFirst) { root := "/srv" } ⟨1, 1⟩
        { document := "a" } 12 :=
      ⟨_, .tail _ (.tail _ (.tail _ (.tail _ List.mem_cons_self))), by decide +kernel⟩
    obtain ⟨entry, known, indexed⟩ : ∃ entry, cache.entryAt? { root := "/srv" } ⟨1, 1⟩
        { document := "a" } = some entry ∧
          (cache.cleanup 12).2.byChecksum.contains entry.content.checksum = true :=
      ⟨_, rfl, by decide +kernel⟩
    rw [(entries _ _ entry).mpr ⟨known, .inr ⟨indexed, 12, Int.le_refl _, read⟩⟩]
    rfl
  · have gone : ((cache.cleanup 12).2.entryAt? { root := "/srv" } ⟨1, 2⟩
        { document := "a" }).isNone = true := by decide +kernel
    exact Option.isNone_iff_eq_none.mp gone
  · obtain ⟨entry, known⟩ : ∃ entry, cache.entryAt? { root := "/srv" } ⟨1, 3⟩
        { document := "a" } = some entry := ⟨_, rfl⟩
    rw [(entries _ _ entry).mpr ⟨known, .inl third⟩]
    rfl
  · have past := (run.dated Client.byDefault_fresh forward_readingFirst).past
    obtain ⟨found, here, one⟩ : ∃ found,
        (cache.cleanup 14).2.namespaces.get? { root := "/srv" } = some found ∧
          found.records.size = 1 := ⟨_, rfl, rfl⟩
    have few := (unused (fun version key moment used =>
      Int.lt_of_le_of_lt (past _ version key moment used) (by decide +kernel)) found here).2
    exact ⟨found, here, few, one⟩

end ConfigWatch

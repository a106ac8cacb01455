import ConfigWatch.Proofs.Client.Converging
import ConfigWatch.Proofs.Client.Undecodable
import ConfigWatch.Proofs.Client.Works

/-!
# Replies and idleness

A reply touches the record under its id, so that a subscription which the server answers is not
idle. The one exception is a good reply with a payload that does not decode: it changes the status
of the record and leaves the time of its last touch.
-/

set_option autoImplicit false

namespace ConfigWatch

/-! ## Records are touched at present times -/

namespace Cache

variable {cache after : Cache} {now later : Instant}

/-- Every record was last touched before some moment. -/
def TouchedBefore (cache : Cache) (now : Instant) : Prop :=
  ∀ space key record, cache.recordAt? space key = some record → record.lastTouch < now

namespace TouchedBefore

theorem mono (touched : cache.TouchedBefore now) (order : now ≤ later) :
    cache.TouchedBefore later :=
  fun space key record found => Int.lt_of_lt_of_le (touched space key record found) order

/-- An operation that would touch records after every moment touches none. -/
theorem of_ages (touched : cache.TouchedBefore now) (untouched : ∀ moment, Ages moment cache after) :
    after.TouchedBefore now := by
  intro space key record found
  rcases (untouched (record.lastTouch + 1)).records space key record found with
    ⟨earlier, there, same⟩ | later
  · rw [← same]
    exact touched space key earlier there
  · exact absurd later (Int.not_le.mpr (Int.lt_succ _))

/-- Whatever a client does, records are touched in the past. -/
theorem works (touched : cache.TouchedBefore now) (works : cache.Works now after later) :
    after.TouchedBefore later := by
  induction works with
  | begins => exact touched
  | waits _ order ih => exact ih.mono order
  | @opens middle moment _ space key _ before ih =>
    have order := Int.le_of_lt before
    cases known : middle.recordAt? space key with
    | some record =>
      rw [recordOrNew_found known]
      exact ih.mono order
    | none =>
      rw [recordOrNew_new known]
      intro other document record found
      rw [recordAt?_withNewRecord, recordFor_new known] at found
      split at found
      · cases found
        exact before
      · exact ih.mono order other document record found
  | touches space key _ before ih =>
    intro other document record found
    rw [recordAt?_touchRecord] at found
    split at found
    · obtain ⟨_, _, rfl⟩ := Option.map_eq_some_iff.mp found
      exact before
    · exact ih.mono (Int.le_of_lt before) other document record found
  | changes _ kept ih =>
    exact ih.of_ages (fun _ => modifyRecord_ages (fun record found => .inl (kept record found)))
  | resolves _ before resolved ih =>
    exact (ih.mono (Int.le_of_lt before)).of_ages (fun _ => resolve_ages resolved)
  | stores _ _ _ _ _ before ih =>
    exact (ih.mono (Int.le_of_lt before)).of_ages (fun _ => insertVersion_ages ..)
  | reads _ before read ih =>
    exact (ih.mono (Int.le_of_lt before)).of_ages (fun _ => readVersion_ages read)
  | forgets _ _ ih => exact ih.of_ages (fun _ => ages_of_same (fun _ _ => rfl))
  | sweeps limit _ ih => exact ih.of_ages (fun _ => cleanup_ages _ limit)
  | resets _ ih => exact ih.of_ages (fun _ => reset_ages _)

end TouchedBefore

end Cache

theorem Run.touchedBefore {start client : Client} {history : List Occurrence}
    (fresh : start.Fresh) (run : Run start history client) (forward : Forward history) :
    client.cache.TouchedBefore client.clock.read.1 := by
  have begun : start.cache.TouchedBefore start.clock.read.1 := by
    rw [fresh.eq]
    intro _ _ _ found
    cases found
  exact begun.works (run.works forward)

/-! ## Replies -/

namespace Client

variable {client after : Client} {space : NamespaceKey} {key : DocumentKey}

/-- The record of a document was touched while a client became another: it is there, last touched at
a reading of the clock in between, and no sweep at a limit up to that moment removes it. -/
def Attends (client : Client) (space : NamespaceKey) (key : DocumentKey) (after : Client) : Prop :=
  ∃ record, after.cache.recordAt? space key = some record ∧
    client.clock.read.1 ≤ record.lastTouch ∧ record.lastTouch < after.clock.read.1 ∧
    ∀ limit ≤ record.lastTouch, (after.cache.cleanup limit).2.recordAt? space key = some record

theorem touchAt_usedSince (client : Client) (space : NamespaceKey) (key : DocumentKey) :
    (client.touchAt space key).UsedSince space key client.clock.read.1 := by
  refine ⟨client.clock.read_le, fun record found => ?_⟩
  exact Int.le_of_eq (Cache.lastTouch_touchRecord found).symm

theorem UsedSince.mono {moment earlier : Instant} (used : client.UsedSince space key moment)
    (order : earlier ≤ moment) : client.UsedSince space key earlier where
  clock := Int.le_trans order used.clock
  touch record found := Int.le_trans order (used.touch record found)

theorem applyReply_usedSince {reply : WatchResponse}
    (index : client.cache.bySubscription.get? reply.uid = some (space, key))
    (resolves : ReplyStatus.ofWatchCode reply.status = .ok →
      client.Resolves reply.checksum reply.nodes) :
    (client.applyReply reply).2.UsedSince space key client.clock.read.1 := by
  have touched := client.touchAt_usedSince space key
  simp only [applyReply, index]
  split
  · rcases client.applyRemoval_cases reply.uid space key with done | done <;> rw [done] <;>
      exact ⟨touched.clock, touched.touch⟩
  · next good =>
    obtain ⟨⟨content, cache⟩, resolved⟩ := resolve_of_resolves (resolves good) client.clock.read.1
    rw [applyContent_stages, resolved]
    have order := Int.le_trans client.clock.read_le client.clock.read.2.read_le
    have stored := ((client.holding
      (cache.insertVersion space ⟨reply.namespaceId, reply.version⟩ key content
        client.clock.read.2.read.1) client.clock.read.2.read.2).touchAt_usedSince space key).mono
          order
    exact stored.advance (changeRecord_advances _ _
      (fun record => (record.update_answered _ _).lastTouch))
  · exact touched.advance (changeRecord_advances _ _
      (fun record => (record.updateStatus_answered _).lastTouch))

/-- A record is there, used since some moment, and was touched in the past. -/
structure KeptSince (client : Client) (space : NamespaceKey) (key : DocumentKey) (moment : Instant) :
    Prop where
  indexed : client.cache.Indexed
  record : ∃ rest, client.cache.restAt? space key = some rest
  used : client.UsedSince space key moment
  past : client.cache.TouchedBefore client.clock.read.1

theorem KeptSince.perform {moment : Instant} (kept : client.KeptSince space key moment) {act : Section}
    (reaction : act.isReaction = true) : (client.perform act).2.KeptSince space key moment := by
  have free (clock : Clock) : act ≠ .setClock clock := by
    rintro rfl
    cases reaction
  constructor
  case indexed => exact perform_indexed kept.indexed act
  case record =>
    obtain ⟨rest, there⟩ := kept.record
    obtain ⟨later, found, _⟩ := record_of_reaction kept.indexed reaction there
    exact ⟨later, found⟩
  case used => exact kept.used.advance (client.perform_advances free)
  case past =>
    exact kept.past.works (client.perform_works (fun clock same => absurd same (free clock)))

/-- What a record is kept by is not undone by watchers that are told. -/
theorem KeptSince.dispatch {moment : Instant} (kept : client.KeptSince space key moment)
    (notifications : List Notification) :
    (client.dispatch notifications).KeptSince space key moment := by
  have telling : Telling (fun after _ => after.KeptSince space key moment) :=
    ⟨fun held => held.perform rfl, fun _ reaction _ held => held.perform reaction⟩
  exact @Telling.dispatch _ client [] telling notifications kept

theorem KeptSince.attends (kept : after.KeptSince space key client.clock.read.1) :
    client.Attends space key after := by
  obtain ⟨rest, there⟩ := kept.record
  obtain ⟨record, found, _⟩ := Cache.exists_recordAt? there
  refine ⟨record, found, kept.used.touch record found, kept.past space key record found, ?_⟩
  intro limit recent
  exact (after.cache.sweeps_cleanup limit).keeps space key record found (.inr recent)

theorem undecodable_of_not_resolves {checksum : Bytes} {nodes : List Node}
    (fails : ¬ client.Resolves checksum nodes) :
    ∃ cause, client.Undecodable checksum nodes cause := by
  obtain ⟨unknown, undecodable⟩ := not_or.mp fails
  cases decodes : client.decodePayload nodes with
  | ok decoded => exact absurd ⟨decoded, decodes⟩ undecodable
  | error cause =>
    rw [Table.contains, Bool.not_eq_true, Option.isSome_eq_false_iff,
      Option.isNone_iff_eq_none] at unknown
    exact ⟨cause, unknown, decodes⟩

/-- A payload that does not decode leaves the record untouched. -/
theorem Undecodable.recordAt?_applyReply {reply : WatchResponse} {cause : DecodeError}
    (undecodable : client.Undecodable reply.checksum reply.nodes cause)
    (good : ReplyStatus.ofWatchCode reply.status = .ok) {record : Record}
    (located : client.cache.located? reply.uid = some (space, key, record))
    (alive : record.state ≠ .deactivated) :
    (client.applyReply reply).2.cache.recordAt? space key =
      some { record with state := .active, status := some .error } := by
  obtain ⟨_, found⟩ := Cache.located?_eq_some_iff.mp located
  rw [undecodable.applyReply good located alive]
  simp only [Cache.recordAt?_modifyRecord, found, and_self, if_true, Option.map_some]

/-- If nobody watches the record, nobody is told. -/
theorem Undecodable.handleReply_of_unwatched {reply : WatchResponse} {cause : DecodeError}
    (undecodable : client.Undecodable reply.checksum reply.nodes cause)
    (good : ReplyStatus.ofWatchCode reply.status = .ok) {record : Record}
    (located : client.cache.located? reply.uid = some (space, key, record))
    (alive : record.state ≠ .deactivated) (alone : record.watchers.size = 0) :
    client.handleReply reply = (client.applyReply reply).2 := by
  have unwatched : record.watchers.values = [] := by
    rw [Table.values, List.map_eq_nil_iff]
    exact List.length_eq_zero_iff.mp alone
  have silent : (client.applyReply reply).1 = [] := by
    rw [undecodable.applyReply good located alive]
    split
    · rfl
    · rw [Record.notifyAll, unwatched, List.map_nil]
  have handled : client.handleReply reply =
      (client.applyReply reply).2.dispatch (client.applyReply reply).1 := rfl
  rw [handled, silent]
  rfl

end Client

/-- A reply keeps its subscription alive, unless its payload has to be decoded and does not decode.
In a run that does not set the clock back, handling a reply of any status for a known id touches the
record under the id, so that no sweep at a limit up to then removes it, whatever the watchers that
are told do in turn; but a good reply whose content can not be had leaves the record as long
untouched as before, and if nobody watches it, the next sweep at a later limit removes it. -/
theorem attends_iff_resolves {start client : Client} {history : List Occurrence}
    (fresh : start.Fresh) (run : Run start history client) (forward : Forward history)
    {reply : WatchResponse} {space : NamespaceKey} {key : DocumentKey}
    (index : client.cache.bySubscription.get? reply.uid = some (space, key)) :
    (client.Attends space key (client.applyReply reply).2 ↔
      (ReplyStatus.ofWatchCode reply.status = .ok →
        client.Resolves reply.checksum reply.nodes)) ∧
    (client.Attends space key (client.applyReply reply).2 →
      client.Attends space key (client.handleReply reply)) ∧
    (¬ client.Attends space key (client.applyReply reply).2 →
      ∃ record later, client.cache.recordAt? space key = some record ∧
        (client.applyReply reply).2.cache.recordAt? space key = some later ∧
        later.lastTouch = record.lastTouch ∧ record.lastTouch < client.clock.read.1 ∧
        (record.watchers.size = 0 → ∀ limit, record.lastTouch < limit →
          ((client.handleReply reply).cache.cleanup limit).2.recordAt? space key = none)) := by
  have indexed := run.indexed fresh
  have past := run.touchedBefore fresh forward
  obtain ⟨record, located, _, alive⟩ := indexed.located? index
  obtain ⟨_, found⟩ := Cache.located?_eq_some_iff.mp located
  have effect := Client.replies located alive
  by_cases resolves : ReplyStatus.ofWatchCode reply.status = .ok →
      client.Resolves reply.checksum reply.nodes
  · have kept : (client.applyReply reply).2.KeptSince space key client.clock.read.1 := by
      constructor
      case indexed => exact Client.perform_indexed indexed (.reply reply)
      case record => exact ⟨_, (effect.records space key).trans (if_pos ⟨rfl, rfl⟩)⟩
      case used => exact Client.applyReply_usedSince index resolves
      case past => exact past.works (client.applyReply_works reply)
    have told : (client.handleReply reply).KeptSince space key client.clock.read.1 :=
      kept.dispatch (client.applyReply reply).1
    exact ⟨iff_of_true kept.attends resolves, fun _ => told.attends,
      fun idle => absurd kept.attends idle⟩
  · obtain ⟨good, fails⟩ := Classical.not_imp.mp resolves
    obtain ⟨cause, undecodable⟩ := Client.undecodable_of_not_resolves fails
    have left := undecodable.recordAt?_applyReply good located alive
    have old : record.lastTouch < client.clock.read.1 := past space key record found
    have idle : ¬ client.Attends space key (client.applyReply reply).2 := by
      rintro ⟨other, there, since, _⟩
      rw [left] at there
      cases there
      exact Int.not_lt.mpr since old
    refine ⟨iff_of_false idle resolves, fun attends => absurd attends idle, fun _ => ?_⟩
    refine ⟨record, _, found, left, rfl, old, fun alone limit since => ?_⟩
    rw [undecodable.handleReply_of_unwatched good located alive alone]
    exact (((client.applyReply reply).2.cache.sweeps_cleanup limit).drops space key _ left
      ⟨alone, since⟩).1

/-- A document is watched by nobody, and a second passes. -/
private def watchingIdly : List Section :=
  [.watch { root := "/srv" } { document := "a" } none, .setClock { elapsed := 1000 }]

private theorem forward_watchingIdly : Forward (Client.byDefault.occurrences watchingIdly) := by
  intro occurrence member clock sets
  simp only [watchingIdly, Client.occurrences, List.mem_cons, List.not_mem_nil, or_false] at member
  rcases member with rfl | rfl <;> cases sets
  decide +kernel

/-- A version of the document. -/
private def sendingVersion (nodes : List Node) : WatchResponse :=
  { namespaceId := 1, version := 1, checksum := [1], nodes }

/-- A payload that decodes keeps the subscription alive: a sweep at the time of the reply leaves
it. -/
theorem attends_iff_resolves_decodable :
    let client := Client.byDefault.performAll watchingIdly
    let reply := sendingVersion [{ valueType := 4, int := 1 }]
    client.Attends { root := "/srv" } { document := "a" } (client.handleReply reply) ∧
      ((client.applyReply reply).2.cache.cleanup client.clock.read.1).2.recordAt?
        { root := "/srv" } { document := "a" } ≠ none := by
  intro client reply
  have run : Run Client.byDefault (Client.byDefault.occurrences watchingIdly) client :=
    Run.start.performAll watchingIdly
  have index : client.cache.bySubscription.get? reply.uid =
      some ({ root := "/srv" }, { document := "a" }) := rfl
  obtain ⟨exactly, told, _⟩ := attends_iff_resolves Client.byDefault_fresh run
    forward_watchingIdly index
  have attends := exactly.mpr (fun _ => .inr ⟨_, rfl⟩)
  refine ⟨told attends, ?_⟩
  obtain ⟨record, _, since, _, stays⟩ := attends
  rw [stays _ since]
  rintro ⟨⟩

/-- A payload that does not decode leaves the subscription idle: a sweep at the time of the reply
removes it. -/
theorem not_attends_undecodable :
    let client := Client.byDefault.performAll watchingIdly
    let reply := sendingVersion [{ valueType := 99 }]
    Run Client.byDefault (Client.byDefault.occurrences watchingIdly) client ∧
      Forward (Client.byDefault.occurrences watchingIdly) ∧
      client.cache.bySubscription.get? reply.uid = some ({ root := "/srv" }, { document := "a" }) ∧
      ¬ client.Attends { root := "/srv" } { document := "a" } (client.applyReply reply).2 ∧
      ((client.handleReply reply).cache.cleanup client.clock.read.1).2.recordAt?
        { root := "/srv" } { document := "a" } = none := by
  intro client reply
  obtain ⟨record, left, touch⟩ : ∃ record, (client.applyReply reply).2.cache.recordAt?
      { root := "/srv" } { document := "a" } = some record ∧ record.lastTouch = 2 :=
    ⟨_, rfl, rfl⟩
  have removed : (((client.handleReply reply).cache.cleanup client.clock.read.1).2.recordAt?
      { root := "/srv" } { document := "a" }).isNone = true := by decide +kernel
  refine ⟨Run.start.performAll watchingIdly, forward_watchingIdly, rfl, ?_,
    Option.isNone_iff_eq_none.mp removed⟩
  rintro ⟨other, there, since, _⟩
  rw [left] at there
  cases there
  rw [touch] at since
  exact absurd since (by decide +kernel)

end ConfigWatch

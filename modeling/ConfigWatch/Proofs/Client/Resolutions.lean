import ConfigWatch.Proofs.Cache.Resolutions
import ConfigWatch.Proofs.Client.Pinning
import ConfigWatch.Proofs.Client.Sharing

/-!
# Once decoded

Good replies and the good answers to reads offer payloads to the cache of a client. A checksum is
decoded once between two losses of its entry, whichever of them offer it and for which documents.
-/

set_option autoImplicit false

namespace ConfigWatch

/-- The section with another payload under the same checksum. -/
def Section.offering (nodes : List Node) : Section → Section
  | .reply response => .reply { response with nodes }
  | .finishRead pending (.ok answer) => .finishRead pending (.ok { answer with nodes })
  | act => act

/-- A payload that is offered to the cache of the client now. -/
def Client.offered (client : Client) (checksum : Bytes) (nodes : List Node) : Resolution where
  cache := client.cache
  checksum
  decode := fun _ => client.decodePayload nodes
  moment := client.clock.read.1

namespace Occurrence

/-- The payload that a section offers to the cache: one of a good reply for a subscription that is
known, or of the good answer to a read that may have the version. -/
def resolution? (occurrence : Occurrence) : Option Resolution :=
  match occurrence.act with
  | .reply reply =>
    if ReplyStatus.ofWatchCode reply.status = .ok ∧
        occurrence.before.cache.bySubscription.contains reply.uid = true then
      some (occurrence.before.offered reply.checksum reply.nodes)
    else none
  | .finishRead pending (.ok answer) =>
    if ReplyStatus.ofReadCode answer.status = .ok ∧
        ∀ pinned ∈ pending.pinned, pinned = ⟨answer.namespaceId, answer.version⟩ then
      some (occurrence.before.offered answer.checksum answer.nodes)
    else none
  | _ => none

/-- The section starts the cache afresh, or sweeps the content of a checksum away. -/
inductive Loses (occurrence : Occurrence) (checksum : Bytes) : Prop where
  | resets : occurrence.after.cache.generation ≠ occurrence.generation →
      Loses occurrence checksum
  | sweeps {moment : Instant} : occurrence.act = .sweep moment →
      occurrence.before.cache.byChecksum.contains checksum = true →
      occurrence.after.cache.byChecksum.contains checksum = false → Loses occurrence checksum

end Occurrence

namespace Client

variable {client : Client} {resolution : Resolution} {checksum : Bytes}

theorem resolved?_eq_outcome (client : Client) (checksum : Bytes) (nodes : List Node) :
    client.resolved? checksum nodes = (client.offered checksum nodes).outcome.toOption :=
  client.resolved?_eq checksum nodes client.clock.read.1

/-! ## Replies -/

private theorem asked_reply {reply : WatchResponse}
    (asked : Occurrence.resolution? ⟨client, .reply reply⟩ = some resolution) :
    ∃ place, ReplyStatus.ofWatchCode reply.status = .ok ∧
      client.cache.bySubscription.get? reply.uid = some place ∧
      resolution = client.offered reply.checksum reply.nodes := by
  simp only [Occurrence.resolution?] at asked
  split at asked
  · next good =>
    cases asked
    obtain ⟨place, index⟩ := Option.isSome_iff_exists.mp good.2
    exact ⟨place, good.1, index, rfl⟩
  · cases asked

private theorem stored_of_reply {reply : WatchResponse}
    (asked : Occurrence.resolution? ⟨client, .reply reply⟩ = some resolution) :
    (Occurrence.stored ⟨client, .reply reply⟩).map Stored.content =
      resolution.outcome.toOption := by
  obtain ⟨place, good, index, rfl⟩ := asked_reply asked
  simp only [Occurrence.stored, good, index, if_true, Option.bind_some, Option.map_map]
  rw [← resolved?_eq_outcome]
  exact Option.map_id_fun ▸ rfl

private theorem reply_of_unread {reply : WatchResponse}
    (asked : Occurrence.resolution? ⟨client, .reply reply⟩ = some resolution)
    (unread : resolution.Unread) (nodes : List Node) :
    client.applyReply { reply with nodes } = client.applyReply reply := by
  obtain ⟨⟨space, key⟩, good, index, rfl⟩ := asked_reply asked
  have same : client.cache.resolve reply.checksum (fun _ => client.decodePayload nodes)
        client.clock.read.1 =
      client.cache.resolve reply.checksum (fun _ => client.decodePayload reply.nodes)
        client.clock.read.1 := unread (fun _ => client.decodePayload nodes)
  simp only [applyReply, index, good, applyContent_stages, same]

/-! ## Answers to reads -/

private theorem asked_read {pending : PendingRead} {answer : ReadResponse}
    (asked : Occurrence.resolution? ⟨client, .finishRead pending (.ok answer)⟩ = some resolution) :
    ReplyStatus.ofReadCode answer.status = .ok ∧
      pending.pinned.filter (fun pinned => breaksPin pinned ⟨answer.namespaceId, answer.version⟩
        (ReplyStatus.ofReadCode answer.status)) = none ∧
      resolution = client.offered answer.checksum answer.nodes := by
  simp only [Occurrence.resolution?] at asked
  split at asked
  · next good =>
    cases asked
    refine ⟨good.1, Option.filter_eq_none_iff.mpr (fun pinned member => ?_), rfl⟩
    rw [good.1, good.2 pinned member]
    simp [breaksPin]
  · cases asked

private theorem stored_of_read {pending : PendingRead} {answer : ReadResponse}
    (asked : Occurrence.resolution? ⟨client, .finishRead pending (.ok answer)⟩ = some resolution) :
    (Occurrence.stored ⟨client, .finishRead pending (.ok answer)⟩).map Stored.content =
      resolution.outcome.toOption := by
  obtain ⟨good, pin, rfl⟩ := asked_read asked
  have isOk : ReplyStatus.ok.isOk = true := rfl
  rw [good] at pin
  simp only [Occurrence.stored, finishRead, good, pin, isOk, if_true, storeRead_stages,
    Resolution.outcome, Resolution.result, offered]
  cases client.cache.resolve answer.checksum (fun _ => client.decodePayload answer.nodes)
    client.clock.read.1 <;> rfl

private theorem read_of_unread {pending : PendingRead} {answer : ReadResponse}
    (asked : Occurrence.resolution? ⟨client, .finishRead pending (.ok answer)⟩ = some resolution)
    (unread : resolution.Unread) (nodes : List Node) :
    client.finishRead pending (.ok { answer with nodes }) =
      client.finishRead pending (.ok answer) := by
  obtain ⟨good, pin, rfl⟩ := asked_read asked
  have same : client.cache.resolve answer.checksum (fun _ => client.decodePayload nodes)
        client.clock.read.1 =
      client.cache.resolve answer.checksum (fun _ => client.decodePayload answer.nodes)
        client.clock.read.1 := unread (fun _ => client.decodePayload nodes)
  simp only [finishRead, storeRead_stages, same]

end Client

/-! ## Sections -/

namespace Occurrence

variable {occurrence : Occurrence} {resolution : Resolution} {checksum : Bytes}

/-- What a section stores is what its payload resolves to. -/
theorem stored_of_resolution (asked : occurrence.resolution? = some resolution) :
    occurrence.stored.map Stored.content = resolution.outcome.toOption := by
  obtain ⟨client, act⟩ := occurrence
  cases act with
  | reply reply => exact Client.stored_of_reply asked
  | finishRead pending response =>
    cases response with
    | error cause => cases asked
    | ok answer => exact Client.stored_of_read asked
  | _ => cases asked

/-- A section goes the same with any other payload that is not looked at. -/
theorem perform_of_unread (asked : occurrence.resolution? = some resolution)
    (unread : resolution.Unread) (nodes : List Node) :
    occurrence.before.perform (occurrence.act.offering nodes) =
      occurrence.before.perform occurrence.act := by
  obtain ⟨client, act⟩ := occurrence
  cases act with
  | reply reply => exact Client.reply_of_unread asked unread nodes
  | finishRead pending response =>
    cases response with
    | error cause => cases asked
    | ok answer =>
      exact congrArg (fun read => ([], read.2)) (Client.read_of_unread asked unread nodes)
  | _ => cases asked

/-- A section that offers no payload stores none. -/
theorem stored_of_aside (asked : occurrence.resolution? = none) : occurrence.stored = none := by
  obtain ⟨client, act⟩ := occurrence
  cases stored : Occurrence.stored ⟨client, act⟩ with
  | none => rfl
  | some gain =>
    cases act with
    | reply reply =>
      obtain ⟨good, index, _⟩ := Client.stored_reply stored
      simp [resolution?, good, Table.contains, index] at asked
    | finishRead pending response =>
      obtain ⟨answer, reply, rfl, accepts, held, _⟩ := Client.stored_read stored
      obtain ⟨good, _⟩ := accepts.content _ held
      have status : ReplyStatus.ofReadCode answer.status = .ok := by
        rw [← accepts.status]
        exact ReplyStatus.isOk_eq_true_iff.mp good
      have pinned : ∀ pinned ∈ pending.pinned, pinned = ⟨answer.namespaceId, answer.version⟩ :=
        fun pinned member => (accepts.pinned pinned member good).symm.trans accepts.version
      simp only [resolution?, if_pos (And.intro status pinned), reduceCtorEq] at asked
    | _ => cases stored

/-- A section that offers a payload leaves the index of the resolution. -/
theorem index_of_resolution (labelled : occurrence.before.cache.Labelled)
    (asked : occurrence.resolution? = some resolution) :
    resolution.cache = occurrence.before.cache ∧
      occurrence.after.cache.byChecksum = resolution.after.byChecksum := by
  obtain ⟨client, act⟩ := occurrence
  have stored := stored_of_resolution asked
  cases act with
  | reply reply =>
    obtain ⟨_, _, _, rfl⟩ := Client.asked_reply asked
    have files := Client.reply_files labelled reply
    rw [stored] at files
    exact ⟨rfl, Resolution.index_of_files labelled.checksums files⟩
  | finishRead pending response =>
    cases response with
    | error cause => cases asked
    | ok answer =>
      obtain ⟨_, _, rfl⟩ := Client.asked_read asked
      have files := Client.finishRead_files labelled pending (.ok answer)
      rw [stored] at files
      exact ⟨rfl, Resolution.index_of_files labelled.checksums files⟩
  | _ => cases asked

/-- Any other section leaves the entry of a checksum, unless it loses it. -/
theorem index_of_aside (labelled : occurrence.before.cache.Labelled)
    (asked : occurrence.resolution? = none) (kept : ¬ occurrence.Loses checksum) :
    occurrence.after.cache.byChecksum.get? checksum =
      occurrence.before.cache.byChecksum.get? checksum := by
  obtain ⟨client, act⟩ := occurrence
  have stored := stored_of_aside asked
  cases Client.perform_catalogues labelled act with
  | files files =>
    rw [stored] at files
    cases files with
    | keeps same => exact congrArg (fun catalogue => catalogue.index.get? checksum) same
  | @sweeps moment limit same =>
    have swept : (Occurrence.after ⟨client, .sweep moment⟩).cache =
        (client.cache.cleanup limit).2 := same
    rw [swept]
    refine Cache.get?_cleanup_of_kept (fun lost => kept (.sweeps rfl lost.1 ?_))
    rw [swept]
    exact lost.2
  | resets _ same =>
    have afresh : (Occurrence.after ⟨client, act⟩).cache = client.cache.reset.2 := same
    refine absurd (.resets ?_) kept
    rw [afresh]
    exact Nat.succ_ne_self _

end Occurrence

theorem Run.stretch {start client : Client} {history : List Occurrence} {checksum : Bytes}
    (fresh : start.Fresh) (run : Run start history client) (acts : List Section)
    (kept : ∀ occurrence ∈ client.occurrences acts, ¬ occurrence.Loses checksum) :
    Stretch checksum client.cache (Resolution.under checksum
      ((client.occurrences acts).filterMap Occurrence.resolution?)) := by
  induction acts generalizing client history with
  | nil => exact .ends _
  | cons act rest ih =>
    have labelled := run.labelled fresh
    have later := ih (run.step act)
      (fun occurrence member => kept occurrence (List.mem_cons_of_mem _ member))
    have whole := kept _ List.mem_cons_self
    rw [Client.occurrences, Resolution.under, List.filterMap_cons]
    cases asked : Occurrence.resolution? ⟨client, act⟩ with
    | none => exact .aside (Occurrence.index_of_aside labelled asked whole) later
    | some resolution =>
      obtain ⟨here, index⟩ := Occurrence.index_of_resolution labelled asked
      exact Stretch.offers here index later

/-- A checksum is decoded once. Take any stretch that starts where the index does not have it and
in which the cache neither starts afresh nor sweeps its content away. The payloads that are offered
under the checksum in that stretch, for whichever documents, are decoded up to the first good one;
every later one is not looked at, so that any other payload in its place makes no difference, and
gives the very content that the first good one became. That is so for operations on a cache by
itself, and for the replies and reads of a client. -/
theorem checksum_decoded_once (checksum : Bytes) :
    (∀ (scenario : CacheScenario) (operations : List CacheOperation),
      scenario.cache.byChecksum.get? checksum = none →
      (∀ step ∈ scenario.steps operations, ¬ step.Loses checksum) →
      DecodedOnce (Resolution.under checksum
        ((scenario.steps operations).filterMap CacheStep.resolution?)) ∧
      ∀ step ∈ scenario.steps operations, ∀ resolution, step.resolution? = some resolution →
        resolution.Unread → ∀ nodes positions,
          CacheStep.result ⟨step.before, step.operation.offering nodes positions⟩ = step.result) ∧
    (∀ (start client : Client) (history : List Occurrence) (acts : List Section), start.Fresh →
      Run start history client → client.cache.byChecksum.get? checksum = none →
      (∀ occurrence ∈ client.occurrences acts, ¬ occurrence.Loses checksum) →
      DecodedOnce (Resolution.under checksum
        ((client.occurrences acts).filterMap Occurrence.resolution?)) ∧
      ∀ occurrence ∈ client.occurrences acts, ∀ resolution,
        occurrence.resolution? = some resolution →
        occurrence.stored.map Stored.content = resolution.outcome.toOption ∧
        (resolution.Unread → ∀ nodes,
          occurrence.before.perform (occurrence.act.offering nodes) =
            occurrence.before.perform occurrence.act)) := by
  constructor
  · intro scenario operations lost kept
    exact ⟨(scenario.stretch operations kept).decodedOnce lost,
      fun _ _ _ asked unread => CacheStep.result_of_unread asked unread⟩
  · intro start client history acts fresh run lost kept
    exact ⟨(run.stretch fresh acts kept).decodedOnce lost, fun _ _ _ asked =>
      ⟨Occurrence.stored_of_resolution asked, Occurrence.perform_of_unread asked⟩⟩

/-- Two documents are watched. -/
private def watchingBoth : List Section :=
  [.watch { root := "/srv" } { document := "a" } (some ("A", .idle)),
    .watch { root := "/srv" } { document := "b" } none]

/-- A payload under the one checksum, for a subscription. -/
private def offers (id : UInt32) (node : Node) : Section :=
  .reply { uid := id, namespaceId := 1, version := 1, checksum := [1], nodes := [node] }

/-- A payload that does not decode, a number, another payload that does not decode, and another
number in the answer to a read. -/
private def offeringFour : List Section :=
  [offers 0 { valueType := 99 }, offers 0 { valueType := 4, int := 1 },
    offers 1 { valueType := 99 },
    .finishRead ⟨{ root := "/etc" }, { document := "c" }, none⟩
      (.ok { namespaceId := 2, version := 1, checksum := [1],
             nodes := [{ valueType := 4, int := 2 }] })]

/-- The resolutions of the one checksum by the four. -/
private def resolvingFour : List Resolution :=
  Resolution.under [1] (((Client.byDefault.performAll watchingBoth).occurrences
    offeringFour).filterMap Occurrence.resolution?)

private theorem not_loses_offeringFour :
    ∀ occurrence ∈ (Client.byDefault.performAll watchingBoth).occurrences offeringFour,
      ¬ occurrence.Loses [1] := by
  have generations : ∀ occurrence ∈
      (Client.byDefault.performAll watchingBoth).occurrences offeringFour,
      occurrence.after.cache.generation = occurrence.generation := by
    decide +kernel
  intro occurrence member loses
  cases loses with
  | resets changed => exact changed (generations occurrence member)
  | sweeps same _ _ =>
    simp only [offeringFour, Client.occurrences, List.mem_cons, List.not_mem_nil, or_false]
      at member
    rcases member with rfl | rfl | rfl | rfl <;> cases same

/-- The same on a cache by itself, with a sweep in between that drops nothing. -/
private def resolvingThree : List CacheOperation :=
  [.resolve ⟨[1], [{ valueType := 99 }], false⟩,
    .resolve ⟨[1], [{ valueType := 4, int := 1 }], false⟩, .cleanup 0,
    .insertVersion { root := "/srv" } ⟨1, 1⟩ { document := "a" } ⟨[1], [{ valueType := 99 }], false⟩]

private theorem not_loses_resolvingThree :
    ∀ step ∈ (CacheScenario.start 10).steps resolvingThree, ¬ step.Loses [1] := by
  have indexed : ∀ step ∈ (CacheScenario.start 10).steps resolvingThree,
      step.before.cache.byChecksum.contains [1] = true →
        step.after.cache.byChecksum.contains [1] = true := by
    decide +kernel
  intro step member loses
  cases loses with
  | sweeps _ found lost =>
    rw [indexed step member found] at lost
    cases lost
  | resets same =>
    simp only [resolvingThree, CacheScenario.steps, List.mem_cons, List.not_mem_nil, or_false]
      at member
    rcases member with rfl | rfl | rfl | rfl <;> cases same

/-- The first payload fails, the second is decoded, and the others give what it became. -/
theorem checksum_decoded_once_malformed :
    DecodedOnce resolvingFour ∧
      resolvingFour.map (fun resolution => resolution.outcome.toOption.map Content.id) =
        [none, some 0, some 0, some 0] ∧
      DecodedOnce (Resolution.under [1]
        (((CacheScenario.start 10).steps resolvingThree).filterMap CacheStep.resolution?)) := by
  have once := (checksum_decoded_once [1]).2 Client.byDefault _ _ offeringFour
    Client.byDefault_fresh (Run.start.performAll watchingBoth) rfl not_loses_offeringFour
  have alone := (checksum_decoded_once [1]).1 (CacheScenario.start 10) resolvingThree rfl
    not_loses_resolvingThree
  exact ⟨once.1, by decide +kernel, alone.1⟩

end ConfigWatch

import ConfigWatch.Proofs.Client.Notifications
import ConfigWatch.Proofs.Client.Storing

/-!
# Replays

A good reply that repeats or precedes the version that a subscription holds is a replay. It is
ignored when its payload resolves to a content. One that does not resolve is taken for a failure
of the subscription, although its content would have been no news.
-/

set_option autoImplicit false

namespace ConfigWatch

namespace Client

/-- Whether a client has a content for a payload: its index knows the checksum, or the payload
decodes. -/
def Resolves (client : Client) (checksum : Bytes) (nodes : List Node) : Prop :=
  client.cache.byChecksum.contains checksum = true ∨
    ∃ decoded, client.decodePayload nodes = .ok decoded

theorem resolve_of_resolves {client : Client} {checksum : Bytes} {nodes : List Node}
    (resolves : client.Resolves checksum nodes) (now : Instant) :
    ∃ found, client.cache.resolve checksum (fun _ => client.decodePayload nodes) now =
      .ok found := by
  unfold Cache.resolve
  cases known : client.cache.byChecksum.get? checksum with
  | some content => exact ⟨_, rfl⟩
  | none =>
    rcases resolves with contained | ⟨decoded, decodes⟩
    · rw [Table.contains, known] at contained
      cases contained
    · dsimp only
      rw [decodes]
      exact ⟨_, rfl⟩

theorem resolve_of_not_resolves {client : Client} {checksum : Bytes} {nodes : List Node}
    (fails : ¬ client.Resolves checksum nodes) (now : Instant) :
    ∃ cause, client.cache.resolve checksum (fun _ => client.decodePayload nodes) now =
      .error cause := by
  obtain ⟨unknown, undecodable⟩ := not_or.mp fails
  cases decodes : client.decodePayload nodes with
  | ok decoded => exact absurd ⟨decoded, decodes⟩ undecodable
  | error cause =>
    rw [Table.contains, Bool.not_eq_true, Option.isSome_eq_false_iff,
      Option.isNone_iff_eq_none] at unknown
    unfold Cache.resolve
    rw [unknown]
    exact ⟨cause, rfl⟩

/-- A reply leaves a document alone: its record keeps what it holds and shows, and no watcher takes
note of anything. -/
structure Ignores (client : Client) (reply : WatchResponse) (space : NamespaceKey)
    (key : DocumentKey) : Prop where
  record : (client.handleReply reply).cache.restAt? space key = client.cache.restAt? space key
  journal : (client.handleReply reply).journal = client.journal

/-- A good reply for a subscription that holds a version which the one of the reply does not
supersede. -/
structure IsReplay (client : Client) (reply : WatchResponse) (space : NamespaceKey)
    (key : DocumentKey) (record : Record) (version : Version) (content : Content) : Prop where
  located : client.cache.located? reply.uid = some (space, key, record)
  latest : record.latest = some (version, content)
  good : ReplyStatus.ofWatchCode reply.status = .ok
  stale : (⟨reply.namespaceId, reply.version⟩ : Version).supersedes version = false

variable {client : Client} {reply : WatchResponse} {space : NamespaceKey} {key : DocumentKey}
  {record : Record} {version : Version} {content : Content}

namespace IsReplay

theorem verdict_of_resolves (replay : client.IsReplay reply space key record version content)
    (resolves : client.Resolves reply.checksum reply.nodes) :
    client.verdict reply record.atRest = ([], record.atRest) := by
  obtain ⟨found, resolved⟩ := resolve_of_resolves resolves 0
  have old : record.atRest.isNews ⟨reply.namespaceId, reply.version⟩ = false := by
    have held : record.atRest.latest = some (version, content) := replay.latest
    rw [Record.isNews, held]
    exact replay.stale
  unfold verdict
  simp only [replay.good, resolved]
  exact Record.update_of_stale old

theorem verdict_of_fails (replay : client.IsReplay reply space key record version content)
    (active : record.state = .active) (fails : ¬ client.Resolves reply.checksum reply.nodes) :
    client.verdict reply record.atRest =
      (if record.status = some .error then [] else record.notifyAll .error,
        { record.atRest with status := some .error }) := by
  obtain ⟨cause, resolved⟩ := resolve_of_not_resolves fails 0
  unfold verdict
  simp only [replay.good, resolved]
  have still : record.atRest.state = .active := active
  exact Record.updateStatus_of_active still .error

end IsReplay

private theorem handleReply_of_silent (indexed : client.cache.Indexed)
    (silent : (client.applyReply reply).1 = []) :
    client.handleReply reply = (client.applyReply reply).2 ∧
      (client.handleReply reply).journal = client.journal := by
  have dispatched : client.handleReply reply =
      (client.applyReply reply).2.dispatch (client.applyReply reply).1 := rfl
  have handled : client.handleReply reply = (client.applyReply reply).2 := by
    rw [dispatched, silent]
    rfl
  have journal : (client.perform (.reply reply)).2.journal = client.journal :=
    perform_journal indexed (by simp)
  refine ⟨handled, ?_⟩
  rw [handled]
  exact journal

/-- A reply that tells somebody leaves a mark in the journal. -/
private theorem silent_of_journal (indexed : client.cache.Indexed)
    (seated : client.cache.Seated client.registrations)
    (made : (client.applyReply reply).2.registrations = client.registrations)
    (same : (client.handleReply reply).journal = client.journal) :
    (client.applyReply reply).1 = [] := by
  rw [List.eq_nil_iff_forall_not_mem]
  intro notification told
  have due : notification.event ∈
      Occurrence.due ⟨client, .reply reply⟩ notification.watcher.registration := by
    rw [← told_by_reply indexed seated]
    exact mem_eventsFor told
  have old := Occurrence.lt_of_due ⟨client, .reply reply⟩ indexed seated (List.ne_nil_of_mem due)
  have counted : (Occurrence.after ⟨client, .reply reply⟩).registrations =
      client.registrations := made
  rw [counted] at old
  have heard := heard_handleReply indexed seated reply old
  rw [ConfigWatch.heard, same, ConfigWatch.heard] at heard
  rw [List.self_eq_append_right.mp heard] at due
  cases due

end Client

/-- A replay is ignored if and only if its payload resolves, or the subscription shows an error
already. Otherwise the record becomes one that shows an error, with what it held, and all its
watchers are told. -/
theorem ignores_replay_iff {start client : Client} {history : List Occurrence}
    (fresh : start.Fresh) (run : Run start history client) {reply : WatchResponse}
    {space : NamespaceKey} {key : DocumentKey} {record : Record} {version : Version}
    {content : Content} (replay : client.IsReplay reply space key record version content) :
    (client.Ignores reply space key ↔
      client.Resolves reply.checksum reply.nodes ∨ record.status = some .error) ∧
    (¬ client.Ignores reply space key →
      (client.applyReply reply).1 = record.notifyAll .error ∧
      (client.applyReply reply).2.cache.restAt? space key =
        some { record.atRest with status := some .error }) := by
  have indexed := run.indexed fresh
  have seated := run.seated fresh
  obtain ⟨_, found⟩ := Cache.located?_eq_some_iff.mp replay.located
  have rest := Cache.restAt?_eq_some found
  have alive := indexed.alive space key _ rest
  have effect := Client.replies replay.located alive.active
  have active : record.state = .active := alive.active_of_latest replay.latest
  have after := effect.records space key
  rw [if_pos ⟨rfl, rfl⟩] at after
  by_cases resolves : client.Resolves reply.checksum reply.nodes
  · have verdict := replay.verdict_of_resolves resolves
    obtain ⟨handled, journal⟩ := Client.handleReply_of_silent indexed
      (effect.told.trans (congrArg Prod.fst verdict))
    have ignores : client.Ignores reply space key := by
      refine ⟨?_, journal⟩
      rw [handled, after, verdict, rest]
    exact ⟨iff_of_true ignores (.inl resolves), fun heeds => absurd ignores heeds⟩
  have verdict := replay.verdict_of_fails active resolves
  rw [verdict] at after
  have told := effect.told
  rw [verdict] at told
  by_cases shown : record.status = some .error
  · rw [if_pos shown] at told
    obtain ⟨handled, journal⟩ := Client.handleReply_of_silent indexed told
    have same : ({ record.atRest with status := some .error } : Record) = record.atRest := by
      rw [← shown]
      rfl
    have ignores : client.Ignores reply space key := by
      refine ⟨?_, journal⟩
      rw [handled, after, same, rest]
    exact ⟨iff_of_true ignores (.inr shown), fun heeds => absurd ignores heeds⟩
  · rw [if_neg shown] at told
    have heeds : ¬ client.Ignores reply space key := by
      intro ignores
      have silent := Client.silent_of_journal indexed seated effect.registrations ignores.journal
      have kept := ignores.record
      rw [(Client.handleReply_of_silent indexed silent).1, after, rest, Option.some.injEq] at kept
      exact shown (congrArg Record.status kept).symm
    exact ⟨iff_of_false heeds (not_or.mpr ⟨resolves, shown⟩), fun _ => ⟨told, after⟩⟩

/-- A document is watched, and the server sends a number for it. -/
private def holdingTwo : List Section :=
  [.watch { root := "/srv" } { document := "a" } (some ("A", .idle)),
    .reply
      { namespaceId := 1, version := 2, checksum := [1], nodes := [{ valueType := 4, int := 1 }] }]

/-- An earlier version of the document, with a checksum of its own. -/
private def earlierVersion (nodes : List Node) : WatchResponse :=
  { namespaceId := 1, version := 1, checksum := [2], nodes }

private theorem isReplay_earlierVersion (nodes : List Node) :
    ∃ record version content, (Client.byDefault.performAll holdingTwo).IsReplay
      (earlierVersion nodes) { root := "/srv" } { document := "a" } record version content :=
  ⟨_, _, _, rfl, rfl, rfl, rfl⟩

theorem ignores_replay_iff_decodable :
    (Client.byDefault.performAll holdingTwo).Ignores
      (earlierVersion [{ valueType := 4, int := 2 }]) { root := "/srv" } { document := "a" } := by
  obtain ⟨record, version, content, replay⟩ :=
    isReplay_earlierVersion [{ valueType := 4, int := 2 }]
  have ignored := ignores_replay_iff Client.byDefault_fresh
    (Run.start.performAll holdingTwo) replay
  exact ignored.1.mpr (.inl (.inr ⟨_, rfl⟩))

/-- A replay with a payload that does not decode turns the record to an error, and its watcher takes
note of that. -/
theorem not_ignores_undecodable :
    ∃ history client record version content reply,
      Run Client.byDefault history client ∧
      client.IsReplay reply { root := "/srv" } { document := "a" } record version content ∧
      record.status = some .ok ∧
      ¬ client.Ignores reply { root := "/srv" } { document := "a" } := by
  obtain ⟨record, version, content, replay⟩ := isReplay_earlierVersion [{ valueType := 99 }]
  have run : Run Client.byDefault _ (Client.byDefault.performAll holdingTwo) :=
    Run.start.performAll holdingTwo
  refine ⟨_, _, record, version, content, _, run, replay, ?_, fun ignored => ?_⟩
  · cases replay.located
    rfl
  · have written := congrArg List.length ignored.journal
    exact absurd written (by decide +kernel)

end ConfigWatch

import ConfigWatch.Proofs.Client.Answers
import ConfigWatch.Proofs.Client.Dues
import ConfigWatch.Proofs.Client.Grants
import ConfigWatch.Proofs.Client.Serving
import ConfigWatch.Proofs.Client.Snapshots

/-!
# Transparency

A client shows what its server serves: whatever was stored, swept, read or told in between, a
version comes with the content that the server assigns to the document at that version.
-/

set_option autoImplicit false

namespace ConfigWatch

variable {start client : Client} {history : List Occurrence} {server : Server}

/-! ## What watchers are told -/

/-- The content of an event is what the server serves, at the version that the event tells, of the
document that a registration was made for. -/
def Server.Shows (server : Server) (history : List Occurrence) (registration : Nat)
    (event : Event) : Prop :=
  ∀ content, event.content = some content → ∃ version, event.version = some version ∧
    ∃ watch ∈ history, watch.before.registrations = registration ∧
      ∃ space key watcher, watch.act = .watch space key (some watcher) ∧
        server.Vouches space key version content

theorem Server.Shows.append {later : List Occurrence} {registration : Nat} {event : Event}
    (shows : server.Shows history registration event) :
    server.Shows (history ++ later) registration event := by
  intro content carries
  obtain ⟨version, told, watch, member, rest⟩ := shows content carries
  exact ⟨version, told, watch, List.mem_append_left _ member, rest⟩

theorem Record.event_content {record : Record} {status : ReplyStatus} {content : Content}
    (carries : (record.event status).content = some content) :
    ∃ version, (record.event status).version = some version ∧
      record.latest = some (version, content) := by
  obtain ⟨⟨version, held⟩, latest, rfl⟩ := Option.map_eq_some_iff.mp carries
  exact ⟨version, by rw [Record.event, latest]; rfl, latest⟩

theorem Server.Fills.shows (fills : server.Fills client.cache) {watch : Occurrence}
    (member : watch ∈ history) {space : NamespaceKey} {key : DocumentKey}
    {watcher : String × Reaction} (act : watch.act = .watch space key (some watcher))
    {rest : Record} (found : client.cache.restAt? space key = some rest) (status : ReplyStatus) :
    server.Shows history watch.before.registrations (rest.event status) := by
  intro content carries
  obtain ⟨version, told, latest⟩ := Record.event_content carries
  exact ⟨version, told, watch, member, rfl, space, key, watcher, act,
    fills.latest space key rest version content found latest⟩

theorem Run.shows_of_home (fresh : start.Fresh) (run : Run start history client)
    (honest : server.Honest history) {registration : Nat} {rest : Record}
    (home : client.cache.home? registration = some rest) (status : ReplyStatus) :
    server.Shows history registration (rest.event status) := by
  obtain ⟨space, key, id, watcher, found, sits, rfl⟩ :=
    (run.seated fresh).home?_eq_some_iff.mp home
  obtain ⟨watch, given, seats⟩ := run.traced fresh space key rest id watcher found sits
  rw [← seats.registration]
  exact (run.fills fresh honest).shows (List.mem_filter.mp given).1 seats.act found status

theorem Run.shows_due (fresh : start.Fresh) (run : Run start history client) {act : Section}
    (honest : server.Honest (history ++ [⟨client, act⟩])) {registration : Nat} {event : Event}
    (due : event ∈ Occurrence.due ⟨client, act⟩ registration) :
    server.Shows (history ++ [⟨client, act⟩]) registration event := by
  cases act with
  | watch space key watcher =>
    cases watcher with
    | none => cases due
    | some watcher =>
      simp only [Occurrence.due] at due
      split at due
      · next own =>
        obtain ⟨rest, found, shown⟩ := Option.bind_eq_some_iff.mp (Option.mem_toList.mp due)
        obtain ⟨status, _, rfl⟩ := Option.map_eq_some_iff.mp shown
        have fills := run.fills fresh honest.left
        rw [← own]
        exact fills.shows (List.mem_append_right _ (List.mem_singleton_self _)) rfl found status
      · cases due
  | reply reply =>
    simp only [Occurrence.due] at due
    split at due
    · next earlier later _ home =>
      split at due
      · cases due
      · obtain ⟨status, _, rfl⟩ := Option.map_eq_some_iff.mp (Option.mem_toList.mp due)
        exact (run.step _).shows_of_home fresh honest home status
    · cases due
  | _ => cases due

theorem Run.shows_ending (fresh : start.Fresh) (run : Run start history client) {act : Section}
    (honest : server.Honest history) {registration : Nat} {event : Event}
    (ending : event ∈ Occurrence.ending ⟨client, act⟩ registration) :
    server.Shows history registration event := by
  cases act with
  | failStream | finishClose =>
    simp only [Occurrence.ending] at ending
    split at ending
    · next record home _ =>
      obtain rfl := List.mem_singleton.mp ending
      exact run.shows_of_home fresh honest home .removed
    · cases ending
  | _ => cases ending

/-- Whatever is told is news that was due, or the end of a registration. -/
theorem Run.shows_told (fresh : start.Fresh) (run : Run start history client) {act : Section}
    (honest : server.Honest (history ++ [⟨client, act⟩])) {notification : Notification}
    (told : notification ∈ Occurrence.told ⟨client, act⟩) :
    server.Shows (history ++ [⟨client, act⟩]) notification.watcher.registration
      notification.event := by
  have heard : notification.event ∈
      eventsFor notification.watcher.registration (Occurrence.told ⟨client, act⟩) :=
    List.mem_map.mpr ⟨notification, List.mem_filter.mpr ⟨told, by simp⟩, rfl⟩
  rw [Occurrence.eventsFor_told _ (run.indexed fresh) (run.seated fresh)] at heard
  rcases List.mem_append.mp heard with due | ending
  · exact run.shows_due fresh honest due
  · exact (run.shows_ending fresh honest.left ending).append

/-! ## What reads come to -/

/-- The answer to a read tells what the server serves, at the version asked for if there was one. -/
structure Server.Bears (server : Server) (asked : PendingRead) (reply : ReadReply) : Prop where
  complete : reply.IsComplete
  pinned : ∀ version, asked.pinned = some version → reply.status.isOk = true →
    reply.version = version
  vouches : ∀ content, reply.content = some content →
    server.Vouches asked.space asked.key reply.version content

theorem Run.bears (fresh : start.Fresh) (run : Run start history client) {act : Section}
    (honest : server.Honest (history ++ [⟨client, act⟩])) {asked : PendingRead}
    {reply : ReadReply} (answered : Occurrence.answer? ⟨client, act⟩ = some (asked, reply)) :
    server.Bears asked reply := by
  have fills := run.fills fresh honest.left
  have origin := Occurrence.origin answered
  refine ⟨origin.complete, fun _ => origin.pinned, fun content told => ?_⟩
  cases origin with
  | held _ found _ latest =>
    cases told
    exact fills.latest _ _ _ _ _ (Cache.restAt?_eq_some found) latest
  | kept _ found =>
    cases told
    exact fills.entered _ _ _ _ found
  | served same accepts =>
    dsimp only at same
    subst same
    obtain ⟨good, resolved⟩ := accepts.content content told
    rw [accepts.version]
    exact fills.resolved (honest.last (accepts.status ▸ good)) resolved

/-! ## What sessions tell -/

/-- What a session told of a read is what the server serves at the version that it was pinned to
then. -/
def Server.Renders (server : Server) (space : NamespaceKey) (result : Session.Result) : Prop :=
  ∀ reply, result.outcome = .ok reply →
    (reply.status.isOk = true ↔ reply.content.isSome = true) ∧
      ∀ content, reply.content = some content → ∃ version, result.pinned = some version ∧
        server.Vouches space result.key version content

/-- What a session holds and told is what the server serves. -/
structure Server.Attends (server : Server) (space : NamespaceKey) (sitting : Sitting) : Prop where
  place : sitting.session.space = space
  waiting : ∀ pending, sitting.waiting = some pending →
    pending.space = space ∧ pending.pinned = sitting.session.pinned
  contents : ∀ key content, sitting.session.contents.get? key = some content →
    ∃ version, sitting.session.pinned = some version ∧ server.Vouches space key version content
  results : ∀ result ∈ sitting.results, server.Renders space result

theorem Sits.attends {space : NamespaceKey} {sitting : Sitting} (fresh : start.Fresh)
    (sits : Sits start space history client sitting) (honest : server.Honest history) :
    server.Attends space sitting := by
  have steady : sitting.Steady server.Vouches space := by
    refine sits.steady (fun occurrence member asked reply content answered told => ?_)
    obtain ⟨earlier, later, rfl, before⟩ := sits.run.upTo member
    rw [List.append_cons] at honest
    exact (before.bears fresh honest.left answered).vouches content told
  refine ⟨steady.place, fun pending waits => ?_, steady.contents,
    fun result member reply outcome => ?_⟩
  · obtain ⟨place, pinned, _⟩ := steady.waiting pending waits
    exact ⟨place, pinned⟩
  · cases steady.results result member with
    | failed failed =>
      rw [failed] at outcome
      cases outcome
    | refused refused bad =>
      rw [refused] at outcome
      cases outcome
      exact ⟨by simp [bad], fun _ told => (by cases told)⟩
    | @told version content told pinned now held =>
      rw [told] at outcome
      cases outcome
      refine ⟨⟨fun _ => rfl, fun _ => rfl⟩, fun other same => ?_⟩
      cases same
      obtain ⟨pin, same, vouched⟩ := steady.contents result.key content held
      rw [now] at same
      cases same
      exact ⟨version, pinned, vouched⟩

/-- As long as the server serves one checksum of a document at a version, and one payload for a
checksum, that is what a client shows with a version: in what it tells watchers, whatever the
outcome, in what it answers to reads and in what sessions of it answer. -/
theorem shows_what_is_served (fresh : start.Fresh) (run : Run start history client)
    (honest : server.Honest history) :
    (∀ occurrence ∈ history, ∀ notification ∈ occurrence.told,
      server.Shows history notification.watcher.registration notification.event) ∧
    (∀ occurrence ∈ history, ∀ asked reply, occurrence.answer? = some (asked, reply) →
      server.Bears asked reply) ∧
    (∀ space sitting, Sits start space history client sitting →
      ∀ result ∈ sitting.results, server.Renders space result) := by
  refine ⟨fun occurrence member notification told => ?_,
    fun occurrence member asked reply answered => ?_,
    fun space sitting sits => (sits.attends fresh honest).results⟩
  · obtain ⟨earlier, later, rfl, before⟩ := run.upTo member
    rw [List.append_cons] at honest ⊢
    exact (before.shows_told fresh honest.left told).append
  · obtain ⟨earlier, later, rfl, before⟩ := run.upTo member
    rw [List.append_cons] at honest
    exact before.bears fresh honest.left answered

/-- A server of one number in every document, which is the version. -/
private def numbering : Server where
  assign _ _ version := [version.number.toUInt8]
  payload checksum := [{ valueType := 4, int := (checksum.headD 0).toInt8.toInt64 }]

/-- A document is watched, and the server answers with version 7. -/
private def answering : List Section :=
  [.watch { root := "/srv" } { document := "a" } (some ("A", .idle)), .requestStream, .openStream,
    .poll 0,
    .reply { namespaceId := 1, version := 7, checksum := [7], nodes := numbering.payload [7] }]

/-- What the server sent is read in a session. -/
private def readThen : Section := .beginRead { root := "/srv" } { document := "a" } none

theorem shows_what_is_served_in_session :
    let client := Client.byDefault.performAll answering
    let history := Client.byDefault.occurrences answering ++ [⟨client, readThen⟩]
    numbering.Honest history ∧ ∃ sitting content,
      Sits Client.byDefault { root := "/srv" } history (client.perform readThen).2 sitting ∧
      sitting.results = [⟨{ document := "a" }, .ok ⟨.ok, some content⟩, some ⟨1, 7⟩⟩] ∧
      content.value = .int 7 ∧
      numbering.Vouches { root := "/srv" } { document := "a" } ⟨1, 7⟩ content := by
  intro client history
  have run : Run Client.byDefault (Client.byDefault.occurrences answering) client :=
    Run.start.performAll answering
  have honest : numbering.Honest history := by
    intro earlier occurrence later split
    have member : occurrence ∈ history := by simp [split]
    simp only [history, answering, Client.occurrences, List.cons_append, List.nil_append,
      List.mem_cons, List.not_mem_nil, or_false] at member
    rcases member with rfl | rfl | rfl | rfl | rfl | rfl
    · trivial
    · trivial
    · trivial
    · trivial
    · exact fun _ _ _ _ => ⟨rfl, rfl⟩
    · trivial
  have opened : Sits Client.byDefault { root := "/srv" } _ client { session := { space := _ } } :=
    .opens run
  have sits := opened.begins { document := "a" } rfl rfl
  obtain ⟨_, _, sessions⟩ := shows_what_is_served Client.byDefault_fresh (run.step readThen) honest
  refine ⟨honest, _, ⟨0, [7], .int 7, .empty⟩, sits, rfl, rfl, ?_⟩
  obtain ⟨_, vouches⟩ := sessions _ _ sits _ (List.mem_singleton_self _) _ rfl
  obtain ⟨version, pinned, vouched⟩ := vouches _ rfl
  cases pinned
  exact vouched

end ConfigWatch

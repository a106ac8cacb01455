import ConfigWatch.Proofs.Client.Ordering
import ConfigWatch.Proofs.Client.Provenance

/-!
# Outcomes and contents

A record keeps the outcome of the last reply apart from the version and the content that it holds,
and most replies change only one of them. Still a record with a good outcome holds a content. So
whatever tells a good outcome, an event or an answer to a read, tells a content too.
-/

set_option autoImplicit false

namespace ConfigWatch

/-! ## Records -/

namespace Record

/-- A record whose last reply was good holds a content. -/
def Backed (record : Record) : Prop := record.status = some .ok → record.latest.isSome = true

theorem Backed.update {record : Record} (backed : record.Backed) (version : Version)
    (content : Content) : (record.update version content).2.Backed := by
  have filled : ({ record with
      latest := some (version, content), state := .active, status := some .ok } :
        Record).Backed := fun _ => rfl
  unfold Record.update
  split
  · exact backed
  · split
    · exact backed
    · split <;> exact filled

theorem Backed.updateStatus {record : Record} (backed : record.Backed) {status : ReplyStatus}
    (bad : status ≠ .ok) : (record.updateStatus status).2.Backed := by
  have excused : ({ record with state := .active, status := some status } : Record).Backed := by
    intro good
    exact absurd (Option.some.inj good) bad
  unfold Record.updateStatus
  split
  · exact backed
  · split <;> exact excused

end Record

namespace Client

theorem verdict_backed {record : Record} (backed : record.Backed) (client : Client)
    (reply : WatchResponse) : (client.verdict reply record).2.Backed := by
  unfold verdict
  split
  · exact backed
  · split
    · exact backed.updateStatus (by decide)
    · exact backed.update _ _
  · next bad => exact backed.updateStatus bad

theorem recordFor_backed {cache : Cache}
    (backed : ∀ space key rest, cache.restAt? space key = some rest → rest.Backed)
    (space : NamespaceKey) (key : DocumentKey) : (cache.recordFor space key 0).Backed := by
  cases found : cache.recordAt? space key with
  | none =>
    rw [Cache.recordFor_new found]
    intro good
    cases good
  | some record =>
    rw [Cache.recordFor_found found]
    exact backed space key record.atRest (Cache.restAt?_eq_some found)

/-- No section leaves a record with a good outcome and nothing to show for it. -/
theorem perform_backed {client : Client} (indexed : client.cache.Indexed)
    (backed : ∀ space key rest, client.cache.restAt? space key = some rest → rest.Backed)
    (act : Section) {space : NamespaceKey} {key : DocumentKey} {rest : Record}
    (found : (client.perform act).2.cache.restAt? space key = some rest) : rest.Backed := by
  cases yields indexed found with
  | kept there => exact backed space key rest there
  | @watched watcher same =>
    have held := recordFor_backed backed space key
    rw [same]
    cases watcher with
    | none => exact held
    | some watcher => exact held
  | @unwatched _ _ earlier _ there same =>
    rw [same]
    exact backed space key earlier there
  | replied _ there same =>
    rw [same]
    exact verdict_backed (backed space key _ there) client _

end Client

theorem Run.backed {start client : Client} {history : List Occurrence} (fresh : start.Fresh)
    (run : Run start history client) (space : NamespaceKey) (key : DocumentKey) (rest : Record)
    (found : client.cache.restAt? space key = some rest) : rest.Backed := by
  induction run generalizing space key rest with
  | start =>
    rw [fresh.eq] at found
    cases found
  | step act run ih => exact Client.perform_backed (run.indexed fresh) ih act found

/-! ## Events -/

/-- An event tells a version if and only if it tells a content, and a good one tells both. -/
structure Event.IsComplete (event : Event) : Prop where
  together : event.version.isSome = true ↔ event.content.isSome = true
  good : event.status = .ok →
    ∃ version content, event.version = some version ∧ event.content = some content

theorem Record.event_together (record : Record) (status : ReplyStatus) :
    (record.event status).version.isSome = true ↔ (record.event status).content.isSome = true := by
  rw [Record.event, Option.isSome_map, Option.isSome_map]

theorem Record.Backed.complete {record : Record} (backed : record.Backed) {event : Event}
    (current : record.currentEvent = some event) : event.IsComplete := by
  obtain ⟨status, outcome, rfl⟩ := Option.map_eq_some_iff.mp current
  refine ⟨record.event_together status, fun good => ?_⟩
  obtain ⟨⟨version, content⟩, latest⟩ :=
    Option.isSome_iff_exists.mp (backed (outcome.trans (congrArg some good)))
  refine ⟨version, content, ?_, ?_⟩
  · rw [Record.event, latest]
    rfl
  · rw [Record.event, latest]
    rfl

/-- What a section tells is the state of a record after it, or the end of a record. -/
theorem Occurrence.complete_of_told {occurrence : Occurrence}
    (indexed : occurrence.before.cache.Indexed)
    (seated : occurrence.before.cache.Seated occurrence.before.registrations)
    (backed : ∀ space key rest, occurrence.after.cache.restAt? space key = some rest →
      rest.Backed)
    {notification : Notification} (told : notification ∈ occurrence.told) :
    notification.event.IsComplete := by
  have seatedAfter := Client.perform_seated indexed seated occurrence.act
  have member := mem_eventsFor told
  have tells := occurrence.tells indexed seated notification.watcher.registration
  generalize eventsFor notification.watcher.registration occurrence.told = events
    at member tells
  cases tells with
  | nobody => cases member
  | shows home current _ =>
    obtain ⟨space, key, _, _, found, _⟩ := seatedAfter.home?_eq_some_iff.mp home
    rw [List.mem_singleton.mp member]
    exact (backed space key _ found).complete current
  | @ends record _ _ =>
    rw [List.mem_singleton.mp member]
    exact ⟨record.event_together .removed, fun good => by cases good⟩

theorem Run.complete_of_told {start client : Client} {history : List Occurrence}
    (fresh : start.Fresh) (run : Run start history client) {occurrence : Occurrence}
    (member : occurrence ∈ history) {notification : Notification}
    (told : notification ∈ occurrence.told) : notification.event.IsComplete := by
  obtain ⟨_, before⟩ := run.reaches member
  exact occurrence.complete_of_told (before.indexed fresh) (before.seated fresh)
    ((before.step occurrence.act).backed fresh) told

/-! ## Sessions -/

/-- An answer of a session tells a content if and only if it is good. -/
def Session.Reply.IsComplete (reply : Session.Reply) : Prop :=
  reply.status.isOk = true ↔ reply.content.isSome = true

theorem Session.Accounts.complete {session : Session} {result : Session.Result}
    (accounts : session.Accounts result) {reply : Session.Reply}
    (answered : result.outcome = .ok reply) : reply.IsComplete := by
  cases accounts with
  | failed failed =>
    rw [failed] at answered
    cases answered
  | refused refused bad =>
    rw [refused] at answered
    cases answered
    rw [Session.Reply.IsComplete, bad]
    simp
  | told told _ _ _ =>
    rw [told] at answered
    cases answered
    exact ⟨fun _ => rfl, fun _ => rfl⟩

/-- A good outcome and a content go together. Whatever a section settles for a watcher, and
whatever a registration hears, tells a version just if it tells a content, and tells both if its
outcome is good; an answer to a read, of the client or of a session, tells a content just if its
outcome is good. -/
theorem good_goes_with_content {start client : Client} {history : List Occurrence}
    (fresh : start.Fresh) (run : Run start history client) :
    (∀ occurrence ∈ history, ∀ notification ∈ occurrence.told,
      notification.event.IsComplete) ∧
    (∀ traffic, Traffic.Leads (.ofClient start) traffic → ∀ registration,
      ∀ event ∈ heard traffic.client registration, event.IsComplete) ∧
    (∀ occurrence ∈ history, ∀ asked reply, occurrence.answer? = some (asked, reply) →
      reply.IsComplete) ∧
    ∀ space sitting, Sits start space history client sitting → ∀ result ∈ sitting.results,
      ∀ reply, result.outcome = .ok reply → reply.IsComplete := by
  refine ⟨fun occurrence member notification told => run.complete_of_told fresh member told,
    ?_, fun occurrence _ asked reply answered => (Occurrence.origin answered).complete, ?_⟩
  · intro traffic leads registration event noted
    rw [Traffic.heard_of_leads fresh leads] at noted
    obtain ⟨flight, told, rfl⟩ := List.mem_map.mp noted
    have flown : flight ∈ traffic.flights := List.mem_append_left _ (List.mem_filter.mp told).1
    obtain ⟨occurrence, comes⟩ := Traffic.comes_of_leads leads flight flown
    exact (Traffic.run_of_leads leads).complete_of_told fresh (List.mem_of_getElem? comes.place)
      comes.told
  · intro space sitting sits result member reply answered
    exact ((sits.steady_obtained fresh).results result member).complete answered

/-- A document is watched, and the server sends its first version. -/
private def goodFirst : List Section :=
  [.watch { root := "/srv" } { document := "a" } (some ("A", .idle)),
    .reply
      { namespaceId := 1, version := 1, checksum := [1]
        nodes := [{ valueType := 4, int := 1 }] }]

/-- The server sends a version whose payload does not decode. -/
private def malformedNext : Section :=
  .reply { namespaceId := 1, version := 2, checksum := [2], nodes := [{ valueType := 99 }] }

/-- A version is followed by one that does not decode: the watcher is told the first one again, as
what is held after an error. A session reads the document before that, and is refused another
one. -/
theorem good_goes_with_content_malformed :
    ∃ history client sitting, Run Client.byDefault history client ∧
      Sits Client.byDefault { root := "/srv" } history client sitting ∧
      (history.flatMap Occurrence.told).map (fun notification =>
          (notification.event.status, notification.event.version)) =
        [(.ok, some ⟨1, 1⟩), (.error, some ⟨1, 1⟩)] ∧
      sitting.results.map (fun result =>
          result.outcome.toOption.map (fun reply => (reply.status, reply.content.isSome))) =
        [some (.ok, true), some (.permissionDenied, false)] ∧
      (∀ occurrence ∈ history, ∀ notification ∈ occurrence.told,
        notification.event.IsComplete) ∧
      ∀ result ∈ sitting.results, ∀ reply, result.outcome = .ok reply → reply.IsComplete := by
  have run : Run Client.byDefault _ _ := Run.start.performAll goodFirst
  have opened : Sits Client.byDefault { root := "/srv" } _ _ { session := { space := _ } } :=
    .opens run
  have first := opened.begins { document := "a" } rfl rfl
  have asked := (first.elsewhere malformedNext).begins { document := "b" } rfl rfl
  have sits := asked.ends (.ok { status := 4 }) rfl
  obtain ⟨told, _, _, answered⟩ := good_goes_with_content Client.byDefault_fresh sits.run
  exact ⟨_, _, _, sits.run, sits, rfl, rfl, told, answered _ _ sits⟩

end ConfigWatch

import ConfigWatch.Proofs.Client.Ordering

/-!
# The succession of versions

The version that a record holds gives way only to one that supersedes it: to a later one of its
namespace id, or to any one of another id. So an earlier version of one namespace id comes back
only by way of another id.
-/

set_option autoImplicit false

namespace ConfigWatch

namespace Record

/-- A record holds what it held, or news of a version that supersedes the one it held. -/
def Succeeds (later earlier : Record) : Prop :=
  later.latest = earlier.latest ∨
    ∃ version content, later.latest = some (version, content) ∧ earlier.isNews version = true

theorem update_succeeds (record : Record) (version : Version) (content : Content) :
    (record.update version content).2.Succeeds record := by
  cases news : record.isNews version with
  | false =>
    rw [update_of_stale news]
    exact .inl rfl
  | true =>
    rcases record.update_latest version content with same | new
    · exact .inl same
    · exact .inr ⟨version, content, new, news⟩

end Record

namespace Client

theorem verdict_succeeds (client : Client) (reply : WatchResponse) (record : Record) :
    (client.verdict reply record).2.Succeeds record := by
  unfold verdict
  split
  · exact .inl rfl
  · split
    · exact .inl (record.updateStatus_latest _)
    · exact record.update_succeeds _ _
  · exact .inl (record.updateStatus_latest _)

theorem restAt?_succeeds {client : Client} (indexed : client.cache.Indexed) {act : Section}
    {space : NamespaceKey} {key : DocumentKey} {earlier later : Record}
    (found : client.cache.restAt? space key = some earlier)
    (held : (client.perform act).2.cache.restAt? space key = some later) :
    later.Succeeds earlier := by
  cases yields indexed held with
  | kept there =>
    rw [found] at there
    obtain rfl := Option.some.inj there
    exact .inl rfl
  | @watched watcher same =>
    obtain ⟨record, there, rfl⟩ := Cache.exists_recordAt? found
    rw [Cache.recordFor_found there] at same
    rw [same]
    refine .inl ?_
    cases watcher <;> rfl
  | unwatched _ there same =>
    rw [found] at there
    obtain rfl := Option.some.inj there
    rw [same]
    exact .inl rfl
  | replied _ there same =>
    rw [found] at there
    obtain rfl := Option.some.inj there
    rw [same]
    exact client.verdict_succeeds _ _

/-- What the record of a registration holds after a section. -/
theorem home?_succeeds {client : Client} (indexed : client.cache.Indexed)
    (seated : client.cache.Seated client.registrations) {act : Section} {registration : Nat}
    (made : registration < client.registrations) {later : Record}
    (after : (client.perform act).2.cache.home? registration = some later) :
    ∃ earlier, client.cache.home? registration = some earlier ∧ later.Succeeds earlier := by
  have seatedAfter := perform_seated indexed seated act
  obtain ⟨space, key, id, watcher, held, sits, rfl⟩ := seatedAfter.home?_eq_some_iff.mp after
  obtain ⟨earlier, found, sat⟩ := seat_before indexed ⟨later, held, sits⟩ made
  exact ⟨earlier, seated.home?_eq_some_iff.mpr ⟨space, key, id, watcher, found, sat, rfl⟩,
    restAt?_succeeds indexed found held⟩

end Client

/-- After a section the record of a registration holds a version of another namespace id. -/
def Occurrence.LeavesId (occurrence : Occurrence) (registration : Nat) (namespaceId : UInt64) :
    Prop :=
  ∃ record version content, occurrence.after.cache.home? registration = some record ∧
    record.latest = some (version, content) ∧ version.namespaceId ≠ namespaceId

/-- From a section on that left a version to the record of a registration, its record holds that
version or a later one of the same namespace id, or it held a version of another id in between. -/
def Advances (history : List Occurrence) (moment registration : Nat) (version : Version)
    (record : Record) : Prop :=
  ∃ current content, record.latest = some (current, content) ∧
    (current.namespaceId = version.namespaceId ∧ version.number ≤ current.number ∨
      ∃ place between, moment < place ∧ history[place]? = some between ∧
        between.LeavesId registration version.namespaceId)

theorem Advances.step {history : List Occurrence} {client : Client} {act : Section}
    {moment registration : Nat} {version : Version} {earlier later : Record}
    (advances : Advances history moment registration version earlier)
    (past : moment < history.length)
    (home : (client.perform act).2.cache.home? registration = some later)
    (succeeds : later.Succeeds earlier) :
    Advances (history ++ [⟨client, act⟩]) moment registration version later := by
  obtain ⟨current, content, held, so⟩ := advances
  have known (place : Nat) (between : Occurrence) (found : history[place]? = some between) :
      (history ++ [⟨client, act⟩])[place]? = some between := by
    rw [List.getElem?_append_left (List.getElem?_eq_some_iff.mp found).1]
    exact found
  rcases succeeds with same | ⟨next, found, latest, news⟩
  · refine ⟨current, content, same.trans held, so.imp_right ?_⟩
    intro elsewhere
    obtain ⟨place, between, later, there, leaves⟩ := elsewhere
    exact ⟨place, between, later, known place between there, leaves⟩
  · refine ⟨next, found, latest, ?_⟩
    by_cases away : next.namespaceId = version.namespaceId
    · rcases so with ⟨same, least⟩ | ⟨place, between, later, there, leaves⟩
      · refine .inl ⟨away, ?_⟩
        have supersedes : next.supersedes current = true := by
          rw [Record.isNews, held] at news
          exact news
        have later : ¬ next.number ≤ current.number := by
          intro stale
          rw [Version.supersedes_eq_false_iff.mpr ⟨away.trans same.symm, stale⟩] at supersedes
          cases supersedes
        exact UInt32.le_trans least (UInt32.le_of_lt (UInt32.not_le.mp later))
      · exact .inr ⟨place, between, later, known place between there, leaves⟩
    · exact .inr ⟨history.length, ⟨client, act⟩, past, List.getElem?_concat_length,
        later, next, found, home, latest, away⟩

theorem Run.advances {start client : Client} {history : List Occurrence} (fresh : start.Fresh)
    (run : Run start history client) {moment registration : Nat} {occurrence : Occurrence}
    (place : history[moment]? = some occurrence) {record : Record} {version : Version}
    {content : Content} (home : occurrence.after.cache.home? registration = some record)
    (held : record.latest = some (version, content)) :
    registration < client.registrations ∧
      ∀ later, client.cache.home? registration = some later →
        Advances history moment registration version later := by
  induction run with
  | start => cases place
  | @step history client act run ih =>
    have indexed := run.indexed fresh
    have seated := run.seated fresh
    have seatedAfter := Client.perform_seated indexed seated act
    rw [List.getElem?_append] at place
    split at place
    · next past =>
      obtain ⟨made, earlier⟩ := ih place
      refine ⟨made.trans_le (client.registrations_le indexed act), fun later now => ?_⟩
      obtain ⟨before, then_, succeeds⟩ := Client.home?_succeeds indexed seated made now
      exact (earlier before then_).step past now succeeds
    · next reached =>
      have last : moment = history.length := by
        have bound := (List.getElem?_eq_some_iff.mp place).1
        rw [List.length_singleton] at bound
        omega
      subst last
      rw [Nat.sub_self] at place
      obtain rfl := Option.some.inj place
      have present := Option.isSome_iff_exists.mpr ⟨record, home⟩
      refine ⟨seatedAfter.lt_of_home? present, ?_⟩
      intro later now
      obtain rfl : record = later := Option.some.inj (home.symm.trans now)
      exact ⟨version, content, held, .inl ⟨rfl, UInt32.le_refl _⟩⟩

theorem Advances.elsewhere {history : List Occurrence} {moment registration : Nat}
    {version current : Version} {content : Content} {record : Record}
    (advances : Advances history moment registration version record)
    (held : record.latest = some (current, content)) (older : current.number < version.number) :
    ∃ place between, moment < place ∧ history[place]? = some between ∧
      between.LeavesId registration version.namespaceId := by
  obtain ⟨known, kept, latest, so⟩ := advances
  rw [held] at latest
  obtain ⟨rfl, rfl⟩ := Prod.mk.inj (Option.some.inj latest)
  rcases so with ⟨_, least⟩ | elsewhere
  · exact absurd older (UInt32.not_lt.mpr least)
  · exact elsewhere

/-- A run up to one of its places, and the rest of its history. -/
theorem Run.atPlace {start client : Client} {history : List Occurrence}
    (run : Run start history client) {place : Nat} {occurrence : Occurrence}
    (found : history[place]? = some occurrence) :
    ∃ earlier later, history = earlier ++ occurrence :: later ∧ earlier.length = place ∧
      Run start earlier occurrence.before := by
  obtain ⟨bound, rfl⟩ := List.getElem?_eq_some_iff.mp found
  have split : history = history.take place ++ history[place] :: history.drop (place + 1) := by
    rw [List.getElem_cons_drop, List.take_append_drop]
  refine ⟨_, _, split, List.length_take_of_le bound.le, run.before split⟩

/-- The record of a registration that is told a version, not for the last time, holds it. -/
theorem Occurrence.Tells.held {occurrence : Occurrence} {registration : Nat} {event : Event}
    {version : Version} (tells : occurrence.Tells registration [event])
    (unended : event.status ≠ .removed) (shown : event.version = some version) :
    ∃ record content, occurrence.after.cache.home? registration = some record ∧
      record.latest = some (version, content) := by
  cases tells with
  | @shows record _ home current _ =>
    rw [(Record.version_of_currentEvent current).1] at shown
    obtain ⟨⟨_, content⟩, held, rfl⟩ := Option.map_eq_some_iff.mp shown
    exact ⟨record, content, home, held⟩
  | ends => exact absurd rfl unended

/-- A registration that is told an earlier version than before, of the same namespace id, is told so
after its record held a version of another id. -/
theorem Run.elsewhere_of_older {start client : Client} {history : List Occurrence}
    (fresh : start.Fresh) (run : Run start history client) {registration left right : Nat}
    {first second : Occurrence} {before after : Event} {earlier later : Version}
    (leftPlace : history[left]? = some first) (rightPlace : history[right]? = some second)
    (past : left < right) (begins : first.Tells registration [before])
    (ends : second.Tells registration [after]) (unended : before.status ≠ .removed)
    (shown : before.version = some earlier) (shownAfter : after.version = some later)
    (id : later.namespaceId = earlier.namespaceId) (older : later.number < earlier.number) :
    ∃ place between, left < place ∧ place < right ∧ history[place]? = some between ∧
      between.LeavesId registration earlier.namespaceId := by
  obtain ⟨record, content, home, held⟩ := begins.held unended shown
  obtain ⟨prior, rest, rfl, rfl, reached⟩ := run.atPlace rightPlace
  have placed : prior[left]? = some first := by
    rw [← leftPlace, List.getElem?_append_left past]
  have found {place : Nat} {between : Occurrence} (there : prior[place]? = some between) :
      (prior ++ second :: rest)[place]? = some between := by
    rw [List.getElem?_append_left (List.getElem?_eq_some_iff.mp there).1]
    exact there
  cases ends with
  | shows present told kept =>
    obtain ⟨current, content, now, latest⟩ :=
      (Occurrence.Tells.shows present told kept).held kept shownAfter
    have stretch : Run start (prior ++ [second]) second.after := reached.step second.act
    have placedToo : (prior ++ [second])[left]? = some first := by
      rw [List.getElem?_append_left past]
      exact placed
    obtain ⟨place, between, lower, there, leaves⟩ :=
      ((stretch.advances fresh placedToo home held).2 current now).elsewhere latest older
    rw [List.getElem?_append] at there
    split at there
    · next upper => exact ⟨place, between, lower, upper, found there, leaves⟩
    · have last := List.mem_singleton.mp (List.mem_of_getElem? there)
      obtain ⟨_, _, _, still, kept, away⟩ := leaves
      rw [last, now] at still
      obtain rfl := Option.some.inj still
      rw [latest] at kept
      obtain ⟨rfl, _⟩ := Prod.mk.inj (Option.some.inj kept)
      exact absurd id away
  | @ends current now _ =>
    obtain ⟨⟨_, content⟩, latest, rfl⟩ := Option.map_eq_some_iff.mp shownAfter
    obtain ⟨place, between, lower, there, leaves⟩ :=
      ((reached.advances fresh placed home held).2 current now).elsewhere latest older
    exact ⟨place, between, lower, (List.getElem?_eq_some_iff.mp there).1, found there, leaves⟩

/-! ## Events in order -/

namespace Traffic

variable {start : Client} {traffic : Traffic} {registration : Nat}

/-- The section that a flight comes from tells the registration of the flight nothing else. -/
theorem Comes.tells (fresh : start.Fresh) {history : List Occurrence} {client : Client}
    (run : Run start history client) {flight : Flight} {occurrence : Occurrence}
    (comes : Comes history flight occurrence) :
    occurrence.Tells flight.registration [flight.event] := by
  obtain ⟨_, before⟩ := run.reaches (List.mem_of_getElem? comes.place)
  have tells := occurrence.tells (before.indexed fresh) (before.seated fresh) flight.registration
  have member : flight.event ∈ eventsFor flight.registration occurrence.told :=
    mem_eventsFor comes.told
  generalize eventsFor flight.registration occurrence.told = events at tells member
  cases tells with
  | nobody => cases member
  | shows home shown kept =>
    rw [List.mem_singleton.mp member]
    exact .shows home shown kept
  | ends home gone =>
    rw [List.mem_singleton.mp member]
    exact .ends home gone

/-- Flights of which the first one of all, put first, is in order with the others are in order as
they are just if it comes first. -/
private theorem pairwise_iff_first {flights : List Flight}
    (order : (flights.filter (fun flight => flight.initial == true) ++
      flights.filter (fun flight => flight.initial == false)).Pairwise
        (fun left right => left.moment < right.moment))
    (single : (flights.filter (fun flight => flight.initial == true)).length ≤ 1) :
    flights.Pairwise (fun left right => left.moment < right.moment) ↔
      ∀ flight ∈ flights.tail, flight.initial = false := by
  cases flights with
  | nil => simp
  | cons head rest =>
    constructor
    · intro sorted flight member
      have above := (List.pairwise_cons.mp sorted).1 flight member
      by_contra initial
      rw [Bool.not_eq_false] at initial
      have among : flight ∈ rest.filter (fun flight => flight.initial == true) :=
        List.mem_filter.mpr ⟨member, by simp [initial]⟩
      cases first : head.initial with
      | true =>
        rw [List.filter_cons, first] at single
        have more := List.length_pos_of_mem among
        simp only [beq_self_eq_true, if_true, List.length_cons] at single
        omega
      | false =>
        rw [List.filter_cons, List.filter_cons, first] at order
        have below := (List.pairwise_append.mp order).2.2 flight among head (by simp)
        omega
    · intro others
      have noFirst : rest.filter (fun flight => flight.initial == true) = [] := by
        rw [List.filter_eq_nil_iff]
        intro flight member
        simp [others flight member]
      have allOthers : rest.filter (fun flight => flight.initial == false) = rest := by
        rw [List.filter_eq_self]
        intro flight member
        simp [others flight member]
      rw [List.filter_cons, List.filter_cons, noFirst, allOthers] at order
      cases first : head.initial with
      | true => simpa [first] using order
      | false => simpa [first] using order

end Traffic

/-- A registration observes what the sections of others settled for it in the order of the sections,
and the event that its watch settled, which is the earliest, at any time: all of its events come in
order if and only if that one comes first. Nothing was settled for it after its end. An earlier
version of a namespace id was settled after a later one only if the record held a version of
another id in between. -/
theorem in_order_but_initial {start : Client} (fresh : start.Fresh) {traffic : Traffic}
    (leads : Traffic.Leads (.ofClient start) traffic) (registration : Nat) :
    heard traffic.client registration = (traffic.toldTo registration).map Flight.event ∧
    (∀ flight ∈ traffic.toldTo registration,
      ∃ occurrence, Traffic.Comes traffic.history flight occurrence) ∧
    (Traffic.flightsOf true registration traffic.told ++
      Traffic.flightsOf false registration traffic.told).Pairwise
        (fun left right => left.moment < right.moment) ∧
    (Traffic.flightsOf true registration traffic.told).length ≤ 1 ∧
    ((traffic.toldTo registration).Pairwise (fun left right => left.moment < right.moment) ↔
      ∀ flight ∈ (traffic.toldTo registration).tail, flight.initial = false) ∧
    ∀ left ∈ traffic.toldTo registration, ∀ right ∈ traffic.toldTo registration,
      left.moment < right.moment → left.event.status ≠ .removed ∧
        ∀ earlier later, left.event.version = some earlier → right.event.version = some later →
          later.namespaceId = earlier.namespaceId → later.number < earlier.number →
          ∃ place between, left.moment < place ∧ place < right.moment ∧
            traffic.history[place]? = some between ∧
            between.LeavesId registration earlier.namespaceId := by
  have run := Traffic.run_of_leads leads
  have sorted := Traffic.sorted_of_leads fresh leads registration
  have comes := Traffic.comes_of_leads leads
  have flown (flight : Flight) (member : flight ∈ traffic.toldTo registration) :
      flight ∈ traffic.flights := List.mem_append_left _ (List.mem_filter.mp member).1
  have mine (flight : Flight) (member : flight ∈ traffic.toldTo registration) :
      flight ∈ flightsFor registration traffic.flights :=
    List.mem_filter.mpr ⟨flown flight member, (List.mem_filter.mp member).2⟩
  have order := sorted.order
  have single := sorted.single
  rw [Traffic.flights, Traffic.flightsOf_append] at single
  rw [Traffic.flights, Traffic.flightsOf_append, Traffic.flightsOf_append] at order
  have orderTold := order.sublist
    ((List.sublist_append_left _ _).append (List.sublist_append_left _ _))
  have singleTold := (List.sublist_append_left _ _).length_le.trans single
  refine ⟨Traffic.heard_of_leads fresh leads registration,
    fun flight member => comes flight (flown flight member), orderTold, singleTold,
    Traffic.pairwise_iff_first orderTold singleTold, ?_⟩
  intro left leftTold right rightTold past
  have unended : left.event.status ≠ .removed := by
    intro removed
    have last := (sorted.ended left (mine left leftTold) removed).2 right (mine right rightTold)
    omega
  refine ⟨unended, fun earlier later shown shownAfter id older => ?_⟩
  obtain ⟨first, leftComes⟩ := comes left (flown left leftTold)
  obtain ⟨second, rightComes⟩ := comes right (flown right rightTold)
  have begins := leftComes.tells fresh run
  have ends := rightComes.tells fresh run
  rw [of_decide_eq_true (List.mem_filter.mp leftTold).2] at begins
  rw [of_decide_eq_true (List.mem_filter.mp rightTold).2] at ends
  exact run.elsewhere_of_older fresh leftComes.place rightComes.place past begins ends unended
    shown shownAfter id older

private def watchesBy (label : String) : Section :=
  .watch { root := "/srv" } { document := "a" } (some (label, .idle))

/-- The server sends a version, with the checksum of a byte. -/
private def sendsVersion (namespaceId : UInt64) (number : UInt32) (byte : UInt8) : Section :=
  .reply
    { namespaceId, version := number, checksum := [byte]
      nodes := [{ valueType := 4, int := byte.toInt8.toInt64 }] }

/-- The stream is open, a document is watched, and its first version is there. -/
private def versionThere : Traffic :=
  ((((Traffic.ofClient Client.byDefault).settle .worker .requestStream).settle .worker
    .openStream).settle (.caller 0) (watchesBy "A")).settle .worker (sendsVersion 1 1 1)

private theorem leads_versionThere :
    Traffic.Leads (.ofClient Client.byDefault) versionThere ∧ versionThere.Idle .worker := by
  have idle := (((Traffic.idle_ofClient Client.byDefault .worker).settle .worker
    .requestStream).settle .worker .openStream).settle (.caller 0) (watchesBy "A")
  constructor
  · exact .settle (.settle (.settle (.settle .refl trivial) trivial) trivial) ⟨rfl, idle⟩
  · exact idle.settle .worker (sendsVersion 1 1 1)

/-- A second watch finds the first version, and has yet to tell its watcher. -/
private def watchedAgain : Traffic :=
  versionThere.carryOut (.caller 1) (watchesBy "B")
    (versionThere.client.perform (watchesBy "B")).1

private theorem leads_watchedAgain :
    Traffic.Leads (.ofClient Client.byDefault) watchedAgain ∧ watchedAgain.Idle .worker := by
  obtain ⟨leads, idle⟩ := leads_versionThere
  constructor
  · exact leads.tail (.carryOut trivial (List.Perm.refl _))
  · exact idle.carryOut (by decide) (watchesBy "B") _

/-- Before it does so the worker tells of the second version and of the end of the stream. -/
private def overtaken : Traffic :=
  (watchedAgain.settle .worker (sendsVersion 1 2 2)).settle .worker .failStream

private def belated : Traffic := overtaken.deliverAll watchedAgain.inFlight []

private theorem leads_belated : Traffic.Leads (.ofClient Client.byDefault) belated := by
  obtain ⟨leads, idle⟩ := leads_watchedAgain
  have passed : Traffic.Leads (.ofClient Client.byDefault) overtaken :=
    .settle (.settle leads ⟨rfl, idle⟩) ⟨rfl, idle.settle .worker (sendsVersion 1 2 2)⟩
  have waiting : overtaken.inFlight = watchedAgain.inFlight ++ [] := by
    rw [overtaken, Traffic.inFlight_settle, Traffic.inFlight_settle, List.append_nil]
  exact passed.trans (Traffic.leads_deliverAll waiting).1

theorem in_order_but_initial_belated :
    ¬ (belated.toldTo 1).Pairwise (fun left right => left.moment < right.moment) := by
  obtain ⟨_, _, _, _, first, _⟩ :=
    in_order_but_initial Client.byDefault_fresh leads_belated 1
  rw [first]
  decide +kernel

/-- Three versions, the last of which is earlier than the first one of its namespace id. -/
private def backAgain : Traffic :=
  ((versionThere.settle .worker (sendsVersion 1 5 5)).settle .worker
    (sendsVersion 2 1 2)).settle .worker (sendsVersion 1 3 3)

private theorem leads_backAgain : Traffic.Leads (.ofClient Client.byDefault) backAgain := by
  obtain ⟨leads, idle⟩ := leads_versionThere
  have once := idle.settle .worker (sendsVersion 1 5 5)
  have twice := once.settle .worker (sendsVersion 2 1 2)
  exact .settle (.settle (.settle leads ⟨rfl, idle⟩) ⟨rfl, once⟩) ⟨rfl, twice⟩

/-- A registration observes an earlier version, and the version of its watch after its end. Another
one, with nothing late, observes an earlier version of one namespace id after a later one. -/
theorem out_of_order :
    Traffic.Leads (.ofClient Client.byDefault) belated ∧
    (heard belated.client 1).map (fun event => (event.status, event.version)) =
      [(.ok, some ⟨1, 2⟩), (.removed, some ⟨1, 2⟩), (.ok, some ⟨1, 1⟩)] ∧
    Traffic.Leads (.ofClient Client.byDefault) backAgain ∧
    (heard backAgain.client 0).map (fun event => (event.status, event.version)) =
      [(.ok, some ⟨1, 1⟩), (.ok, some ⟨1, 5⟩), (.ok, some ⟨2, 1⟩), (.ok, some ⟨1, 3⟩)] := by
  refine ⟨leads_belated, ?_, leads_backAgain, ?_⟩
  · decide +kernel
  · decide +kernel

end ConfigWatch

import ConfigWatch.Proofs.Client.Answers
import ConfigWatch.Proofs.Client.Succession

/-!
# Versions never go back

The version of a record gives way only to later ones while its namespace id stays the same. So
what the record shows to its watchers and to unpinned reads never goes back in that time, through
whichever of the two it shows: an event, a read and any later event or read show versions in order.
-/

set_option autoImplicit false

namespace ConfigWatch

/-! ## The version of a record -/

/-- The version that the record of a document holds, if it is there and holds one. -/
def Cache.heldAt? (cache : Cache) (space : NamespaceKey) (key : DocumentKey) : Option Version :=
  (cache.recordAt? space key).bind (fun record => record.latest.map Prod.fst)

theorem Cache.heldAt?_eq_restAt? (cache : Cache) (space : NamespaceKey) (key : DocumentKey) :
    cache.heldAt? space key =
      (cache.restAt? space key).bind (fun rest => rest.latest.map Prod.fst) := by
  rw [heldAt?, restAt?, Option.bind_map]
  rfl

theorem Cache.heldAt?_eq_some {cache : Cache} {space : NamespaceKey} {key : DocumentKey}
    {rest : Record} (found : cache.restAt? space key = some rest) {version : Version}
    {content : Content} (latest : rest.latest = some (version, content)) :
    cache.heldAt? space key = some version := by
  rw [heldAt?_eq_restAt?, found, Option.bind_some, latest, Option.map_some]

theorem Cache.exists_restAt?_of_heldAt? {cache : Cache} {space : NamespaceKey}
    {key : DocumentKey} {version : Version} (held : cache.heldAt? space key = some version) :
    ∃ rest content, cache.restAt? space key = some rest ∧
      rest.latest = some (version, content) := by
  rw [heldAt?_eq_restAt?] at held
  obtain ⟨rest, found, held⟩ := Option.bind_eq_some_iff.mp held
  obtain ⟨⟨_, content⟩, latest, rfl⟩ := Option.map_eq_some_iff.mp held
  exact ⟨rest, content, found, latest⟩

/-- News of the namespace id of the version held are of a later version. -/
theorem Record.Succeeds.advances {earlier later : Record} (succeeds : later.Succeeds earlier)
    {version : Version} {content : Content} (held : earlier.latest = some (version, content)) :
    later.latest = some (version, content) ∨ ∃ next found, later.latest = some (next, found) ∧
      (next.namespaceId ≠ version.namespaceId ∨ version.number < next.number) := by
  rcases succeeds with same | ⟨next, found, latest, news⟩
  · exact .inl (same.trans held)
  · refine .inr ⟨next, found, latest, ?_⟩
    have supersedes : next.supersedes version = true := by
      rw [Record.isNews, held] at news
      exact news
    by_cases id : next.namespaceId = version.namespaceId
    · refine .inr (UInt32.not_le.mp (fun stale => ?_))
      rw [Version.supersedes_eq_false_iff.mpr ⟨id, stale⟩] at supersedes
      cases supersedes
    · exact .inl id

theorem Client.heldAt?_advances {client : Client} (indexed : client.cache.Indexed)
    {act : Section} {space : NamespaceKey} {key : DocumentKey} {version next : Version}
    (before : client.cache.heldAt? space key = some version)
    (after : (client.perform act).2.cache.heldAt? space key = some next)
    (id : next.namespaceId = version.namespaceId) : version.number ≤ next.number := by
  obtain ⟨earlier, _, found, latest⟩ := Cache.exists_restAt?_of_heldAt? before
  obtain ⟨later, _, foundAfter, latestAfter⟩ := Cache.exists_restAt?_of_heldAt? after
  rcases (restAt?_succeeds indexed found foundAfter).advances latest with
    same | ⟨_, _, news, away | above⟩
  · rw [latestAfter] at same
    cases same
    exact UInt32.le_refl _
  · rw [latestAfter] at news
    cases news
    exact absurd id away
  · rw [latestAfter] at news
    cases news
    exact UInt32.le_of_lt above

/-! ## Stretches of a history -/

/-- From after one place of a history up to another the record of a document is there and holds
versions of one namespace id. -/
def Stays (history : List Occurrence) (left right : Nat) (space : NamespaceKey)
    (key : DocumentKey) (namespaceId : UInt64) : Prop :=
  ∀ place occurrence, left < place → place ≤ right → history[place]? = some occurrence →
    ∃ version, occurrence.before.cache.heldAt? space key = some version ∧
      version.namespaceId = namespaceId

section

variable {start client : Client} {history : List Occurrence}

theorem Run.after_of_snoc {occurrence : Occurrence}
    (run : Run start (history ++ [occurrence]) client) : client = occurrence.after := by
  generalize split : history ++ [occurrence] = whole at run
  cases run with
  | start => simp at split
  | step act run =>
    obtain ⟨_, same⟩ := List.append_inj' split rfl
    cases same
    rfl

/-- The next section finds the client that the one before left. -/
theorem Run.before_of_next (run : Run start history client) {place : Nat}
    {first second : Occurrence} (here : history[place]? = some first)
    (next : history[place + 1]? = some second) : second.before = first.after := by
  obtain ⟨earlier, later, rfl, length, reached⟩ := run.atPlace next
  rw [List.getElem?_append_left (by omega)] at here
  obtain ⟨bound, there⟩ := List.getElem?_eq_some_iff.mp here
  have last : earlier = earlier.take place ++ [first] := by
    rw [← there, List.take_append_getElem, ← length, List.take_length]
  rw [last] at reached
  exact reached.after_of_snoc

/-- While its namespace id stays the same a record holds no earlier version than at first. -/
theorem Run.held_of_stays (fresh : start.Fresh) (run : Run start history client) {left : Nat}
    {first : Occurrence} (place : history[left]? = some first) {space : NamespaceKey}
    {key : DocumentKey} {version next : Version}
    (held : first.after.cache.heldAt? space key = some version)
    (stays : Stays history left history.length space key version.namespaceId)
    (now : client.cache.heldAt? space key = some next)
    (id : next.namespaceId = version.namespaceId) : version.number ≤ next.number := by
  induction run generalizing next with
  | start => cases place
  | @step history client act run ih =>
    rw [List.getElem?_append] at place
    split at place
    · next past =>
      obtain ⟨middle, before, same⟩ :=
        stays history.length ⟨client, act⟩ past (by simp) List.getElem?_concat_length
      have earlier : Stays history left history.length space key version.namespaceId := by
        intro other occurrence above _ there
        have bound := (List.getElem?_eq_some_iff.mp there).1
        refine stays other occurrence above (by simp; omega) ?_
        rw [List.getElem?_append_left bound]
        exact there
      have least := ih place earlier before same
      exact UInt32.le_trans least
        (Client.heldAt?_advances (run.indexed fresh) before now (id.trans same.symm))
    · next reached =>
      have last := List.mem_singleton.mp (List.mem_of_getElem? place)
      rw [last, Occurrence.after, now] at held
      obtain rfl := Option.some.inj held
      exact UInt32.le_refl _

end

/-! ## What shows a version -/

namespace Occurrence

/-- A registration has its seat at the record of a document, before or after a section. -/
def Sits (occurrence : Occurrence) (registration : Nat) (space : NamespaceKey)
    (key : DocumentKey) : Prop :=
  ∃ id watcher, watcher.registration = registration ∧
    (occurrence.before.cache.Seat space key id watcher ∨
      occurrence.after.cache.Seat space key id watcher)

/-- What shows the version of a record: an event for a registration that has its seat there, or
the answer to an unpinned read that is served from it. -/
inductive Shows (occurrence : Occurrence) (space : NamespaceKey) (key : DocumentKey) :
    Version → Prop where
  | event {registration : Nat} {event : Event} {version : Version} :
      occurrence.Sits registration space key →
      event ∈ eventsFor registration occurrence.told → event.version = some version →
      Shows occurrence space key version
  | read {reply : ReadReply} : occurrence.act = .beginRead space key none →
      occurrence.answer? = some (⟨space, key, none⟩, reply) →
      Shows occurrence space key reply.version

/-- Only a fresh start of the cache takes away a seat and tells the registration so. -/
theorem afresh_of_told {occurrence : Occurrence} (indexed : occurrence.before.cache.Indexed)
    (seated : occurrence.before.cache.Seated occurrence.before.registrations)
    {registration : Nat} (told : eventsFor registration occurrence.told ≠ [])
    (present : (occurrence.before.cache.home? registration).isSome = true)
    (gone : occurrence.after.cache.home? registration = none) :
    occurrence.after.cache = occurrence.before.cache.reset.2 := by
  have other : occurrence.act.isWatch = false := by
    by_contra watch
    rw [Bool.not_eq_false] at watch
    have new := registration_of_watch watch indexed seated told
    exact absurd (seated.lt_of_home? present) (by omega)
  obtain ⟨client, act⟩ := occurrence
  obtain ⟨space, key, id, watcher, seat, same⟩ := Cache.home?_isSome_iff.mp present
  rw [Cache.home?_eq_none_iff] at gone
  have step := Client.does indexed act
  simp only [Occurrence.told, after] at told gone ⊢
  generalize client.perform act = result at step told gone ⊢
  cases step with
  | quiet quiet => exact absurd (by rw [quiet.told]; rfl) told
  | watches => cases other
  | unwatches | sweeps => exact absurd rfl told
  | replies located effect =>
    exact absurd same (gone space key id watcher ((effect.seat_iff located).mpr seat))
  | resets _ cache _ => exact cache

private theorem heldAt?_of_home {cache : Cache} {registrations registration : Nat}
    (seated : cache.Seated registrations) {record : Record}
    (home : cache.home? registration = some record) {space : NamespaceKey} {key : DocumentKey}
    {id : UInt32} {watcher : Watcher} (seat : cache.Seat space key id watcher)
    (same : watcher.registration = registration) :
    cache.heldAt? space key = record.latest.map Prod.fst := by
  obtain ⟨other, document, number, sitter, found, sits, own⟩ :=
    seated.home?_eq_some_iff.mp home
  obtain ⟨rfl, rfl, _⟩ := seated.unique _ _ _ _ _ _ _ _ ⟨record, found, sits⟩ seat
    (own.trans same.symm)
  rw [Cache.heldAt?_eq_restAt?, found, Option.bind_some]

/-- A version that is shown is held after the section, or the record ended with it. -/
theorem Shows.held {occurrence : Occurrence} (indexed : occurrence.before.cache.Indexed)
    (seated : occurrence.before.cache.Seated occurrence.before.registrations)
    {space : NamespaceKey} {key : DocumentKey} {version : Version}
    (seen : occurrence.Shows space key version) :
    occurrence.after.cache.heldAt? space key = some version ∨
      occurrence.after.cache.heldAt? space key = none ∧
        occurrence.before.cache.heldAt? space key = some version := by
  have seatedAfter := Client.perform_seated indexed seated occurrence.act
  cases seen with
  | @event registration event version sits member shown =>
    obtain ⟨id, watcher, same, seat⟩ := sits
    have told := List.ne_nil_of_mem member
    have tells := occurrence.tells indexed seated registration
    generalize events : eventsFor registration occurrence.told = list at member tells
    cases tells with
    | nobody => cases member
    | @shows record _ home current _ =>
      left
      rw [List.mem_singleton.mp member, (Record.version_of_currentEvent current).1] at shown
      obtain ⟨other, document, number, sitter, found, sat, own⟩ :=
        seatedAfter.home?_eq_some_iff.mp home
      have there : occurrence.after.cache.Seat other document number sitter := ⟨record, found, sat⟩
      -- A seat from before the section is the one that the registration has after it.
      have place : other = space ∧ document = key := by
        rcases seat with before | after
        · have old : sitter.registration < occurrence.before.registrations := by
            rw [own, ← same]
            exact seated.below _ _ _ _ before
          have kept := Client.seat_before indexed there old
          obtain ⟨sameSpace, sameKey, _⟩ :=
            seated.unique _ _ _ _ _ _ _ _ kept before (own.trans same.symm)
          exact ⟨sameSpace, sameKey⟩
        · obtain ⟨sameSpace, sameKey, _⟩ :=
            seatedAfter.unique _ _ _ _ _ _ _ _ there after (own.trans same.symm)
          exact ⟨sameSpace, sameKey⟩
      obtain ⟨rfl, rfl⟩ := place
      exact (heldAt?_of_home seatedAfter home there own).trans shown
    | @ends record home gone =>
      right
      rw [List.mem_singleton.mp member] at shown
      have afresh := afresh_of_told indexed seated told (by rw [home]; rfl) gone
      rcases seat with before | after
      · refine ⟨?_, (heldAt?_of_home seated home before same).trans shown⟩
        rw [afresh]
        rfl
      · rw [afresh] at after
        exact absurd after Cache.not_seat_reset
  | @read reply act answered =>
    left
    have quiet : Client.Quiet occurrence.before (occurrence.before.perform occurrence.act) :=
      Client.perform_quiet (by rw [act]; rfl) occurrence.before
    cases origin answered with
    | held _ found _ latest =>
      have there := (quiet.records.records space key).trans (Cache.restAt?_eq_some found)
      exact Cache.heldAt?_eq_some there latest
    | kept pinned => cases pinned
    | served asked =>
      rw [act] at asked
      cases asked

end Occurrence

section

variable {start client : Client} {history : List Occurrence}

/-- While the namespace id of a record stays the same, whatever shows its version later shows no
earlier one. -/
theorem Run.shows_in_order (fresh : start.Fresh) (run : Run start history client)
    {left right : Nat} {first second : Occurrence} (leftPlace : history[left]? = some first)
    (rightPlace : history[right]? = some second) (past : left < right) {space : NamespaceKey}
    {key : DocumentKey} {version next : Version} (begins : first.Shows space key version)
    (ends : second.Shows space key next)
    (stays : Stays history left right space key version.namespaceId)
    (id : next.namespaceId = version.namespaceId) : version.number ≤ next.number := by
  obtain ⟨_, firstReached⟩ := run.reaches (List.mem_of_getElem? leftPlace)
  have held : first.after.cache.heldAt? space key = some version := by
    rcases begins.held (firstReached.indexed fresh) (firstReached.seated fresh) with
      held | ⟨gone, _⟩
    · exact held
    · -- The record is there before the next section, so it did not end with this one.
      have bound := (List.getElem?_eq_some_iff.mp rightPlace).1
      have within : left + 1 < history.length := by omega
      have next : history[left + 1]? = some history[left + 1] := List.getElem?_eq_getElem within
      obtain ⟨middle, there, _⟩ := stays (left + 1) _ (by omega) (by omega) next
      rw [run.before_of_next leftPlace next, gone] at there
      cases there
  obtain ⟨prior, rest, rfl, rfl, reached⟩ := run.atPlace rightPlace
  have stretch : Run start (prior ++ [second]) second.after := reached.step second.act
  have placed : prior[left]? = some first := by
    rw [← leftPlace, List.getElem?_append_left past]
  have upTo (place : Nat) (occurrence : Occurrence) (above : left < place)
      (there : (prior ++ [second])[place]? = some occurrence) :
      ∃ version', occurrence.before.cache.heldAt? space key = some version' ∧
        version'.namespaceId = version.namespaceId := by
    have bound := (List.getElem?_eq_some_iff.mp there).1
    refine stays place occurrence above ?_ ?_
    · rw [List.length_append, List.length_singleton] at bound
      omega
    · rw [List.append_cons, List.getElem?_append_left bound]
      exact there
  rcases ends.held (reached.indexed fresh) (reached.seated fresh) with after | ⟨_, before⟩
  · refine stretch.held_of_stays fresh ?_ held
      (fun place occurrence above _ there => upTo place occurrence above there) after id
    rw [List.getElem?_append_left past]
    exact placed
  · refine reached.held_of_stays fresh placed held (fun place occurrence above _ there =>
      upTo place occurrence above ?_) before id
    rw [List.getElem?_append_left (List.getElem?_eq_some_iff.mp there).1]
    exact there

/-! ## The place of a registration -/

/-- A registration has had its seat at the record of a document. -/
def SatAt (history : List Occurrence) (registration : Nat) (space : NamespaceKey)
    (key : DocumentKey) : Prop :=
  ∃ occurrence ∈ history, occurrence.Sits registration space key

/-- A registration sits at the record of one document for good. -/
structure Residence (history : List Occurrence) (client : Client) (registration : Nat) :
    Prop where
  made : ∀ space key, SatAt history registration space key →
    registration < client.registrations
  known : ∀ space key id watcher, client.cache.Seat space key id watcher →
    watcher.registration = registration → SatAt history registration space key
  unique : ∀ space key other document, SatAt history registration space key →
    SatAt history registration other document → space = other ∧ key = document

/-- A seat of a section is one from before, or the first one of a registration just made. -/
private theorem Residence.sat_cases {registration : Nat} (indexed : client.cache.Indexed)
    (residence : Residence history client registration) {act : Section} {space : NamespaceKey}
    {key : DocumentKey} (sat : SatAt (history ++ [⟨client, act⟩]) registration space key) :
    SatAt history registration space key ∨ client.registrations ≤ registration ∧
      ∃ id watcher, watcher.registration = registration ∧
        (client.perform act).2.cache.Seat space key id watcher := by
  obtain ⟨occurrence, member, sits⟩ := sat
  rcases List.mem_append.mp member with old | new
  · exact .inl ⟨occurrence, old, sits⟩
  · obtain rfl := List.mem_singleton.mp new
    obtain ⟨id, watcher, rfl, before | after⟩ := sits
    · exact .inl (residence.known space key id watcher before rfl)
    · by_cases made : watcher.registration < client.registrations
      · have kept := Client.seat_before indexed after made
        exact .inl (residence.known space key id watcher kept rfl)
      · exact .inr ⟨Nat.not_lt.mp made, id, watcher, rfl, after⟩

theorem Run.residence (fresh : start.Fresh) (run : Run start history client)
    (registration : Nat) : Residence history client registration := by
  induction run with
  | start =>
    have none (space : NamespaceKey) (key : DocumentKey) : ¬ SatAt [] registration space key := by
      rintro ⟨_, member, _⟩
      cases member
    refine ⟨fun _ _ sat => absurd sat (none _ _), fun space key id watcher seat _ => ?_,
      fun _ _ _ _ sat => absurd sat (none _ _)⟩
    obtain ⟨_, found, _⟩ := seat
    rw [fresh.eq] at found
    cases found
  | @step history client act run ih =>
    have indexed := run.indexed fresh
    have seatedAfter := Client.perform_seated indexed (run.seated fresh) act
    constructor
    case made =>
      intro space key sat
      rcases ih.sat_cases indexed sat with old | ⟨_, id, watcher, same, seat⟩
      · exact (ih.made space key old).trans_le (client.registrations_le indexed act)
      · rw [← same]
        exact seatedAfter.below space key id watcher seat
    case known =>
      intro space key id watcher seat same
      exact ⟨⟨client, act⟩, List.mem_append_right _ (List.mem_singleton_self _), id, watcher, same,
        .inr seat⟩
    case unique =>
      intro space key other document here there
      rcases ih.sat_cases indexed here with old | ⟨unmade, id, watcher, same, seat⟩
      · rcases ih.sat_cases indexed there with alsoOld | ⟨unmade, _⟩
        · exact ih.unique space key other document old alsoOld
        · exact absurd (ih.made space key old) (Nat.not_lt.mpr unmade)
      · rcases ih.sat_cases indexed there with old | ⟨_, number, sitter, own, seatToo⟩
        · exact absurd (ih.made other document old) (Nat.not_lt.mpr unmade)
        · obtain ⟨sameSpace, sameKey, _⟩ := seatedAfter.unique _ _ _ _ _ _ _ _ seat seatToo
            (same.trans own.symm)
          exact ⟨sameSpace, sameKey⟩

/-- What a registration is told shows the version of the record where it has its place. -/
theorem Run.shows_of_told (fresh : start.Fresh) (run : Run start history client)
    {occurrence : Occurrence} (member : occurrence ∈ history) {registration : Nat}
    {space : NamespaceKey} {key : DocumentKey} (sat : SatAt history registration space key)
    {event : Event} (told : event ∈ eventsFor registration occurrence.told) {version : Version}
    (shown : event.version = some version) : occurrence.Shows space key version := by
  obtain ⟨_, before⟩ := run.reaches member
  have indexed := before.indexed fresh
  have seated := before.seated fresh
  have somewhere : ∃ other document, occurrence.Sits registration other document := by
    have tells := occurrence.tells indexed seated registration
    generalize eventsFor registration occurrence.told = events at told tells
    cases tells with
    | nobody => cases told
    | @shows record _ home _ _ =>
      have seatedAfter := Client.perform_seated indexed seated occurrence.act
      obtain ⟨other, document, id, watcher, found, sits, same⟩ :=
        seatedAfter.home?_eq_some_iff.mp home
      exact ⟨other, document, id, watcher, same, .inr ⟨record, found, sits⟩⟩
    | @ends record home _ =>
      obtain ⟨other, document, id, watcher, found, sits, same⟩ :=
        seated.home?_eq_some_iff.mp home
      exact ⟨other, document, id, watcher, same, .inl ⟨record, found, sits⟩⟩
  obtain ⟨other, document, sits⟩ := somewhere
  obtain ⟨rfl, rfl⟩ := (run.residence fresh registration).unique space key other document sat
    ⟨occurrence, member, sits⟩
  exact .event sits told shown

/-! ## What registrations are told -/

/-- The events that a registration was told, each with the place of its section in the history. -/
def tellings (history : List Occurrence) (registration : Nat) : List (Nat × Event) :=
  history.zipIdx.flatMap (fun entry =>
    (eventsFor registration entry.1.told).map (fun event => (entry.2, event)))

/-- Of two things that a registration was told the later one comes from a later section, and shows
no earlier version unless the namespace id of the record changed in between. -/
def InOrder (history : List Occurrence) (space : NamespaceKey) (key : DocumentKey)
    (earlier later : Nat × Event) : Prop :=
  earlier.1 < later.1 ∧ ∀ version next, earlier.2.version = some version →
    later.2.version = some next →
    Stays history earlier.1 later.1 space key version.namespaceId →
    next.namespaceId = version.namespaceId → version.number ≤ next.number

theorem tellings_events (history : List Occurrence) (registration : Nat) :
    (tellings history registration).map Prod.snd =
      history.flatMap (fun occurrence => eventsFor registration occurrence.told) := by
  have one (entry : Occurrence × Nat) :
      ((eventsFor registration entry.1.told).map (fun event => (entry.2, event))).map Prod.snd =
        eventsFor registration entry.1.told := by
    rw [List.map_map]
    exact List.map_id _
  have all := List.flatMap_map Prod.fst
    (fun occurrence : Occurrence => eventsFor registration occurrence.told) history.zipIdx
  rw [List.zipIdx_map_fst] at all
  rw [tellings, List.map_flatMap, all]
  exact List.flatMap_congr (fun entry _ => one entry)

theorem Run.tellings_pairwise (fresh : start.Fresh) (run : Run start history client)
    {registration : Nat} {space : NamespaceKey} {key : DocumentKey}
    (sat : SatAt history registration space key) :
    (tellings history registration).Pairwise (InOrder history space key) := by
  have places : history.zipIdx.Pairwise (fun left right => left.2 < right.2) := by
    rw [← List.pairwise_map, List.zipIdx_map_snd]
    exact List.pairwise_lt_range' 1
  refine List.pairwise_flatMap.mpr ⟨fun entry member => ?_, places.imp_of_mem ?_⟩
  · -- One section tells a registration at most one event.
    obtain ⟨_, before⟩ := run.reaches (List.fst_mem_of_mem_zipIdx member)
    have tells := entry.1.tells (before.indexed fresh) (before.seated fresh) registration
    generalize eventsFor registration entry.1.told = events at tells
    cases tells with
    | nobody => exact List.Pairwise.nil
    | shows => exact List.pairwise_singleton _ _
    | ends => exact List.pairwise_singleton _ _
  · intro first second firstMember secondMember past left leftTold right rightTold
    obtain ⟨before, begins, rfl⟩ := List.mem_map.mp leftTold
    obtain ⟨after, ends, rfl⟩ := List.mem_map.mp rightTold
    have firstPlace := List.mem_zipIdx_iff_getElem?.mp firstMember
    have secondPlace := List.mem_zipIdx_iff_getElem?.mp secondMember
    refine ⟨past, fun version next shown shownAfter stays id => ?_⟩
    exact run.shows_in_order fresh firstPlace secondPlace past
      (run.shows_of_told fresh (List.mem_of_getElem? firstPlace) sat begins shown)
      (run.shows_of_told fresh (List.mem_of_getElem? secondPlace) sat ends shownAfter) stays id

/-- In a play a registration hears what it is told, in the order of the sections. -/
theorem Play.tellings_heard (fresh : start.Fresh) {agenda : List Notification}
    (play : Play start history client agenda) (registration : Nat) :
    heard client registration ++ eventsFor registration agenda =
      (tellings history registration).map Prod.snd := by
  rw [(play.account fresh).heard registration, tellings_events]
  refine List.flatMap_congr (fun occurrence member => ?_)
  obtain ⟨_, before⟩ := play.run.reaches member
  exact (occurrence.eventsFor_told (before.indexed fresh) (before.seated fresh) registration).symm

/-- Versions never go back. Once a record holds a version it holds one for good, and the version
gives way only to a later one or to one of another namespace id. So while its namespace id stays
the same, whatever shows the version of a record, an event or an unpinned read that is served from
it, shows no earlier one than what showed it before; in a play a registration hears its events in
that order; and whatever the parties do in between, no unpinned read is older than an event that was
told before. -/
theorem versions_never_go_back (fresh : start.Fresh) (run : Run start history client) :
    (∀ occurrence ∈ history, ∀ space key earlier later version content,
      occurrence.before.cache.recordAt? space key = some earlier →
      occurrence.after.cache.recordAt? space key = some later →
      earlier.latest = some (version, content) →
      later.latest = some (version, content) ∨ ∃ next found, later.latest = some (next, found) ∧
        (next.namespaceId ≠ version.namespaceId ∨ version.number < next.number)) ∧
    (∀ left right first second space key version next, history[left]? = some first →
      history[right]? = some second → left < right → first.Shows space key version →
      second.Shows space key next →
      Stays history left right space key version.namespaceId →
      next.namespaceId = version.namespaceId → version.number ≤ next.number) ∧
    (∀ after agenda, Play start history after agenda → ∀ registration,
      heard after registration ++ eventsFor registration agenda =
          (tellings history registration).map Prod.snd ∧
        ∀ space key, SatAt history registration space key →
          (tellings history registration).Pairwise (InOrder history space key)) ∧
    ∀ traffic, Traffic.Leads (.ofClient start) traffic → ∀ flight ∈ traffic.told,
      ∀ space key reply version, SatAt traffic.history flight.registration space key →
      Occurrence.answer? ⟨traffic.client, .beginRead space key none⟩ =
        some (⟨space, key, none⟩, reply) →
      flight.event.version = some version →
      Stays (traffic.history ++ [⟨traffic.client, .beginRead space key none⟩]) flight.moment
        traffic.history.length space key version.namespaceId →
      reply.version.namespaceId = version.namespaceId →
      version.number ≤ reply.version.number := by
  refine ⟨?_, ?_, ?_, ?_⟩
  · intro occurrence member space key earlier later version content found foundAfter latest
    obtain ⟨_, before⟩ := run.reaches member
    exact (Client.restAt?_succeeds (before.indexed fresh) (Cache.restAt?_eq_some found)
      (Cache.restAt?_eq_some foundAfter)).advances latest
  · intro left right first second space key version next leftPlace rightPlace past begins ends
      stays id
    exact run.shows_in_order fresh leftPlace rightPlace past begins ends stays id
  · intro after agenda play registration
    exact ⟨play.tellings_heard fresh registration,
      fun space key sat => run.tellings_pairwise fresh sat⟩
  · intro traffic leads flight told space key reply version sat answered shown stays id
    have traced := Traffic.run_of_leads leads
    obtain ⟨first, comes⟩ :=
      Traffic.comes_of_leads leads flight (List.mem_append_left _ told)
    have past := (List.getElem?_eq_some_iff.mp comes.place).1
    have begins : first.Shows space key version :=
      traced.shows_of_told fresh (List.mem_of_getElem? comes.place) sat
        (mem_eventsFor comes.told) shown
    refine (traced.step (.beginRead space key none)).shows_in_order fresh ?_
      List.getElem?_concat_length past begins (.read rfl answered) stays id
    rw [List.getElem?_append_left past]
    exact comes.place

end

private def versionOf (number : UInt32) : Section :=
  .reply
    { namespaceId := 1, version := number, checksum := [number.toUInt8]
      nodes := [{ valueType := 4, int := 1 }] }

private def watched : Client :=
  (Client.byDefault.perform
    (.watch { root := "/srv" } { document := "a" } (some ("A", .idle)))).2

/-- A document is watched, the server sends version 3 and then version 5, and the document is read
from its record. -/
private def threeThenFive : List Section :=
  [.watch { root := "/srv" } { document := "a" } (some ("A", .idle)), versionOf 3, versionOf 5,
    .beginRead { root := "/srv" } { document := "a" } none]

private theorem shows_three :
    Occurrence.Shows ⟨watched, versionOf 3⟩ { root := "/srv" } { document := "a" } ⟨1, 3⟩ := by
  have told : (eventsFor 0 (Occurrence.told ⟨watched, versionOf 3⟩)).map Event.version =
      [some ⟨1, 3⟩] := rfl
  obtain ⟨event, only, shown⟩ := List.map_eq_singleton_iff.mp told
  have member : event ∈ eventsFor 0 (Occurrence.told ⟨watched, versionOf 3⟩) := by
    rw [only]
    exact List.mem_singleton_self event
  have sits : Occurrence.Sits ⟨watched, versionOf 3⟩ 0 { root := "/srv" } { document := "a" } :=
    ⟨0, { label := "A" }, rfl, .inl ⟨_, rfl, rfl⟩⟩
  exact .event sits member shown

theorem versions_never_go_back_three_then_five :
    ∃ client first second reply,
      Run Client.byDefault (Client.byDefault.occurrences threeThenFive) client ∧
      (Client.byDefault.occurrences threeThenFive)[1]? = some first ∧
      first.Shows { root := "/srv" } { document := "a" } ⟨1, 3⟩ ∧
      (Client.byDefault.occurrences threeThenFive)[3]? = some second ∧
      second.answer? = some (⟨{ root := "/srv" }, { document := "a" }, none⟩, reply) ∧
      reply.version.namespaceId = 1 ∧ 3 ≤ reply.version.number := by
  have run : Run Client.byDefault _ _ := Run.start.performAll threeThenFive
  obtain ⟨_, shown, _, _⟩ := versions_never_go_back Client.byDefault_fresh run
  have stays : Stays (Client.byDefault.occurrences threeThenFive) 1 3 { root := "/srv" }
      { document := "a" } 1 := by
    intro place occurrence above below there
    obtain rfl | rfl : place = 2 ∨ place = 3 := by omega
    · cases there
      exact ⟨⟨1, 3⟩, rfl, rfl⟩
    · cases there
      exact ⟨⟨1, 5⟩, rfl, rfl⟩
  exact ⟨_, _, _, _, run, rfl, shows_three, rfl, rfl, rfl,
    shown 1 3 _ _ _ _ ⟨1, 3⟩ _ rfl rfl (by decide) shows_three (.read rfl rfl) stays rfl⟩

end ConfigWatch

import ConfigWatch.Proofs.Client.Departures
import ConfigWatch.Proofs.Client.Grants
import ConfigWatch.Proofs.Client.Identity

/-!
# Unwatching

The pair that a watch returned is good for removing the watcher as long as the generation lasts.
Ids start again with the next one, so that an old pair may come to stand for another watcher,
which is then the one that is removed.
-/

set_option autoImplicit false

namespace ConfigWatch

/-- The removal of a watcher by a pair touches one registration, its owner, and tells whether the
owner was there. -/
structure Client.UnwatchesOwn (client : Client) (subscription watcher : UInt32) (own : Nat) :
    Prop where
  others : ∀ registration, registration ≠ own →
    (client.cache.home? registration).isSome = true →
    ((client.unwatch subscription watcher).2.cache.home? registration).isSome = true
  answer : (client.unwatch subscription watcher).1 = true ↔
    (client.cache.home? own).isSome = true
  gone : (client.unwatch subscription watcher).2.cache.home? own = none

/-- A watcher has the seat that a pair stands for. -/
def Cache.Held (cache : Cache) (subscription id : UInt32) (watcher : Watcher) : Prop :=
  ∃ space key, cache.bySubscription.get? subscription = some (space, key) ∧
    cache.Seat space key id watcher

namespace Client

variable {client : Client} {subscription id : UInt32}

theorem unwatch_answer :
    (client.unwatch subscription id).1 = true ↔
      ∃ watcher, client.cache.Held subscription id watcher := by
  constructor
  · intro removed
    cases located : client.cache.located? subscription with
    | none =>
      simp only [unwatch, located] at removed
      cases removed
    | some place =>
      obtain ⟨space, key, record⟩ := place
      simp only [unwatch, located, Record.removeWatcher, Table.contains] at removed
      obtain ⟨index, found⟩ := Cache.located?_eq_some_iff.mp located
      obtain ⟨watcher, sits⟩ := Option.isSome_iff_exists.mp removed
      exact ⟨watcher, space, key, index, Cache.Seat.of_record found sits⟩
  · rintro ⟨watcher, space, key, index, seat⟩
    obtain ⟨record, found, sits⟩ := seat.record
    have located := Cache.located?_eq_some_iff.mpr ⟨index, found⟩
    simp only [unwatch, located, Record.removeWatcher, Table.contains, sits, Option.isSome_some]

/-- A seat is left if and only if the pair stands for another. -/
theorem seat_unwatch_iff {space : NamespaceKey} {key : DocumentKey} {number : UInt32}
    {watcher : Watcher} :
    (client.unwatch subscription id).2.cache.Seat space key number watcher ↔
      client.cache.Seat space key number watcher ∧
        ¬ (client.cache.bySubscription.get? subscription = some (space, key) ∧ number = id) :=
  (client.unwatches subscription id).seat_iff

theorem home?_unwatch_iff {registration : Nat}
    (seated : client.cache.Seated client.registrations) :
    ((client.unwatch subscription id).2.cache.home? registration).isSome = true ↔
      (client.cache.home? registration).isSome = true ∧
        ∀ watcher, client.cache.Held subscription id watcher →
          watcher.registration ≠ registration := by
  simp only [Cache.home?_isSome_iff, seat_unwatch_iff]
  constructor
  · rintro ⟨space, key, number, watcher, ⟨seat, apart⟩, rfl⟩
    refine ⟨⟨space, key, number, watcher, seat, rfl⟩, ?_⟩
    rintro sitter ⟨other, document, index, held⟩ same
    obtain ⟨rfl, rfl, rfl⟩ := seated.unique _ _ _ _ _ _ _ _ held seat same
    exact apart ⟨index, rfl⟩
  · rintro ⟨⟨space, key, number, watcher, seat, rfl⟩, apart⟩
    refine ⟨space, key, number, watcher, ⟨seat, ?_⟩, rfl⟩
    rintro ⟨index, rfl⟩
    exact apart watcher ⟨space, key, index, seat⟩ rfl

theorem home?_of_held {watcher : Watcher} (held : client.cache.Held subscription id watcher) :
    (client.cache.home? watcher.registration).isSome = true := by
  obtain ⟨space, key, _, seat⟩ := held
  exact Cache.home?_isSome_iff.mpr ⟨space, key, id, watcher, seat, rfl⟩

/-- A removal touches its owner alone if and only if the pair stands for nobody else. -/
theorem unwatchesOwn_iff (seated : client.cache.Seated client.registrations) {own : Nat}
    (place : (client.cache.home? own).isSome = true →
      ∃ watcher, client.cache.Held subscription id watcher ∧ watcher.registration = own) :
    client.UnwatchesOwn subscription id own ↔
      ∀ watcher, client.cache.Held subscription id watcher → watcher.registration = own := by
  constructor
  · intro touches watcher held
    by_cases same : watcher.registration = own
    · exact same
    · have still := touches.others _ same (home?_of_held held)
      exact absurd rfl (((home?_unwatch_iff seated).mp still).2 watcher held)
  · intro alone
    refine ⟨fun registration differs present => ?_, ?_, ?_⟩
    · refine (home?_unwatch_iff seated).mpr ⟨present, fun watcher held same => ?_⟩
      exact differs (same.symm.trans (alone watcher held))
    · rw [unwatch_answer]
      constructor
      · rintro ⟨watcher, held⟩
        exact alone watcher held ▸ home?_of_held held
      · intro present
        obtain ⟨watcher, held, _⟩ := place present
        exact ⟨watcher, held⟩
    · rw [← Option.not_isSome_iff_eq_none, home?_unwatch_iff seated]
      rintro ⟨present, apart⟩
      obtain ⟨watcher, held, same⟩ := place present
      exact apart watcher held same

end Client

/-! ## Pairs of the present generation -/

theorem Run.granted_of_held {start client : Client} {history : List Occurrence}
    (fresh : start.Fresh) (run : Run start history client) {subscription id : UInt32}
    {watcher : Watcher} (held : client.cache.Held subscription id watcher) :
    ∃ occurrence ∈ current history client, occurrence.granted = some (subscription, id) ∧
      occurrence.before.registrations = watcher.registration := by
  obtain ⟨space, key, index, rest, found, sits⟩ := held
  obtain ⟨record, there, same⟩ := (run.indexed fresh).located subscription space key index
  rw [found] at there
  cases there
  obtain ⟨occurrence, member, seats⟩ := run.traced fresh space key rest id watcher found sits
  exact ⟨occurrence, member, same ▸ seats.granted, seats.registration⟩

/-- A registration that has a seat has the one that its pair stands for. -/
theorem Run.held_of_granted {start client : Client} {history : List Occurrence}
    (fresh : start.Fresh) (run : Run start history client)
    (few : (ledger history client).opened.length < 2 ^ 32) {occurrence : Occurrence}
    (member : occurrence ∈ history) {subscription id : UInt32}
    (granted : occurrence.granted = some (subscription, id))
    (present : (client.cache.home? occurrence.before.registrations).isSome = true) :
    ∃ watcher, client.cache.Held subscription id watcher ∧
      watcher.registration = occurrence.before.registrations := by
  obtain ⟨space, key, number, watcher, ⟨rest, found, sits⟩, same⟩ :=
    Cache.home?_isSome_iff.mp present
  obtain ⟨other, given, seats⟩ := run.traced fresh space key rest number watcher found sits
  have there : other ∈ history := (List.mem_filter.mp given).1
  obtain rfl := run.granted_unique fresh member there granted seats.granted
    (same.symm.trans seats.registration.symm)
  cases granted.symm.trans seats.granted
  have index := (run.balanced fresh few).placed space key rest found
  exact ⟨watcher, ⟨space, key, index, rest, found, sits⟩, same⟩

/-! ## How long a pair lasts -/

/-- Since a registration its record gave out as many ids as there were later registrations at it,
and the id of the registration went to another only after all others did. -/
def Client.Follows (client : Client) (own : Nat) (subscription id : UInt32) : Prop :=
  ∀ space key rest, client.cache.restAt? space key = some rest →
    rest.subscription = subscription →
    ∃ later, rest.nextWatcher = id + UInt32.ofNat (later + 1) ∧
      own + later < client.registrations ∧
      ∀ watcher, rest.watchers.get? id = some watcher →
        watcher.registration = own ∨ own + 2 ^ 32 ≤ watcher.registration

namespace Client

private theorem nextWatcher_joined {record : Record} {made later : Nat} {id : UInt32}
    (next : record.nextWatcher = id + UInt32.ofNat (later + 1)) (joining : String × Reaction) :
    (record.joined made (some joining)).atRest.nextWatcher =
      id + UInt32.ofNat (later + 1 + 1) := by
  show record.nextWatcher + 1 = _
  rw [next, UInt32.ofNat_add (later + 1) 1, ← UInt32.add_assoc]
  rfl

/-- An id goes to another watcher only when it comes round again. -/
private theorem holder_joined {record : Record} {own made later : Nat} {id : UInt32}
    (next : record.nextWatcher = id + UInt32.ofNat (later + 1)) (below : own + later < made)
    (holder : ∀ watcher, record.watchers.get? id = some watcher →
      watcher.registration = own ∨ own + 2 ^ 32 ≤ watcher.registration)
    (joining : String × Reaction) (watcher : Watcher)
    (sits : (record.joined made (some joining)).atRest.watchers.get? id = some watcher) :
    watcher.registration = own ∨ own + 2 ^ 32 ≤ watcher.registration := by
  simp only [Record.joined, Record.addWatcher, Record.atRest, Table.get?_insert] at sits
  split at sits
  · next around =>
    cases sits
    have equal := congrArg UInt32.toNat (around.trans next)
    rw [UInt32.toNat_add, UInt32.toNat_ofNat'] at equal
    have bound := id.toNat_lt
    right
    dsimp only
    omega
  · exact holder watcher sits

private theorem Follows.step {client : Client} (indexed : client.cache.Indexed) {own : Nat}
    {subscription id : UInt32} (follows : client.Follows own subscription id)
    (given : client.cache.nextSubscription ≠ subscription) (act : Section) :
    (client.perform act).2.Follows own subscription id := by
  have grown := client.registrations_le indexed act
  intro space key rest found named
  cases yields indexed found with
  | kept there =>
    obtain ⟨later, next, below, holder⟩ := follows space key rest there named
    exact ⟨later, next, below.trans_le grown, holder⟩
  | @watched joining same =>
    rw [same, Record.subscription_joined] at named
    cases present : client.cache.recordAt? space key with
    | none =>
      rw [Cache.recordFor_new present] at named
      exact absurd named given
    | some record =>
      rw [Cache.recordFor_found present] at named same
      obtain ⟨later, next, below, holder⟩ :=
        follows space key record.atRest (Cache.restAt?_eq_some present) named
      cases joining with
      | none =>
        rw [same]
        exact ⟨later, next, below.trans_le grown, holder⟩
      | some joining =>
        obtain ⟨_, after, result, effect⟩ := client.perform_watch space key (some joining)
        have counted : after.registrations = client.registrations + 1 := effect.registrations
        rw [result, same]
        exact ⟨later + 1, nextWatcher_joined next joining, by dsimp only; omega,
          holder_joined next below holder joining⟩
  | @unwatched _ _ earlier _ there same =>
    rw [same] at named ⊢
    obtain ⟨later, next, below, holder⟩ := follows space key earlier there named
    refine ⟨later, next, below.trans_le grown, fun watcher sits => ?_⟩
    simp only [Record.removeWatcher, Table.get?_erase] at sits
    split at sits
    · cases sits
    · exact holder watcher sits
  | @replied reply earlier _ there same =>
    have answered := client.verdict_answered reply earlier
    rw [same] at named ⊢
    rw [answered.subscription] at named
    rw [answered.nextWatcher, answered.watchers]
    obtain ⟨later, next, below, holder⟩ := follows space key earlier there named
    exact ⟨later, next, below.trans_le grown, holder⟩

private theorem follows_of_granted {client : Client} {act : Section} {subscription id : UInt32}
    (granted : Occurrence.granted ⟨client, act⟩ = some (subscription, id))
    (placed : (client.perform act).2.cache.Placed) :
    (client.perform act).2.Follows client.registrations subscription id ∧
      ∃ space key, (client.perform act).2.cache.bySubscription.get? subscription =
        some (space, key) := by
  obtain ⟨space, key, ⟨label, reaction⟩, rfl, pair⟩ := Occurrence.watch_of_granted granted
  obtain ⟨initial, after, result, effect⟩ := client.perform_watch space key (some (label, reaction))
  rw [result] at placed ⊢
  cases pair
  have own := effect.records space key
  rw [if_pos ⟨rfl, rfl⟩] at own
  have index := placed space key _ own
  rw [Record.subscription_joined] at index
  refine ⟨fun other document rest found same => ?_, space, key, index⟩
  have there := placed other document rest found
  rw [same, index] at there
  cases there
  rw [own] at found
  cases found
  have count : after.registrations = client.registrations + 1 := effect.registrations
  refine ⟨0, rfl, by dsimp only; omega, fun watcher sits => .inl ?_⟩
  simp only [Record.joined, Record.addWatcher, Record.atRest, Table.get?_insert, if_true] at sits
  cases sits
  rfl

end Client

theorem Run.follows {start client : Client} {history : List Occurrence} (fresh : start.Fresh)
    (run : Run start history client) (few : (ledger history client).opened.length < 2 ^ 32)
    {occurrence : Occurrence} (member : occurrence ∈ current history client)
    {subscription id : UInt32} (granted : occurrence.granted = some (subscription, id)) :
    client.Follows occurrence.before.registrations subscription id ∧
      subscription ∈ (ledger history client).opened.map Prod.fst := by
  induction run with
  | start => cases member
  | @step history client act run ih =>
    have indexed := run.indexed fresh
    have after := (run.step act).balanced fresh few
    rcases client.generation_or_reset indexed act with stays | reset
    · rw [ledger_snoc act stays] at few after ⊢
      rw [current_snoc act stays] at member
      have fewBefore : (ledger history client).opened.length < 2 ^ 32 := by
        rw [Ledger.add, List.length_append] at few
        omega
      rcases List.mem_append.mp member with old | new
      · obtain ⟨follows, given⟩ := ih fewBefore old
        have unused := (run.balanced fresh fewBefore).unused fewBefore
        refine ⟨follows.step indexed (fun same => unused (same ▸ given)) act, ?_⟩
        rw [Ledger.add, List.map_append]
        exact List.mem_append_left _ given
      · obtain rfl := List.mem_singleton.mp new
        obtain ⟨follows, space, key, index⟩ := Client.follows_of_granted granted after.placed
        exact ⟨follows, List.mem_map_of_mem (after.standing index).1⟩
    · have generation : (client.perform act).2.cache.generation = client.cache.generation + 1 := by
        rw [reset]
        rfl
      rw [(run.streaming fresh).current_reset act generation] at member
      cases member

/-- Within 2 ^ 32 registrations a pair of the present generation stands for nobody but its owner. -/
theorem Run.held_by_owner {start client : Client} {history : List Occurrence} (fresh : start.Fresh)
    (run : Run start history client) (few : (ledger history client).opened.length < 2 ^ 32)
    {occurrence : Occurrence} (member : occurrence ∈ current history client)
    {subscription id : UInt32} (granted : occurrence.granted = some (subscription, id))
    (recent : client.registrations ≤ occurrence.before.registrations + 2 ^ 32) {watcher : Watcher}
    (held : client.cache.Held subscription id watcher) :
    watcher.registration = occurrence.before.registrations := by
  obtain ⟨space, key, index, rest, found, sits⟩ := held
  obtain ⟨record, there, same⟩ := (run.indexed fresh).located subscription space key index
  rw [found] at there
  cases there
  have below := (run.seated fresh).below space key id watcher ⟨rest, found, sits⟩
  obtain ⟨_, _, _, holder⟩ := (run.follows fresh few member granted).1 space key rest found same
  rcases holder watcher sits with own | far
  · exact own
  · omega

/-- Unwatching with a pair that a watch returned touches the registration of that watch alone, and
tells whether it was present, if and only if no other registration is present that was given the
same pair under the present generation. Under the generation of the watch itself that is so until
2 ^ 32 further registrations were made. -/
theorem unwatches_own_iff {start client : Client} {history : List Occurrence} (fresh : start.Fresh)
    (run : Run start history client) (few : (ledger history client).opened.length < 2 ^ 32)
    {occurrence : Occurrence} (member : occurrence ∈ history) {subscription id : UInt32}
    (granted : occurrence.granted = some (subscription, id)) :
    (client.UnwatchesOwn subscription id occurrence.before.registrations ↔
      ∀ other ∈ history, other.generation = client.cache.generation →
        other.granted = some (subscription, id) →
        (client.cache.home? other.before.registrations).isSome = true →
        other.before.registrations = occurrence.before.registrations) ∧
    (occurrence.generation = client.cache.generation →
      client.registrations ≤ occurrence.before.registrations + 2 ^ 32 →
      client.UnwatchesOwn subscription id occurrence.before.registrations) := by
  have touches := Client.unwatchesOwn_iff (run.seated fresh)
    (run.held_of_granted fresh few member granted)
  constructor
  · rw [touches]
    constructor
    · intro alone other there _ same present
      obtain ⟨watcher, held, owns⟩ := run.held_of_granted fresh few there same present
      exact owns.symm.trans (alone watcher held)
    · intro alone watcher held
      obtain ⟨other, given, same, owns⟩ := run.granted_of_held fresh held
      obtain ⟨there, now⟩ := List.mem_filter.mp given
      have present := Client.home?_of_held held
      rw [← owns] at present ⊢
      exact alone other there (of_decide_eq_true now) same present
  · intro now recent
    have given : occurrence ∈ current history client :=
      List.mem_filter.mpr ⟨member, decide_eq_true now⟩
    exact touches.mpr (fun watcher held => run.held_by_owner fresh few given granted recent held)

/-- A document is watched, the stream fails, and another document is watched. -/
private def failingBetween : List Section :=
  [.watch { root := "/srv" } { document := "a" } (some ("A", .idle)), .requestStream, .failStream,
    .watch { root := "/srv" } { document := "b" } (some ("B", .idle))]

/-- The client that the second of the two watches finds. -/
private def failedBefore : Client := Client.byDefault.performAll (failingBetween.take 3)

theorem unwatches_own_iff_failing :
    let client := Client.byDefault.performAll failingBetween
    client.UnwatchesOwn 0 0 1 ∧ ¬ client.UnwatchesOwn 0 0 0 := by
  intro client
  have run : Run Client.byDefault (Client.byDefault.occurrences failingBetween) client :=
    Run.start.performAll failingBetween
  have few :
      (ledger (Client.byDefault.occurrences failingBetween) client).opened.length < 2 ^ 32 := by
    decide +kernel
  have first :
      ⟨Client.byDefault, failingBetween[0]⟩ ∈ Client.byDefault.occurrences failingBetween :=
    List.mem_cons_self
  have second : ⟨failedBefore, failingBetween[3]⟩ ∈ Client.byDefault.occurrences failingBetween :=
    List.mem_of_getElem? (i := 3) rfl
  have firstGranted : Occurrence.granted ⟨Client.byDefault, failingBetween[0]⟩ = some (0, 0) := rfl
  have secondGranted : Occurrence.granted ⟨failedBefore, failingBetween[3]⟩ = some (0, 0) := rfl
  refine ⟨(unwatches_own_iff Client.byDefault_fresh run few second secondGranted).2 rfl ?_, ?_⟩
  · decide +kernel
  · intro touches
    have alone := (unwatches_own_iff Client.byDefault_fresh run few first firstGranted).1.mp touches
    exact absurd (alone _ second rfl secondGranted (by decide +kernel)) (by decide +kernel)

/-- After a failure the old pair stands for the watcher of another document: removing by it says
that the old registration, which ended, was there, and takes the other one away. -/
theorem unwatch_takes_another :
    let client := Client.byDefault.performAll failingBetween
    Client.byDefault.Fresh ∧
      Run Client.byDefault (Client.byDefault.occurrences failingBetween) client ∧
      ⟨Client.byDefault, failingBetween[0]⟩ ∈ Client.byDefault.occurrences failingBetween ∧
      Occurrence.granted ⟨Client.byDefault, failingBetween[0]⟩ = some (0, 0) ∧
      client.cache.home? 0 = none ∧ (client.unwatch 0 0).1 = true ∧
      (client.cache.home? 1).isSome = true ∧
      (client.unwatch 0 0).2.cache.home? 1 = none ∧ ¬ client.UnwatchesOwn 0 0 0 := by
  intro client
  have absent : client.cache.home? 0 = none := rfl
  have removed : (client.unwatch 0 0).1 = true := rfl
  refine ⟨Client.byDefault_fresh, Run.start.performAll failingBetween, List.mem_cons_self, rfl,
    absent, removed, rfl, rfl, fun touches => ?_⟩
  have present := touches.answer.mp removed
  rw [absent] at present
  cases present

end ConfigWatch

import ConfigWatch.Proofs.Client.Emissions
import Mathlib.Algebra.Group.Nat.Defs

/-!
# Agreement on subscriptions

The server knows of a subscription what the commands tell it. Applied in their order to an empty
table, the commands of the present generation give the index of subscription ids.
-/

set_option autoImplicit false

namespace ConfigWatch

/-- What a command does to the subscriptions that the server knows. -/
def Command.applyTo (known : Table UInt32 (NamespaceKey × DocumentKey)) :
    Command → Table UInt32 (NamespaceKey × DocumentKey)
  | .subscribe id space key => known.insert id (space, key)
  | .unsubscribe id => known.erase id

/-- The subscriptions that a server knows which took in some commands. -/
def replay (commands : List Command) : Table UInt32 (NamespaceKey × DocumentKey) :=
  commands.foldl Command.applyTo Table.empty

theorem replay_append (left right : List Command) :
    replay (left ++ right) = right.foldl Command.applyTo (replay left) := List.foldl_append

private theorem get?_unsubscribe (ids : List UInt32)
    (known : Table UInt32 (NamespaceKey × DocumentKey)) (id : UInt32) :
    ((ids.map Command.unsubscribe).foldl Command.applyTo known).get? id =
      if id ∈ ids then none else known.get? id := by
  induction ids generalizing known with
  | nil => simp
  | cons first rest ih =>
    rw [List.map_cons, List.foldl_cons, ih, Command.applyTo, Table.get?_erase]
    by_cases later : id ∈ rest
    · simp [later]
    · by_cases same : id = first <;> simp [later, same]

/-- A section issues the commands that make the server follow the index. -/
private theorem replay_step {client : Client} (indexed : client.cache.Indexed) (act : Section)
    (generation : (client.perform act).2.cache.generation = client.cache.generation)
    {known : Table UInt32 (NamespaceKey × DocumentKey)}
    (agree : ∀ id, known.get? id = client.cache.bySubscription.get? id) (id : UInt32) :
    ((Occurrence.issued ⟨client, act⟩).foldl Command.applyTo known).get? id =
      (client.perform act).2.cache.bySubscription.get? id := by
  have step := client.does indexed act
  generalize client.perform act = result at step generation
  cases step with
  | quiet same opened removed swept =>
    rw [Occurrence.issued_eq_nil opened removed swept, same.records.subscriptions]
    exact agree id
  | watches effect =>
    rw [effect.subscriptions, Occurrence.issued_watch]
    split
    · next new => simp [Command.applyTo, Table.get?_insert, agree, new]
    · next old => simp [agree, old]
  | unwatches effect =>
    rw [effect.subscriptions]
    exact agree id
  | @replies reply space key record _ _ located effect =>
    obtain ⟨index, _⟩ := Cache.located?_eq_some_iff.mp located
    rw [effect.subscriptions, Occurrence.issued_reply index]
    split
    · rw [List.foldl_cons, List.foldl_nil, Command.applyTo, Table.get?_insert, agree]
      split
      · next same => rw [same, index]
      · rfl
    · exact agree id
  | sweeps reached =>
    rw [Occurrence.issued_sweep reached, get?_unsubscribe, agree]
    exact (Cache.bySubscription_cleanup ..).symm
  | resets _ cache _ =>
    rw [cache] at generation
    exact absurd generation (Nat.succ_ne_self _)

/-- A server that took in the commands of the present generation knows the ids of the index. -/
theorem Run.replay_standing {start client : Client} {history : List Occurrence}
    (fresh : start.Fresh) (run : Run start history client) (id : UInt32) :
    (replay (standing history client)).get? id = client.cache.bySubscription.get? id := by
  rw [run.standing_eq fresh]
  induction run generalizing id with
  | start =>
    rw [fresh.eq]
    rfl
  | @step history client act run ih =>
    have indexed := run.indexed fresh
    rcases client.generation_or_reset indexed act with stays | reset
    · rw [current_snoc act stays, List.flatMap_append, replay_append, List.flatMap_singleton]
      exact replay_step indexed act stays ih id
    · have generation : (client.perform act).2.cache.generation = client.cache.generation + 1 := by
        rw [reset]
        rfl
      rw [(run.streaming fresh).current_reset act generation, reset]
      rfl

/-! ## One subscription -/

/-- What happened to subscriptions under one generation: which were opened and where, which the
server removed, which a sweep removed, and the commands that were issued. -/
structure Ledger where
  opened : List (UInt32 × NamespaceKey × DocumentKey) := []
  removed : List (UInt32 × NamespaceKey × DocumentKey) := []
  swept : List UInt32 := []
  commands : List Command := []

/-- The ledger of the present generation. -/
def ledger (history : List Occurrence) (client : Client) : Ledger where
  opened := (current history client).filterMap Occurrence.opened
  removed := (current history client).filterMap Occurrence.removed
  swept := (current history client).flatMap Occurrence.swept
  commands := (current history client).flatMap Occurrence.issued

namespace Ledger

/-- A ledger with one more section. -/
def add (ledger : Ledger) (occurrence : Occurrence) : Ledger where
  opened := ledger.opened ++ occurrence.opened.toList
  removed := ledger.removed ++ occurrence.removed.toList
  swept := ledger.swept ++ occurrence.swept
  commands := ledger.commands ++ occurrence.issued

/-- The commands about a subscription. -/
def about (ledger : Ledger) (id : UInt32) : List Command :=
  ledger.commands.filter (fun command => decide (command.subscription = id))

/-- How often the server removed a subscription. -/
def removals (ledger : Ledger) (id : UInt32) : Nat :=
  ledger.removed.countP (fun place => decide (place.1 = id))

/-- The commands that a subscription should have been the object of. -/
def due (ledger : Ledger) (id : UInt32) (space : NamespaceKey) (key : DocumentKey) :
    List Command :=
  List.replicate (1 + ledger.removals id) (.subscribe id space key) ++
    if id ∈ ledger.swept then [.unsubscribe id] else []

/-- Ids are given out in order, ids that were not given out did not occur, and every id that was
given out has had its commands and stands in the index until a sweep. -/
structure Balanced (ledger : Ledger) (cache : Cache) : Prop where
  placed : cache.Placed
  numbered : ledger.opened.map Prod.fst =
    (List.range ledger.opened.length).map UInt32.ofNat
  next : cache.nextSubscription = UInt32.ofNat ledger.opened.length
  unknown : ∀ id, id ∉ ledger.opened.map Prod.fst →
    ledger.about id = [] ∧ ledger.removals id = 0 ∧ id ∉ ledger.swept ∧
      cache.bySubscription.get? id = none
  known : ∀ id space key, (id, space, key) ∈ ledger.opened →
    ledger.about id = ledger.due id space key ∧
      cache.bySubscription.get? id = if id ∈ ledger.swept then none else some (space, key)

theorem Balanced.unused {ledger : Ledger} {cache : Cache} (balanced : ledger.Balanced cache)
    (few : ledger.opened.length < 2 ^ 32) :
    cache.nextSubscription ∉ ledger.opened.map Prod.fst := by
  rw [balanced.numbered, balanced.next, List.mem_map]
  rintro ⟨number, earlier, same⟩
  have bound := List.mem_range.mp earlier
  have equal := congrArg UInt32.toNat same
  simp only [UInt32.toNat_ofNat'] at equal
  omega

theorem about_add (ledger : Ledger) (occurrence : Occurrence) (id : UInt32) :
    (ledger.add occurrence).about id = ledger.about id ++
      occurrence.issued.filter (fun command => decide (command.subscription = id)) :=
  List.filter_append ..

theorem removals_add (ledger : Ledger) (occurrence : Occurrence) (id : UInt32) :
    (ledger.add occurrence).removals id = ledger.removals id +
      occurrence.removed.toList.countP (fun place => decide (place.1 = id)) :=
  List.countP_append

private theorem add_idle {ledger : Ledger} {occurrence : Occurrence}
    (opened : occurrence.opened = none) (removed : occurrence.removed = none)
    (swept : occurrence.swept = []) : ledger.add occurrence = ledger := by
  simp [add, opened, removed, swept, occurrence.issued_eq_nil opened removed swept]

private theorem Balanced.idle {ledger : Ledger} {cache after : Cache} {occurrence : Occurrence}
    (balanced : ledger.Balanced cache) (opened : occurrence.opened = none)
    (removed : occurrence.removed = none) (swept : occurrence.swept = [])
    (placed : after.Placed)
    (subscriptions : ∀ id, after.bySubscription.get? id = cache.bySubscription.get? id)
    (next : after.nextSubscription = cache.nextSubscription) :
    (ledger.add occurrence).Balanced after := by
  rw [add_idle opened removed swept]
  refine ⟨placed, balanced.numbered, next.trans balanced.next, fun id new => ?_,
    fun id space key member => ?_⟩
  · rw [subscriptions]
    exact balanced.unknown id new
  · rw [subscriptions]
    exact balanced.known id space key member

private theorem Balanced.opens {ledger : Ledger} {cache after : Cache} {occurrence : Occurrence}
    {space : NamespaceKey} {key : DocumentKey} (balanced : ledger.Balanced cache)
    (few : ledger.opened.length < 2 ^ 32)
    (opened : occurrence.opened = some (cache.nextSubscription, space, key))
    (removed : occurrence.removed = none) (swept : occurrence.swept = [])
    (placed : after.Placed)
    (subscriptions : ∀ id, after.bySubscription.get? id =
      if id = cache.nextSubscription then some (space, key) else cache.bySubscription.get? id)
    (next : after.nextSubscription = cache.nextSubscription + 1) :
    (ledger.add occurrence).Balanced after := by
  have issued : occurrence.issued = [.subscribe cache.nextSubscription space key] := by
    simp [Occurrence.issued, opened, removed, swept]
  have added : (ledger.add occurrence).opened =
      ledger.opened ++ [(cache.nextSubscription, space, key)] := by simp [add, opened]
  have sameSwept : (ledger.add occurrence).swept = ledger.swept := by simp [add, swept]
  have sameRemovals (id : UInt32) : (ledger.add occurrence).removals id = ledger.removals id := by
    simp [removals_add, removed]
  have fresh := balanced.unused few
  obtain ⟨noCommand, noRemoval, unswept, _⟩ := balanced.unknown _ fresh
  refine ⟨placed, ?_, ?_, fun id new => ?_, fun id other document member => ?_⟩
  · rw [added, List.map_append, balanced.numbered, List.length_append, List.length_singleton,
      List.range_succ, List.map_append, List.map_singleton, List.map_singleton, balanced.next]
  · rw [next, added, List.length_append, List.length_singleton, balanced.next, UInt32.ofNat_add]
    rfl
  · rw [added, List.map_append, List.mem_append, not_or] at new
    have differs : id ≠ cache.nextSubscription := by simpa using new.2
    obtain ⟨commands, removals, swept, index⟩ := balanced.unknown id new.1
    rw [about_add, issued, sameRemovals, sameSwept, subscriptions, if_neg differs]
    refine ⟨?_, removals, swept, index⟩
    simp [commands, Command.subscription, differs.symm]
  · rw [added] at member
    rw [about_add, issued, due, sameRemovals, sameSwept, subscriptions]
    rcases List.mem_append.mp member with old | new
    · have differs : id ≠ cache.nextSubscription := by
        rintro rfl
        exact fresh (List.mem_map.mpr ⟨_, old, rfl⟩)
      rw [if_neg differs]
      obtain ⟨commands, index⟩ := balanced.known id other document old
      refine ⟨?_, index⟩
      simp [commands, due, Command.subscription, differs.symm]
    · cases List.mem_singleton.mp new
      rw [noCommand, noRemoval, if_neg unswept, if_pos rfl, if_neg unswept]
      exact ⟨by simp [Command.subscription], rfl⟩

/-- An id of the index was given out for its document, and no sweep removed it. -/
theorem Balanced.standing {ledger : Ledger} {cache : Cache} (balanced : ledger.Balanced cache)
    {id : UInt32} {space : NamespaceKey} {key : DocumentKey}
    (index : cache.bySubscription.get? id = some (space, key)) :
    (id, space, key) ∈ ledger.opened ∧ id ∉ ledger.swept := by
  by_cases given : id ∈ ledger.opened.map Prod.fst
  · obtain ⟨⟨_, other, document⟩, member, same⟩ := List.mem_map.mp given
    dsimp only at same
    rw [same] at member
    have place := (balanced.known id other document member).2
    rw [index] at place
    by_cases swept : id ∈ ledger.swept
    · rw [if_pos swept] at place
      cases place
    · rw [if_neg swept] at place
      cases place
      exact ⟨member, swept⟩
  · rw [(balanced.unknown id given).2.2.2] at index
    cases index

private theorem Balanced.removes {ledger : Ledger} {cache after : Cache}
    {occurrence : Occurrence} {id : UInt32} {space : NamespaceKey} {key : DocumentKey}
    (balanced : ledger.Balanced cache) (opened : occurrence.opened = none)
    (removed : occurrence.removed = some (id, space, key)) (swept : occurrence.swept = [])
    (index : cache.bySubscription.get? id = some (space, key)) (placed : after.Placed)
    (subscriptions : after.bySubscription = cache.bySubscription)
    (next : after.nextSubscription = cache.nextSubscription) :
    (ledger.add occurrence).Balanced after := by
  have issued : occurrence.issued = [.subscribe id space key] := by
    simp [Occurrence.issued, opened, removed, swept]
  have sameOpened : (ledger.add occurrence).opened = ledger.opened := by simp [add, opened]
  have sameSwept : (ledger.add occurrence).swept = ledger.swept := by simp [add, swept]
  obtain ⟨given, unswept⟩ := balanced.standing index
  refine ⟨placed, ?_, ?_, fun other new => ?_, fun other otherSpace document member => ?_⟩
  · rw [sameOpened]
    exact balanced.numbered
  · rw [sameOpened, next]
    exact balanced.next
  · rw [sameOpened] at new
    have differs : id ≠ other := by
      rintro rfl
      exact new (List.mem_map.mpr ⟨_, given, rfl⟩)
    obtain ⟨commands, removals, notSwept, absent⟩ := balanced.unknown other new
    rw [about_add, issued, removals_add, removed, sameSwept, subscriptions]
    refine ⟨?_, ?_, notSwept, absent⟩
    · simp [commands, Command.subscription, differs]
    · simp [removals, differs]
  · rw [sameOpened] at member
    obtain ⟨commands, place⟩ := balanced.known other otherSpace document member
    rw [about_add, issued, due, removals_add, removed, sameSwept, subscriptions]
    refine ⟨?_, place⟩
    by_cases same : id = other
    · subst same
      rw [index, if_neg unswept] at place
      cases place
      rw [commands, due, if_neg unswept]
      simp [Command.subscription, ← Nat.add_assoc, List.replicate_succ']
    · simp [commands, due, Command.subscription, same]

private theorem about_unsubscribe {ids : List UInt32} (distinct : ids.Nodup) (id : UInt32) :
    (ids.map Command.unsubscribe).filter (fun command => decide (command.subscription = id)) =
      if id ∈ ids then [.unsubscribe id] else [] := by
  induction ids with
  | nil => rfl
  | cons first rest ih =>
    obtain ⟨absent, restDistinct⟩ := List.nodup_cons.mp distinct
    rw [List.map_cons, List.filter_cons, ih restDistinct]
    by_cases same : first = id
    · subst same
      simp [Command.subscription, absent]
    · simp [Command.subscription, same, Ne.symm same]

private theorem Balanced.sweeps {ledger : Ledger} {cache after : Cache} {occurrence : Occurrence}
    (balanced : ledger.Balanced cache) (opened : occurrence.opened = none)
    (removed : occurrence.removed = none) (distinct : occurrence.swept.Nodup)
    (standing : ∀ id ∈ occurrence.swept, cache.bySubscription.get? id ≠ none)
    (placed : after.Placed)
    (subscriptions : ∀ id, after.bySubscription.get? id =
      if id ∈ occurrence.swept then none else cache.bySubscription.get? id)
    (next : after.nextSubscription = cache.nextSubscription) :
    (ledger.add occurrence).Balanced after := by
  have issued : occurrence.issued = occurrence.swept.map .unsubscribe := by
    simp [Occurrence.issued, opened, removed]
  have sameOpened : (ledger.add occurrence).opened = ledger.opened := by simp [add, opened]
  have sameRemovals (id : UInt32) : (ledger.add occurrence).removals id = ledger.removals id := by
    simp [removals_add, removed]
  have added : (ledger.add occurrence).swept = ledger.swept ++ occurrence.swept := rfl
  refine ⟨placed, ?_, ?_, fun id new => ?_, fun id space key member => ?_⟩
  · rw [sameOpened]
    exact balanced.numbered
  · rw [sameOpened, next]
    exact balanced.next
  · rw [sameOpened] at new
    obtain ⟨commands, removals, notSwept, absent⟩ := balanced.unknown id new
    have kept : id ∉ occurrence.swept := fun gone => standing id gone absent
    rw [about_add, issued, about_unsubscribe distinct, sameRemovals, added, subscriptions,
      if_neg kept, if_neg kept, commands]
    exact ⟨rfl, removals, by simp [notSwept, kept], absent⟩
  · rw [sameOpened] at member
    obtain ⟨commands, place⟩ := balanced.known id space key member
    rw [about_add, issued, about_unsubscribe distinct, due, sameRemovals, added, subscriptions,
      commands, due]
    by_cases gone : id ∈ occurrence.swept
    · have notSwept : id ∉ ledger.swept := by
        intro earlier
        rw [if_pos earlier] at place
        exact standing id gone place
      simp [gone, notSwept]
    · simp [gone, place]

/-- One section keeps the ledger balanced, while ids are left to give out. -/
private theorem Balanced.step {ledger : Ledger} {client : Client}
    (indexed : client.cache.Indexed) (balanced : ledger.Balanced client.cache)
    (few : ledger.opened.length < 2 ^ 32) (act : Section)
    (stays : (client.perform act).2.cache.generation = client.cache.generation) :
    (ledger.add ⟨client, act⟩).Balanced (client.perform act).2.cache := by
  have unused := (balanced.unknown _ (balanced.unused few)).2.2.2
  have placed := client.perform_placed indexed unused balanced.placed act
  have step := client.does indexed act
  generalize client.perform act = result at step stays placed
  cases step with
  | quiet same opened removed swept =>
    exact balanced.idle opened removed swept placed
      (fun id => by rw [same.records.subscriptions]) same.records.next
  | @watches space key watcher _ _ effect =>
    cases found : client.cache.recordAt? space key with
    | none =>
      have opened : Occurrence.opened ⟨client, .watch space key watcher⟩ =
          some (client.cache.nextSubscription, space, key) := by
        simp [Occurrence.opened, found]
      refine balanced.opens few opened rfl rfl placed (fun id => ?_) ?_
      · simp [effect.subscriptions, found]
      · simp [effect.next, found]
    | some record =>
      refine balanced.idle ?_ rfl rfl placed (fun id => ?_) ?_
      · simp [Occurrence.opened, found]
      · simp [effect.subscriptions, found]
      · simp [effect.next, found]
  | unwatches effect =>
    exact balanced.idle rfl rfl rfl placed (fun id => by rw [effect.subscriptions]) effect.next
  | @replies reply space key record _ _ located effect =>
    obtain ⟨index, _⟩ := Cache.located?_eq_some_iff.mp located
    by_cases outcome : ReplyStatus.ofWatchCode reply.status = .removed
    · refine balanced.removes rfl ?_ rfl index placed effect.subscriptions effect.next
      simp [Occurrence.removed, outcome, index]
    · exact balanced.idle rfl (by simp [Occurrence.removed, outcome]) rfl placed
        (fun id => by rw [effect.subscriptions]) effect.next
  | @sweeps moment limit reached =>
    have swept : Occurrence.swept ⟨client, .sweep moment⟩ =
        client.cache.idleSubscriptions limit := by
      simp [Occurrence.swept, reached]
    refine balanced.sweeps rfl rfl ?_ (fun id gone absent => ?_) placed (fun id => ?_) rfl
    · rw [swept]
      exact balanced.placed.idleSubscriptions_nodup limit
    · rw [swept] at gone
      obtain ⟨space, key, record, found, _, rfl⟩ := Cache.mem_idleSubscriptions_iff.mp gone
      rw [balanced.placed.index found] at absent
      cases absent
    · rw [swept]
      exact Cache.bySubscription_cleanup ..
  | resets _ cache _ =>
    rw [cache] at stays
    exact absurd stays (Nat.succ_ne_self _)

private theorem balanced_empty {cache : Cache} (placed : cache.Placed)
    (subscriptions : cache.bySubscription = Table.empty) (next : cache.nextSubscription = 0) :
    ({} : Ledger).Balanced cache := by
  refine ⟨placed, rfl, next, fun id _ => ⟨rfl, rfl, by simp, ?_⟩, fun _ _ _ member => ?_⟩
  · rw [subscriptions]
    rfl
  · cases member

end Ledger

theorem ledger_snoc {history : List Occurrence} {client after : Client} (act : Section)
    (stays : after.cache.generation = client.cache.generation) :
    ledger (history ++ [⟨client, act⟩]) after = (ledger history client).add ⟨client, act⟩ := by
  rw [ledger, current_snoc act stays]
  cases opened : Occurrence.opened ⟨client, act⟩ <;>
    cases removed : Occurrence.removed ⟨client, act⟩ <;>
      simp [Ledger.add, ledger, opened, removed]

theorem Run.balanced {start client : Client} {history : List Occurrence} (fresh : start.Fresh)
    (run : Run start history client)
    (few : (ledger history client).opened.length < 2 ^ 32) :
    (ledger history client).Balanced client.cache := by
  induction run with
  | start =>
    rw [fresh.eq]
    exact Ledger.balanced_empty (fun _ _ _ found => by cases found) rfl rfl
  | @step history client act run ih =>
    have indexed := run.indexed fresh
    rcases client.generation_or_reset indexed act with stays | reset
    · rw [ledger_snoc act stays] at few ⊢
      have fewBefore : (ledger history client).opened.length < 2 ^ 32 := by
        rw [Ledger.add, List.length_append] at few
        omega
      exact (ih fewBefore).step indexed fewBefore act stays
    · have generation : (client.perform act).2.cache.generation = client.cache.generation + 1 := by
        rw [reset]
        rfl
      have none : ledger (history ++ [⟨client, act⟩]) (client.perform act).2 = {} := by
        rw [ledger, (run.streaming fresh).current_reset act generation]
        rfl
      rw [none, reset]
      exact Ledger.balanced_empty client.cache.placed_reset rfl rfl

/-- Server and client agree on the subscriptions: the commands of the present generation give the
index of ids, every subscription was the object of the commands that are due for it, every command
goes out on the present stream under the present stamp, and on the present stream there were no
others. -/
theorem subscriptions_agree {start client : Client} {history : List Occurrence}
    (fresh : start.Fresh) (run : Run start history client)
    (few : (ledger history client).opened.length < 2 ^ 32) :
    (∀ id, (replay (standing history client)).get? id = client.cache.bySubscription.get? id) ∧
    (∀ space key record, client.cache.recordAt? space key = some record →
      (record.subscription, space, key) ∈ (ledger history client).opened ∧
        record.subscription ∉ (ledger history client).swept) ∧
    (∀ id space key, (id, space, key) ∈ (ledger history client).opened →
      (standing history client).filter (fun command => decide (command.subscription = id)) =
        List.replicate (1 + (ledger history client).removals id) (.subscribe id space key) ++
          if id ∈ (ledger history client).swept then [.unsubscribe id] else []) ∧
    (∀ occurrence ∈ history, ∀ stream stamped, occurrence.sent = some (stream, stamped) →
      stamped.generation = occurrence.generation ∧
        occurrence.before.streamWorker.stream? = some stream) ∧
    (∀ stream, client.streamWorker.stream? = some stream →
      stream + 1 = client.queue.streams.length ∧
        ∀ stamped ∈ emittedOn history stream, stamped.generation = client.cache.generation) := by
  have balanced := run.balanced fresh few
  have streaming := run.streaming fresh
  refine ⟨run.replay_standing fresh, fun space key record found => ?_,
    fun id space key member => ?_, fun occurrence member stream stamped sent => ?_,
    fun stream serves => ⟨streaming.last stream serves, fun stamped out => ?_⟩⟩
  · exact balanced.standing (balanced.placed.index found)
  · rw [run.standing_eq fresh]
    exact (balanced.known id space key member).1
  · obtain ⟨earlier, before⟩ := run.reaches member
    obtain ⟨stamp, live⟩ := occurrence.sent_live sent
    exact ⟨stamp, (before.streaming fresh).live stream live⟩
  · obtain ⟨⟨_, _⟩, member, rfl⟩ := List.mem_map.mp out
    obtain ⟨sent, here⟩ := List.mem_filter.mp member
    obtain rfl : _ = stream := by simpa using here
    exact streaming.serving _ _ sent serves

/-- A document is watched, the command goes out, and the server removes the subscription. -/
private def resubscribing : List Section :=
  [.watch { root := "/srv" } { document := "a" } none, .requestStream, .poll 0,
    .reply { uid := 0, status := 6 }]

theorem subscriptions_agree_resubscribing :
    let history := Client.byDefault.occurrences resubscribing
    let client := Client.byDefault.performAll resubscribing
    (ledger history client).opened.length < 2 ^ 32 ∧
      (standing history client).filter (fun command => decide (command.subscription = 0)) =
        [.subscribe 0 { root := "/srv" } { document := "a" },
          .subscribe 0 { root := "/srv" } { document := "a" }] := by
  intro history client
  have run : Run Client.byDefault history client := Run.start.performAll resubscribing
  have few : (ledger history client).opened.length < 2 ^ 32 := by decide
  have agree := subscriptions_agree Client.byDefault_fresh run few
  refine ⟨few, (agree.2.2.1 0 { root := "/srv" } { document := "a" } ?_).trans ?_⟩
  · decide
  · decide

end ConfigWatch

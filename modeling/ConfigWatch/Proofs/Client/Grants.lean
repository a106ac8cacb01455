import ConfigWatch.Proofs.Client.Emissions
import ConfigWatch.Proofs.Client.Watchers

/-!
# What watches return

A watch with a watcher returns a pair: the id of the subscription and the id of the watcher at its
record. Whoever watches was given its place by one watch of its document under the present
generation.
-/

set_option autoImplicit false

namespace ConfigWatch

/-- The pair that a watch returned to its caller. -/
def Occurrence.granted (occurrence : Occurrence) : Option (UInt32 × UInt32) :=
  match occurrence.act with
  | .watch space key watcher =>
    match ({ occurrence.before with closed := false } : Client).register space key watcher with
    | .ok registered =>
      registered.watching.watcher.map (fun id => (registered.watching.subscription, id))
    | .error _ => none
  | _ => none

private theorem attach_fst (client : Client) (space : NamespaceKey) (key : DocumentKey)
    (record : Record) (watcher : Option (String × Reaction)) :
    (client.attach space key record watcher).1 = watcher.map (fun _ => record.nextWatcher) := by
  cases watcher <;> rfl

/-- A watch returns the ids of its record, which may be new. -/
theorem Occurrence.granted_watch (client : Client) (space : NamespaceKey) (key : DocumentKey)
    (watcher : Option (String × Reaction)) :
    Occurrence.granted ⟨client, .watch space key watcher⟩ =
      watcher.map (fun _ =>
        ((client.cache.recordFor space key 0).subscription,
          (client.cache.recordFor space key 0).nextWatcher)) := by
  obtain ⟨created, touched, clock, done⟩ :=
    Client.register_opened { client with closed := false } rfl space key watcher
  simp only [granted, done, attach_fst]
  cases found : client.cache.recordAt? space key with
  | none =>
    simp only [Cache.recordOrNew_new found, Cache.recordFor_new found]
    cases watcher <;> rfl
  | some record =>
    simp only [Cache.recordOrNew_found found, Cache.recordFor_found found]
    cases watcher <;> rfl

theorem Occurrence.watch_of_granted {occurrence : Occurrence} {pair : UInt32 × UInt32}
    (granted : occurrence.granted = some pair) :
    ∃ space key watcher, occurrence.act = .watch space key (some watcher) ∧
      pair = ((occurrence.before.cache.recordFor space key 0).subscription,
        (occurrence.before.cache.recordFor space key 0).nextWatcher) := by
  obtain ⟨client, act⟩ := occurrence
  cases act with
  | watch space key watcher =>
    rw [granted_watch] at granted
    obtain ⟨held, rfl, rfl⟩ := Option.map_eq_some_iff.mp granted
    exact ⟨space, key, held, rfl, rfl⟩
  | _ => cases granted

/-! ## One watch for each registration -/

theorem Occurrence.registrations_of_granted {occurrence : Occurrence} {pair : UInt32 × UInt32}
    (granted : occurrence.granted = some pair) :
    occurrence.after.registrations = occurrence.before.registrations + 1 := by
  obtain ⟨client, act⟩ := occurrence
  obtain ⟨space, key, watcher, same, _⟩ := watch_of_granted granted
  dsimp only at same
  subst same
  obtain ⟨initial, after, result, effect⟩ := client.perform_watch space key (some watcher)
  rw [Occurrence.after, result]
  exact effect.registrations

theorem Run.lt_registrations {start client : Client} {history : List Occurrence}
    (fresh : start.Fresh) (run : Run start history client) {occurrence : Occurrence}
    (member : occurrence ∈ history) {pair : UInt32 × UInt32}
    (granted : occurrence.granted = some pair) :
    occurrence.before.registrations < client.registrations := by
  induction run with
  | start => cases member
  | @step history client act run ih =>
    have grown := client.registrations_le (run.indexed fresh) act
    rcases List.mem_append.mp member with old | new
    · exact (ih old).trans_le grown
    · obtain rfl := List.mem_singleton.mp new
      have counted := Occurrence.registrations_of_granted granted
      rw [Occurrence.after] at counted
      dsimp only at counted ⊢
      omega

/-- Two watches never make the same registration. -/
theorem Run.granted_unique {start client : Client} {history : List Occurrence}
    (fresh : start.Fresh) (run : Run start history client) {left right : Occurrence}
    (leftMember : left ∈ history) (rightMember : right ∈ history)
    {leftPair rightPair : UInt32 × UInt32} (leftGranted : left.granted = some leftPair)
    (rightGranted : right.granted = some rightPair)
    (same : left.before.registrations = right.before.registrations) : left = right := by
  induction run with
  | start => cases leftMember
  | @step history client act run ih =>
    rcases List.mem_append.mp leftMember with leftOld | leftNew
    · have leftBelow := run.lt_registrations fresh leftOld leftGranted
      rcases List.mem_append.mp rightMember with rightOld | rightNew
      · exact ih leftOld rightOld
      · obtain rfl := List.mem_singleton.mp rightNew
        dsimp only at same
        omega
    · obtain rfl := List.mem_singleton.mp leftNew
      rcases List.mem_append.mp rightMember with rightOld | rightNew
      · have rightBelow := run.lt_registrations fresh rightOld rightGranted
        dsimp only at same
        omega
      · exact (List.mem_singleton.mp rightNew).symm

/-! ## Who was given a seat -/

/-- A section gave a watcher its place at the record of a document. -/
structure Occurrence.Seats (occurrence : Occurrence) (space : NamespaceKey) (key : DocumentKey)
    (subscription id : UInt32) (watcher : Watcher) : Prop where
  act : occurrence.act = .watch space key (some (watcher.label, watcher.reaction))
  registration : occurrence.before.registrations = watcher.registration
  granted : occurrence.granted = some (subscription, id)

/-- Every seat was given by a section of the present generation. -/
def Traced (history : List Occurrence) (client : Client) : Prop :=
  ∀ space key rest id watcher, client.cache.restAt? space key = some rest →
    rest.watchers.get? id = some watcher →
    ∃ occurrence ∈ current history client,
      occurrence.Seats space key rest.subscription id watcher

private theorem Traced.snoc {history : List Occurrence} {client after : Client} {act : Section}
    (stays : after.cache.generation = client.cache.generation) {space : NamespaceKey}
    {key : DocumentKey} {subscription id : UInt32} {watcher : Watcher}
    (given : ∃ occurrence ∈ current history client,
      occurrence.Seats space key subscription id watcher) :
    ∃ occurrence ∈ current (history ++ [⟨client, act⟩]) after,
      occurrence.Seats space key subscription id watcher := by
  obtain ⟨occurrence, member, seats⟩ := given
  rw [current_snoc act stays]
  exact ⟨occurrence, List.mem_append_left _ member, seats⟩

private theorem Traced.step {history : List Occurrence} {client : Client}
    (indexed : client.cache.Indexed) (traced : Traced history client) (act : Section)
    (stays : (client.perform act).2.cache.generation = client.cache.generation) :
    Traced (history ++ [⟨client, act⟩]) (client.perform act).2 := by
  intro space key rest id watcher found sits
  cases client.yields indexed found with
  | kept there => exact Traced.snoc stays (traced space key rest id watcher there sits)
  | @watched joining same =>
    rw [same] at sits ⊢
    rw [Record.subscription_joined]
    have before (held : (client.cache.recordFor space key 0).watchers.get? id = some watcher) :
        ∃ occurrence ∈ current history client, occurrence.Seats space key
          (client.cache.recordFor space key 0).subscription id watcher := by
      cases present : client.cache.recordAt? space key with
      | none =>
        rw [Cache.recordFor_new present] at held
        cases held
      | some record =>
        rw [Cache.recordFor_found present] at held ⊢
        exact traced space key record.atRest id watcher (Cache.restAt?_eq_some present) held
    cases joining with
    | none => exact Traced.snoc stays (before sits)
    | some joining =>
      obtain ⟨label, reaction⟩ := joining
      simp only [Record.joined, Record.addWatcher, Record.atRest, Table.get?_insert] at sits
      split at sits
      · next new =>
        obtain rfl := Option.some.inj sits
        refine ⟨⟨client, .watch space key (some (label, reaction))⟩, ?_, rfl, rfl, ?_⟩
        · rw [current_snoc _ stays]
          exact List.mem_append_right _ (List.mem_singleton_self _)
        · rw [Occurrence.granted_watch, new]
          rfl
      · exact Traced.snoc stays (before sits)
  | @unwatched _ _ earlier _ there same =>
    rw [same] at sits ⊢
    simp only [Record.removeWatcher, Table.get?_erase] at sits
    split at sits
    · cases sits
    · exact Traced.snoc stays (traced space key earlier id watcher there sits)
  | @replied reply earlier _ there same =>
    have answered := client.verdict_answered reply earlier
    rw [same] at sits ⊢
    rw [answered.watchers] at sits
    rw [answered.subscription]
    exact Traced.snoc stays (traced space key earlier id watcher there sits)

theorem Run.traced {start client : Client} {history : List Occurrence} (fresh : start.Fresh)
    (run : Run start history client) : Traced history client := by
  induction run with
  | start =>
    rw [fresh.eq]
    intro _ _ _ _ _ found
    cases found
  | @step history client act run ih =>
    have indexed := run.indexed fresh
    rcases client.generation_or_reset indexed act with stays | reset
    · exact ih.step indexed act stays
    · rw [Traced, reset]
      intro _ _ _ _ _ found
      cases found

end ConfigWatch

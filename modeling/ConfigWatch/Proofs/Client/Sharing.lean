import ConfigWatch.Proofs.Cache.Catalogue
import ConfigWatch.Proofs.Client.Identity

/-!
# Sharing

Contents of one checksum are meant to be one object. That is so until the index by checksum is cut
down while a record still holds what it drops: a later payload of the same checksum then is decoded
again. Exactly then a cache can hold two objects of one checksum.
-/

set_option autoImplicit false

namespace ConfigWatch

namespace Client

/-! ## What sections do to the catalogue -/

/-- What a section does to the catalogue. -/
inductive Catalogues (client : Client) (after : Cache) : Section → Prop where
  | files {act : Section} :
      Cache.Files client.cache after ((Occurrence.stored ⟨client, act⟩).map Stored.content) →
      Catalogues client after act
  | sweeps {moment limit : Instant} : after = (client.cache.cleanup limit).2 →
      Catalogues client after (.sweep moment)
  | resets {act : Section} : Occurrence.stored ⟨client, act⟩ = none →
      after = client.cache.reset.2 → Catalogues client after act

private theorem catalogue_changeRecord (client : Client) (id : UInt32)
    (change : Record → List Notification × Record) :
    (client.changeRecord id change).2.cache.catalogue = client.cache.catalogue :=
  Cache.catalogue_changeRecord ..

private theorem catalogue_touchAt (client : Client) (space : NamespaceKey) (key : DocumentKey) :
    (client.touchAt space key).cache.catalogue = client.cache.catalogue :=
  Cache.catalogue_touchRecord ..

private theorem catalogue_attach (client : Client) (space : NamespaceKey) (key : DocumentKey)
    (record : Record) (watcher : Option (String × Reaction)) :
    (client.attach space key record watcher).2.2.cache.catalogue = client.cache.catalogue := by
  cases watcher <;> rfl

private theorem catalogue_register {client : Client} {space : NamespaceKey} {key : DocumentKey}
    {watcher : Option (String × Reaction)} {registered : Registered}
    (accepted : client.register space key watcher = .ok registered) :
    registered.client.cache.catalogue = client.cache.catalogue := by
  obtain ⟨created, touched, clock, done⟩ :=
    register_opened client (open_of_register accepted) space key watcher
  rw [accepted] at done
  have ready := (Cache.catalogue_touchRecord (client.cache.recordOrNew space key created).2.2
    space key touched).trans (Cache.catalogue_recordOrNew ..)
  cases done
  dsimp only
  split
  · exact (catalogue_attach { client with cache := _, clock } ..).trans ready
  · exact (catalogue_attach { client with cache := _, clock } ..).trans ready

private theorem catalogue_unwatch (client : Client) (subscription watcher : UInt32) :
    (client.unwatch subscription watcher).2.cache.catalogue = client.cache.catalogue := by
  unfold unwatch
  split <;> rfl

private theorem catalogue_beginRead (client : Client) (space : NamespaceKey) (key : DocumentKey)
    (pinned : Option Version) :
    (client.beginRead space key pinned).2.cache.catalogue = client.cache.catalogue := by
  rcases client.beginRead_cases space key pinned with same | ⟨reply, after, found, same⟩
  · rw [same]
  · rw [same]
    cases found with
    | latest => exact client.catalogue_touchAt space key
    | pinned read => exact Cache.catalogue_readVersion read

private theorem catalogue_applyRemoval (client : Client) (id : UInt32) (space : NamespaceKey)
    (key : DocumentKey) :
    (client.applyRemoval id space key).cache.catalogue = client.cache.catalogue := by
  have touched := client.catalogue_touchAt space key
  rcases client.applyRemoval_cases id space key with done | done <;> rw [done] <;> exact touched

private theorem applyContent_files {client : Client} (labelled : client.cache.Labelled)
    (reply : WatchResponse) (space : NamespaceKey) (key : DocumentKey) :
    Cache.Files client.cache (client.applyContent reply space key).2.cache
      (client.resolved? reply.checksum reply.nodes) := by
  rw [applyContent_stages, client.resolved?_eq reply.checksum reply.nodes client.clock.read.1]
  cases found : client.cache.resolve reply.checksum
      (fun _ => client.decodePayload reply.nodes) client.clock.read.1 with
  | error cause => exact .keeps (catalogue_changeRecord ..)
  | ok result =>
    have stored := Cache.resolve_files labelled.checksums found
    exact stored.andKeeps ((catalogue_changeRecord ..).trans
      (catalogue_touchAt (client.holding _ _) ..))

theorem reply_files {client : Client} (labelled : client.cache.Labelled)
    (reply : WatchResponse) :
    Cache.Files client.cache (client.applyReply reply).2.cache
      ((Occurrence.stored ⟨client, .reply reply⟩).map Stored.content) := by
  unfold applyReply
  split
  · next unknown =>
    simp only [Occurrence.stored, unknown, Option.bind_none, ite_self, Option.map_none]
    exact .keeps rfl
  · next space key index =>
    split
    · next removed =>
      simp only [Occurrence.stored, removed, reduceCtorEq, if_false, Option.map_none]
      exact .keeps (client.catalogue_applyRemoval ..)
    · next good =>
      simp only [Occurrence.stored, good, index, if_true, Option.bind_some, Option.map_map]
      have same : Stored.content ∘ (fun content : Content =>
          ⟨space, key, ⟨reply.namespaceId, reply.version⟩, content⟩) = id := rfl
      rw [same, Option.map_id, id]
      exact applyContent_files labelled reply space key
    · next bad =>
      simp only [Occurrence.stored, if_neg bad, Option.map_none]
      exact .keeps ((catalogue_changeRecord ..).trans (client.catalogue_touchAt ..))

theorem finishRead_files {client : Client} (labelled : client.cache.Labelled)
    (pending : PendingRead) (response : Except Error ReadResponse) :
    Cache.Files client.cache (client.finishRead pending response).2.cache
      ((Occurrence.stored ⟨client, .finishRead pending response⟩).map Stored.content) := by
  have finished := client.finishesRead pending response
  unfold Occurrence.stored
  dsimp only
  generalize client.finishRead pending response = result at finished ⊢
  cases finished with
  | @leaves _ outcome empty =>
    cases outcome with
    | error cause => exact .keeps rfl
    | ok reply =>
      simp only [empty reply rfl, Option.map_none]
      exact .keeps rfl
  | stores resolved version content =>
    simp only [content, Option.map_some]
    exact (Cache.resolve_files labelled.checksums resolved).andKeeps rfl

theorem perform_catalogues {client : Client} (labelled : client.cache.Labelled) (act : Section) :
    client.Catalogues (client.perform act).2.cache act := by
  cases act with
  | watch space key watcher =>
    simp only [perform]
    split
    · exact .files (.keeps rfl)
    · next accepted =>
      have same := catalogue_register accepted
      exact .files (.keeps same)
  | unwatch subscription watcher =>
    exact .files (.keeps (client.catalogue_unwatch subscription watcher))
  | beginRead space key pinned =>
    have same := ({ client with closed := false } : Client).catalogue_beginRead space key pinned
    exact .files (.keeps same)
  | finishRead pending response => exact .files (finishRead_files labelled pending response)
  | reply reply => exact .files (reply_files labelled reply)
  | sweep moment =>
    cases reached : client.clock.before? moment
        client.settings.inactivityThresholdSeconds.toNat with
    | none =>
      simp only [perform, sweepAt_unreached reached]
      exact .files (.keeps rfl)
    | some limit =>
      simp only [perform, sweepAt_eq reached]
      exact .sweeps rfl
  | failStream =>
    simp only [perform]
    split
    · next serving =>
      simp only [cancelOutbound, serving]
      exact .resets rfl rfl
    · next serving =>
      simp only [cancelOutbound, serving]
      exact .resets rfl rfl
    · exact .files (.keeps rfl)
  | finishClose =>
    simp only [perform]
    split
    · exact .resets rfl rfl
    · exact .files (.keeps rfl)
  | requestStream | openStream | startSweeps | scheduleSweep =>
    simp only [perform]
    split <;> exact .files (.keeps rfl)
  | cancelStream =>
    simp only [perform, cancelOutbound]
    split <;> exact .files (.keeps rfl)
  | stopStreamWorker =>
    simp only [perform, stopStreamWorker]
    split
    · split <;> exact .files (.keeps rfl)
    · exact .files (.keeps rfl)
  | stopSweepWorker =>
    simp only [perform, stopSweepWorker]
    split
    · split <;> exact .files (.keeps rfl)
    · exact .files (.keeps rfl)
  | poll | dropStream | beginClose | note | setClock => exact .files (.keeps rfl)

/-- What a client holds after a section it held before, or the section stored it. -/
theorem holds_of_perform {client : Client} (indexed : client.cache.Indexed) {act : Section}
    {content : Content} (holds : (client.perform act).2.cache.Holds content) :
    client.cache.Holds content ∨
      (Occurrence.stored ⟨client, act⟩).map Stored.content = some content := by
  cases holds with
  | latest found latest =>
    rcases latest_of_perform indexed (Cache.restAt?_eq_some found) latest with
      ⟨rest, earlier, held⟩ | stored
    · obtain ⟨record, there, rfl⟩ := Cache.exists_recordAt? earlier
      exact .inl (.latest there held)
    · exact .inr (by rw [stored, Option.map_some])
  | entered here =>
    rcases (client.perform_gains act).entered _ _ _ _ here with there | stored
    · exact .inl (.entered there)
    · exact .inr (Option.map_eq_some_iff.mpr ⟨_, stored, rfl⟩)
  | indexed here =>
    rcases (client.perform_gains act).indexed _ _ here with there | ⟨gain, stored, same, _⟩
    · exact .inl (.indexed there)
    · exact .inr (Option.map_eq_some_iff.mpr ⟨gain, stored, same⟩)

end Client

/-! ## Objects of one checksum -/

/-- Held contents of one checksum are one object. -/
def Cache.Shares (cache : Cache) : Prop :=
  ∀ left right, cache.Holds left → cache.Holds right → left.checksum = right.checksum →
    left = right

/-- A section decodes a second content of a checksum, since the index has lost the one held. -/
structure Occurrence.Doubles (occurrence : Occurrence) (old new : Content) : Prop where
  held : occurrence.before.cache.Holds old
  same : old.checksum = new.checksum
  lost : occurrence.before.cache.byChecksum.get? new.checksum = none
  stored : occurrence.stored.map Stored.content = some new

/-- A sweep drops a content that is held on from an index above the capacity. -/
structure Occurrence.Drops (occurrence : Occurrence) (content : Content) : Prop where
  sweep : ∃ moment, occurrence.act = .sweep moment
  full : occurrence.before.cache.capacity < occurrence.before.cache.byChecksum.size
  indexed : occurrence.before.cache.byChecksum.get? content.checksum = some content
  dropped : occurrence.after.cache.byChecksum.get? content.checksum = none
  held : occurrence.after.cache.Holds content

theorem Occurrence.Doubles.decoded {occurrence : Occurrence} {old new : Content}
    (doubles : occurrence.Doubles old new) (labelled : occurrence.before.cache.Labelled) :
    new.id = occurrence.before.cache.touches.size := by
  obtain ⟨client, act⟩ := occurrence
  have stored := doubles.stored
  cases Client.perform_catalogues labelled act with
  | sweeps => cases stored
  | resets none =>
    rw [none] at stored
    cases stored
  | files files =>
    rw [stored] at files
    cases files with
    | finds found _ =>
      have lost := doubles.lost
      rw [found] at lost
      cases lost
    | decodes _ own _ => exact own

theorem Cache.not_holds_of_empty {cache : Cache} (namespaces : cache.namespaces = Table.empty)
    (index : cache.byChecksum = Table.empty) (content : Content) : ¬ cache.Holds content := by
  intro holds
  cases holds with
  | latest found _ =>
    rw [recordAt?, namespaces] at found
    cases found
  | entered here =>
    rw [contentAt?, namespaces] at here
    cases here
  | indexed here =>
    rw [index] at here
    cases here

theorem Cache.not_holds_reset (cache : Cache) (content : Content) :
    ¬ cache.reset.2.Holds content :=
  Cache.not_holds_of_empty rfl rfl content

namespace Client

/-- How a client comes to hold a content: it held it before, or decoded it just now. -/
inductive Brings (client : Client) (act : Section) (content : Content) : Prop where
  | old : client.cache.Holds content → Brings client act content
  | new : (Occurrence.stored ⟨client, act⟩).map Stored.content = some content →
      client.cache.byChecksum.get? content.checksum = none →
      content.id = client.cache.touches.size →
      content.id < (client.perform act).2.cache.touches.size →
      (client.perform act).2.cache.byChecksum.get? content.checksum = some content →
      Brings client act content

theorem brings {client : Client} (indexed : client.cache.Indexed)
    (labelled : client.cache.Labelled) {act : Section} {content : Content}
    (holds : (client.perform act).2.cache.Holds content) : client.Brings act content := by
  rcases holds_of_perform indexed holds with there | stored
  · exact .old there
  · cases perform_catalogues labelled act with
    | sweeps => cases stored
    | resets _ same =>
      rw [same] at holds
      exact absurd holds (Cache.not_holds_reset _ _)
    | files files =>
      rw [stored] at files
      cases files with
      | finds found _ => exact .old (.indexed found)
      | decodes lost own new =>
        have index := congrArg Catalogue.index new
        have decoded := congrArg Catalogue.decoded new
        simp only [Cache.catalogue] at index decoded
        refine .new stored lost own ?_ ?_
        · rw [own, decoded]
          exact Nat.lt_succ_self _
        · rw [index, Table.get?_insert, if_pos rfl]

theorem touches_le_perform {client : Client} (labelled : client.cache.Labelled) (act : Section) :
    client.cache.touches.size ≤ (client.perform act).2.cache.touches.size := by
  cases perform_catalogues labelled act with
  | sweeps same => rw [same]; exact Nat.le_refl _
  | resets _ same => rw [same]; exact Nat.le_refl _
  | files files =>
    generalize (Occurrence.stored ⟨client, act⟩).map Stored.content = stored at files
    cases files with
    | keeps same | finds _ same => exact Nat.le_of_eq (congrArg Catalogue.decoded same).symm
    | decodes _ _ new =>
      have decoded := congrArg Catalogue.decoded new
      simp only [Cache.catalogue] at decoded
      rw [decoded]
      exact Nat.le_succ _

/-- A content of the index that is held on stays there, unless a sweep drops it. -/
theorem indexed_or_drops {client : Client} (labelled : client.cache.Labelled) {act : Section}
    {content : Content}
    (indexed : client.cache.byChecksum.get? content.checksum = some content)
    (holds : (client.perform act).2.cache.Holds content) :
    (client.perform act).2.cache.byChecksum.get? content.checksum = some content ∨
      Occurrence.Drops ⟨client, act⟩ content := by
  cases perform_catalogues labelled act with
  | resets _ same =>
    rw [same] at holds
    exact absurd holds (Cache.not_holds_reset _ _)
  | @sweeps moment limit same =>
    cases left : (client.perform (.sweep moment)).2.cache.byChecksum.get? content.checksum with
    | some found =>
      rw [same] at left
      rw [Cache.get?_cleanup left] at indexed
      exact .inl indexed
    | none =>
      refine .inr ⟨⟨moment, rfl⟩, Nat.lt_of_not_le (fun within => ?_), indexed, left, holds⟩
      rw [same, Cache.get?_cleanup_within within, indexed] at left
      cases left
  | files files =>
    generalize (Occurrence.stored ⟨client, act⟩).map Stored.content = stored at files
    cases files with
    | keeps same | finds _ same =>
      have index := congrArg Catalogue.index same
      simp only [Cache.catalogue] at index
      rw [index]
      exact .inl indexed
    | @decodes other lost _ new =>
      have index := congrArg Catalogue.index new
      simp only [Cache.catalogue] at index
      rw [index, Table.get?_insert, if_neg]
      · exact .inl indexed
      · intro same
        rw [← same, indexed] at lost
        cases lost

end Client

/-- What is known of the contents that a cache holds after a history. -/
structure Cache.Recounts (cache : Cache) (history : List Occurrence) : Prop where
  decoded : ∀ content, cache.Holds content → content.id < cache.touches.size
  distinct : ∀ left right, cache.Holds left → cache.Holds right → left.id = right.id →
    left = right
  doubled : ∀ old new, cache.Holds old → cache.Holds new → old.checksum = new.checksum →
    old.id < new.id → ∃ occurrence ∈ history, occurrence.Doubles old new
  dropped : ∀ content, cache.Holds content →
    cache.byChecksum.get? content.checksum = some content ∨
      ∃ sweep ∈ history, sweep.generation = cache.generation ∧ sweep.Drops content

theorem Cache.Recounts.perform {client : Client} {history : List Occurrence} {act : Section}
    (recounts : client.cache.Recounts history) (indexed : client.cache.Indexed)
    (labelled : client.cache.Labelled) :
    (client.perform act).2.cache.Recounts (history ++ [⟨client, act⟩]) := by
  have brings (content : Content) (holds : (client.perform act).2.cache.Holds content) :
      client.Brings act content := Client.brings indexed labelled holds
  constructor
  · intro content holds
    cases brings content holds with
    | old there =>
      exact (recounts.decoded content there).trans_le (Client.touches_le_perform labelled act)
    | new _ _ _ below _ => exact below
  · intro left right leftHolds rightHolds same
    cases brings left leftHolds with
    | old leftThere =>
      cases brings right rightHolds with
      | old rightThere => exact recounts.distinct left right leftThere rightThere same
      | new _ _ own _ _ =>
        have below := recounts.decoded left leftThere
        omega
    | new leftStored _ own _ _ =>
      cases brings right rightHolds with
      | old rightThere =>
        have below := recounts.decoded right rightThere
        omega
      | new rightStored _ _ _ _ =>
        rw [leftStored] at rightStored
        exact Option.some.inj rightStored
  · intro old new oldHolds newHolds same earlier
    cases brings new newHolds with
    | old newThere =>
      have newBelow := recounts.decoded new newThere
      cases brings old oldHolds with
      | old oldThere =>
        obtain ⟨occurrence, member, doubles⟩ :=
          recounts.doubled old new oldThere newThere same earlier
        exact ⟨occurrence, List.mem_append_left _ member, doubles⟩
      | new _ _ own _ _ => omega
    | new stored lost newOwn _ _ =>
      cases brings old oldHolds with
      | old oldThere =>
        exact ⟨⟨client, act⟩, List.mem_append_right _ (List.mem_singleton_self _),
          oldThere, same, lost, stored⟩
      | new _ _ oldOwn _ _ => omega
  · intro content holds
    cases brings content holds with
    | new _ _ _ _ found => exact .inl found
    | old there =>
      -- A cache that starts afresh holds nothing, so the generation is still the same.
      have generation : (client.perform act).2.cache.generation = client.cache.generation := by
        rcases Client.generation_or_reset indexed act with same | reset
        · exact same
        · rw [reset] at holds
          exact absurd holds (Cache.not_holds_reset _ _)
      rw [generation]
      rcases recounts.dropped content there with found | ⟨sweep, member, drops⟩
      · rcases Client.indexed_or_drops labelled found holds with still | drops
        · exact .inl still
        · exact .inr ⟨⟨client, act⟩, List.mem_append_right _ (List.mem_singleton_self _), rfl,
            drops⟩
      · exact .inr ⟨sweep, List.mem_append_left _ member, drops⟩

/-- Two objects of one checksum are an older one and a newer one that doubled it. -/
theorem Cache.Recounts.shares_of_undoubled {cache : Cache} {history : List Occurrence}
    (recounts : cache.Recounts history)
    (undoubled : ∀ occurrence ∈ history, ∀ old new, occurrence.Doubles old new →
      ¬ (cache.Holds old ∧ cache.Holds new)) : cache.Shares := by
  intro left right leftHolds rightHolds same
  by_contra differ
  rcases Nat.lt_trichotomy left.id right.id with earlier | equal | later
  · obtain ⟨occurrence, member, doubles⟩ :=
      recounts.doubled left right leftHolds rightHolds same earlier
    exact undoubled occurrence member left right doubles ⟨leftHolds, rightHolds⟩
  · exact differ (recounts.distinct left right leftHolds rightHolds equal)
  · obtain ⟨occurrence, member, doubles⟩ :=
      recounts.doubled right left rightHolds leftHolds same.symm later
    exact undoubled occurrence member right left doubles ⟨rightHolds, leftHolds⟩

/-- Where no sweep dropped what is held, the index has it all. -/
theorem Cache.Recounts.shares_of_undropped {cache : Cache} {history : List Occurrence}
    (recounts : cache.Recounts history)
    (undropped : ∀ sweep ∈ history, sweep.generation = cache.generation →
      ∀ content, ¬ sweep.Drops content) : cache.Shares := by
  have indexed : ∀ content, cache.Holds content →
      cache.byChecksum.get? content.checksum = some content := by
    intro content holds
    rcases recounts.dropped content holds with found | ⟨sweep, member, present, drops⟩
    · exact found
    · exact absurd drops (undropped sweep member present content)
  intro left right leftHolds rightHolds same
  have found := indexed left leftHolds
  rw [same, indexed right rightHolds] at found
  exact (Option.some.inj found).symm

section

variable {start client : Client} {history : List Occurrence}

theorem Run.recounts (fresh : start.Fresh) (run : Run start history client) :
    client.cache.Recounts history := by
  induction run with
  | start =>
    have empty : ∀ content, ¬ start.cache.Holds content := by
      rw [fresh.eq]
      exact Cache.not_holds_of_empty rfl rfl
    exact ⟨fun _ holds => absurd holds (empty _), fun _ _ holds => absurd holds (empty _),
      fun _ _ holds => absurd holds (empty _), fun _ holds => absurd holds (empty _)⟩
  | step act run ih => exact ih.perform (run.indexed fresh) (run.labelled fresh)

/-- What doubles a content is decoded after it. -/
theorem Run.older_of_doubles (fresh : start.Fresh) (run : Run start history client)
    {occurrence : Occurrence} (member : occurrence ∈ history) {old new : Content}
    (doubles : occurrence.Doubles old new) : old.id < new.id := by
  obtain ⟨earlier, before⟩ := run.reaches member
  rw [doubles.decoded (before.labelled fresh)]
  exact (before.recounts fresh).decoded old doubles.held

theorem Run.dropped_of_doubles (fresh : start.Fresh) (run : Run start history client)
    {earlier later : List Occurrence} {occurrence : Occurrence}
    (split : history = earlier ++ occurrence :: later) {old new : Content}
    (doubles : occurrence.Doubles old new) :
    ∃ sweep ∈ earlier, sweep.generation = occurrence.generation ∧ sweep.Drops old := by
  have before := (run.before split).recounts fresh
  rcases before.dropped old doubles.held with found | dropped
  · rw [doubles.same, doubles.lost] at found
    cases found
  · exact dropped

/-- A cache holds two objects of one checksum if and only if a section doubled a content that it
still holds. A section doubles a content only after a sweep of the same generation dropped it from
an index above the capacity while it was held on; in a generation without such a sweep all contents
of one checksum are one object. -/
theorem shares_iff_undoubled (fresh : start.Fresh) (run : Run start history client) :
    (client.cache.Shares ↔ ∀ occurrence ∈ history, ∀ old new, occurrence.Doubles old new →
      ¬ (client.cache.Holds old ∧ client.cache.Holds new)) ∧
    (∀ earlier occurrence later, history = earlier ++ occurrence :: later →
      ∀ old new, occurrence.Doubles old new →
        ∃ sweep ∈ earlier, sweep.generation = occurrence.generation ∧ sweep.Drops old) ∧
    ((∀ sweep ∈ history, sweep.generation = client.cache.generation →
      ∀ content, ¬ sweep.Drops content) → client.cache.Shares) ∧
    (∀ left right, client.cache.Holds left → client.cache.Holds right → left.id = right.id →
      left = right) := by
  have recounts := run.recounts fresh
  refine ⟨⟨?_, recounts.shares_of_undoubled⟩, ?_, recounts.shares_of_undropped,
    recounts.distinct⟩
  · intro shares occurrence member old new doubles holds
    have older := run.older_of_doubles fresh member doubles
    rw [shares old new holds.1 holds.2 doubles.same] at older
    exact Nat.lt_irrefl _ older
  · intro earlier occurrence later split old new doubles
    exact run.dropped_of_doubles fresh split doubles

end

/-- The id and the checksum of the content that the record of a document holds. -/
private def Client.heldAt? (client : Client) (key : DocumentKey) : Option (Nat × Bytes) :=
  (client.cache.recordAt? { root := "/srv" } key).bind (fun record =>
    record.latest.map (fun held => (held.2.id, held.2.checksum)))

private theorem Client.holds_of_heldAt? {client : Client} {key : DocumentKey} {id : Nat}
    {checksum : Bytes} (held : client.heldAt? key = some (id, checksum)) :
    ∃ content, client.cache.Holds content ∧ content.id = id ∧ content.checksum = checksum := by
  obtain ⟨record, found, shown⟩ := Option.bind_eq_some_iff.mp held
  obtain ⟨⟨version, content⟩, latest, same⟩ := Option.map_eq_some_iff.mp shown
  cases same
  exact ⟨content, .latest found latest, rfl, rfl⟩

/-- Two documents are watched. -/
private def watchingTwo : List Section :=
  [.watch { root := "/srv" } { document := "a" } (some ("A", .idle)),
    .watch { root := "/srv" } { document := "b" } (some ("B", .idle))]

/-- The server sends a number to a subscription, with the checksum of a byte. -/
private def sends (id : UInt32) (version : UInt32) (number : UInt8) : Section :=
  .reply
    { uid := id, namespaceId := 1, version, checksum := [number]
      nodes := [{ valueType := 4, int := number.toInt8.toInt64 }] }

/-- Both documents get one checksum, with a sweep in between. -/
private def sweptBetween : List Section :=
  watchingTwo ++ [sends 0 1 1, .sweep 61000000000, sends 1 1 1]

theorem shares_iff_undoubled_swept_between :
    let client := Client.byDefault.performAll sweptBetween
    client.cache.Shares ∧ ∃ content, client.cache.Holds content ∧ content.id = 0 := by
  intro client
  have run : Run Client.byDefault (Client.byDefault.occurrences sweptBetween) client :=
    Run.start.performAll sweptBetween
  obtain ⟨-, -, shares, -⟩ := shares_iff_undoubled Client.byDefault_fresh run
  constructor
  · apply shares
    intro sweep member _ content drops
    obtain ⟨moment, act⟩ := drops.sweep
    simp only [sweptBetween, watchingTwo, sends, List.cons_append, List.nil_append,
      Client.occurrences, List.mem_cons, List.not_mem_nil, or_false] at member
    rcases member with rfl | rfl | rfl | rfl | rfl
    · cases act
    · cases act
    · cases act
    · exact absurd drops.full (by decide +kernel)
    · cases act
  · have held : client.heldAt? { document := "b" } = some (0, [1]) := by decide +kernel
    obtain ⟨content, holds, own, _⟩ := Client.holds_of_heldAt? held
    exact ⟨content, holds, own⟩

/-- A client whose index takes one content. -/
private def cramped : Client := { settings := { capacity := 1 }, cache := { capacity := 1 } }

/-- Two checksums are too many for the index, so that a sweep drops both. -/
private def filling : List Section := watchingTwo ++ [sends 0 1 1, sends 1 1 2]

/-- The second document gets the checksum that the first one still holds. -/
private def overflowing : List Section := filling ++ [.sweep 61000000000, sends 1 2 1]

private theorem heldAt?_overflowing :
    (cramped.performAll overflowing).cache.generation = 0 ∧
      (cramped.performAll overflowing).heldAt? { document := "a" } = some (0, [1]) ∧
      (cramped.performAll overflowing).heldAt? { document := "b" } = some (2, [1]) := by
  have reached : (cramped.performAll filling).clock.before? 61000000000
      (cramped.performAll filling).settings.inactivityThresholdSeconds.toNat =
        some 1000000000 := by decide +kernel
  have full : ((cramped.performAll filling).cache.dropIdle 1000000000).capacity <
      ((cramped.performAll filling).cache.dropIdle 1000000000).byChecksum.size := by
    decide +kernel
  have emptied := Cache.trim_empties full (by decide +kernel)
  have split : cramped.performAll overflowing =
      (((cramped.performAll filling).perform (.sweep 61000000000)).2.perform (sends 1 2 1)).2 :=
    rfl
  rw [split, Client.perform, Client.sweepAt_eq reached, Cache.cleanup, emptied]
  refine ⟨?_, ?_, ?_⟩
  · decide +kernel
  · decide +kernel
  · decide +kernel

/-- One generation with two objects of one checksum. -/
theorem not_shares_overflowing :
    cramped.Fresh ∧
    Run cramped (cramped.occurrences overflowing) (cramped.performAll overflowing) ∧
    (cramped.performAll overflowing).cache.generation = 0 ∧
    ¬ (cramped.performAll overflowing).cache.Shares := by
  obtain ⟨generation, first, second⟩ := heldAt?_overflowing
  refine ⟨⟨{ capacity := 1 }, {}, rfl⟩, Run.start.performAll overflowing, generation, ?_⟩
  intro shares
  obtain ⟨left, leftHolds, leftId, leftSum⟩ := Client.holds_of_heldAt? first
  obtain ⟨right, rightHolds, rightId, rightSum⟩ := Client.holds_of_heldAt? second
  have same := shares left right leftHolds rightHolds (leftSum.trans rightSum.symm)
  rw [same, rightId] at leftId
  cases leftId

end ConfigWatch

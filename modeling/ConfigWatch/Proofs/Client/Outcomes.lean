import ConfigWatch.Proofs.Client.Coherence

/-!
# What records show along a run

What a record shows changes by replies alone. It shows an outcome just when some reply other than a
removal was for it, and no such reply takes the outcome away again.
-/

set_option autoImplicit false

namespace ConfigWatch

namespace Client

/-- Only replies change what a record shows. -/
theorem restAt?_shown {client : Client} (indexed : client.cache.Indexed) {act : Section}
    (other : ∀ reply, act ≠ .reply reply) {space : NamespaceKey} {key : DocumentKey}
    {earlier later : Record} (found : client.cache.restAt? space key = some earlier)
    (held : (client.perform act).2.cache.restAt? space key = some later) :
    later.shown = earlier.shown := by
  have step := does indexed act
  generalize client.perform act = result at step held
  cases step with
  | quiet quiet =>
    rw [quiet.records.records, found] at held
    rw [Option.some.inj held]
  | @watches _ _ watcher _ _ effect =>
    rw [effect.records] at held
    split at held
    · next here =>
      obtain ⟨rfl, rfl⟩ := here
      obtain ⟨record, there, rfl⟩ := Cache.exists_recordAt? found
      rw [Cache.recordFor_found there] at held
      rw [← Option.some.inj held]
      cases watcher <;> rfl
    · rw [found] at held
      rw [Option.some.inj held]
  | unwatches effect =>
    rw [effect.records, found] at held
    split at held
    · rw [← Option.some.inj held]
      rfl
    · rw [Option.some.inj held]
  | replies => exact absurd rfl (other _)
  | sweeps reached =>
    have held := Cache.restAt?_of_cleanup held
    rw [found] at held
    rw [Option.some.inj held]
  | resets _ cache _ =>
    rw [cache] at held
    cases held

/-- A removal by the server changes nothing that a record shows, and a reply that changes what a
record shows leaves an outcome. -/
theorem verdict_status (client : Client) (reply : WatchResponse) {record : Record}
    (alive : record.Alive) :
    if ReplyStatus.ofWatchCode reply.status = .removed then
      client.verdict reply record = ([], record)
    else (client.verdict reply record).2.status.isSome = true := by
  split
  · next removed => rw [verdict, removed]
  · next kept =>
    have other (status : ReplyStatus) :
        (record.updateStatus status).2.status.isSome = true := by
      rw [Record.updateStatus, if_neg alive.active]
      split <;> rfl
    have good (version : Version) (content : Content) :
        (record.update version content).2.status.isSome = true := by
      rw [Record.update, if_neg alive.active]
      split
      · next stale =>
        rw [Option.isSome_iff_ne_none]
        intro none
        rw [Record.isNews, alive.empty none] at stale
        cases stale
      · split <;> rfl
    unfold verdict
    split
    · next removed => exact absurd removed kept
    · split
      · exact other _
      · exact good _ _
    · exact other _

end Client

/-! ## Records that were answered -/

/-- A section handled a reply, and not a removal, for the subscription of a document. -/
def Occurrence.Answers (occurrence : Occurrence) (space : NamespaceKey) (key : DocumentKey) :
    Prop :=
  ∃ reply, occurrence.act = .reply reply ∧
    occurrence.before.cache.bySubscription.get? reply.uid = some (space, key) ∧
    ReplyStatus.ofWatchCode reply.status ≠ .removed

/-- A reply, and not a removal, was for the record of a document, which was there ever since. -/
def Answered (history : List Occurrence) (space : NamespaceKey) (key : DocumentKey) : Prop :=
  ∃ earlier occurrence later, history = earlier ++ occurrence :: later ∧
    occurrence.Answers space key ∧
    ∀ next ∈ later, (next.before.cache.restAt? space key).isSome = true

namespace Client

end Client

end ConfigWatch

import ConfigWatch.Proofs.Client.Retention
import ConfigWatch.Proofs.Client.Touching

/-!
# Work on a cache in the course of time

Whatever a client does to its cache comes to few operations, each at a reading of the clock of its
own. So what every such operation preserves holds in all of a run, as long as the clock is not set
back.
-/

set_option autoImplicit false

namespace ConfigWatch

theorem Cache.lastTouch_touchRecord {cache : Cache} {space : NamespaceKey} {key : DocumentKey}
    {moment : Instant} {record : Record}
    (found : (cache.touchRecord space key moment).recordAt? space key = some record) :
    record.lastTouch = moment := by
  rw [recordAt?_touchRecord, if_pos ⟨rfl, rfl⟩] at found
  obtain ⟨_, _, rfl⟩ := Option.map_eq_some_iff.mp found
  rfl

/-- What becomes of a cache from one time to another, one operation at a time. An operation that
touches anything takes the time, so that the next one finds the clock ahead. -/
inductive Cache.Works (cache : Cache) (now : Instant) : Cache → Instant → Prop where
  | begins : Works cache now cache now
  | waits {after : Cache} {moment later : Instant} :
      Works cache now after moment → moment ≤ later → Works cache now after later
  | opens {after : Cache} {moment later : Instant} (space : NamespaceKey) (key : DocumentKey) :
      Works cache now after moment → moment < later →
      Works cache now (after.recordOrNew space key moment).2.2 later
  | touches {after : Cache} {moment later : Instant} (space : NamespaceKey) (key : DocumentKey) :
      Works cache now after moment → moment < later →
      Works cache now (after.touchRecord space key moment) later
  | changes {after : Cache} {moment : Instant} {space : NamespaceKey} {key : DocumentKey}
      {change : Record → Record} : Works cache now after moment →
      (∀ record, after.recordAt? space key = some record →
        (change record).lastTouch = record.lastTouch) →
      Works cache now (after.modifyRecord space key change) moment
  | resolves {after next : Cache} {moment later : Instant} {checksum : Bytes}
      {decode : Unit → Except DecodeError Payload.Decoded} {content : Content} :
      Works cache now after moment → moment < later →
      after.resolve checksum decode moment = .ok (content, next) → Works cache now next later
  | stores {after : Cache} {moment later : Instant} (space : NamespaceKey) (version : Version)
      (key : DocumentKey) (content : Content) : Works cache now after moment → moment < later →
      Works cache now (after.insertVersion space version key content moment) later
  | reads {after next : Cache} {moment later : Instant} {space : NamespaceKey}
      {version : Version} {key : DocumentKey} {content : Content} :
      Works cache now after moment → moment < later →
      after.readVersion space version key moment = some (content, next) →
      Works cache now next later
  | forgets {after : Cache} {moment : Instant} (id : UInt32) :
      Works cache now after moment → Works cache now (after.forgetSubscription id).2 moment
  | sweeps {after : Cache} {moment : Instant} (limit : Instant) :
      Works cache now after moment → Works cache now (after.cleanup limit).2 moment
  | resets {after : Cache} {moment : Instant} :
      Works cache now after moment → Works cache now after.reset.2 moment

theorem Cache.Works.trans {cache middle after : Cache} {now moment later : Instant}
    (first : cache.Works now middle moment) (second : middle.Works moment after later) :
    cache.Works now after later := by
  induction second with
  | begins => exact first
  | waits _ order ih => exact ih.waits order
  | opens space key _ before ih => exact ih.opens space key before
  | touches space key _ before ih => exact ih.touches space key before
  | changes _ kept ih => exact ih.changes kept
  | resolves _ before resolved ih => exact ih.resolves before resolved
  | stores space version key content _ before ih =>
    exact ih.stores space version key content before
  | reads _ before read ih => exact ih.reads before read
  | forgets id _ ih => exact ih.forgets id
  | sweeps limit _ ih => exact ih.sweeps limit
  | resets _ ih => exact ih.resets

theorem Cache.Works.changeRecord {cache after : Cache} {now moment : Instant}
    (works : cache.Works now after moment) (id : UInt32)
    {change : Record → List Notification × Record}
    (kept : ∀ record, (change record).2.lastTouch = record.lastTouch) :
    cache.Works now (after.changeRecord id change).2 moment := by
  unfold Cache.changeRecord
  split
  · exact works
  · next space key record located =>
    apply works.changes
    intro held there
    rw [(located?_eq_some_iff.mp located).2] at there
    cases there
    exact kept record

namespace Client

/-- What becomes of the cache of a client from one reading of its clock to another. -/
def Works (client after : Client) : Prop :=
  client.cache.Works client.clock.read.1 after.cache after.clock.read.1

variable {client after : Client}

theorem Works.begin (client : Client) : client.Works client := .begins

theorem Works.touchAt (works : client.Works after) (space : NamespaceKey) (key : DocumentKey) :
    client.Works (after.touchAt space key) :=
  Cache.Works.touches space key works after.clock.read_lt

theorem Works.changeRecord (works : client.Works after) (id : UInt32)
    {change : Record → List Notification × Record}
    (kept : ∀ record, (change record).2.lastTouch = record.lastTouch) :
    client.Works (after.changeRecord id change).2 :=
  Cache.Works.changeRecord works id kept

theorem accept_works (client : Client) (space : NamespaceKey) (key : DocumentKey)
    (watcher : Option (String × Reaction)) :
    client.Works (client.accept space key watcher).client := by
  have begun : client.cache.Works client.clock.read.1 client.cache client.clock.read.1 := .begins
  have ready := (begun.opens space key client.clock.read_lt).touches space key
    client.clock.read.2.read_lt
  have attached (joining : Client) (record : Record) (before : client.Works joining)
      (held : ∀ found, joining.cache.recordAt? space key = some found →
        record.lastTouch = found.lastTouch) :
      client.Works (joining.attach space key record watcher).2.2 := by
    cases watcher with
    | none => exact before
    | some watcher => exact Cache.Works.changes before held
  unfold accept
  dsimp only
  split
  · exact attached _ _ ready (fun _ there => (Cache.lastTouch_touchRecord there).symm)
  · exact attached _ _ ready (fun _ there => (Cache.lastTouch_touchRecord there).symm)

theorem beginRead_works (client : Client) (space : NamespaceKey) (key : DocumentKey)
    (pinned : Option Version) : client.Works (client.beginRead space key pinned).2 := by
  rcases client.beginRead_cases space key pinned with same | ⟨reply, after, found, same⟩
  · rw [same]
    exact .begin client
  · rw [same]
    cases found with
    | latest => exact (Works.begin client).touchAt space key
    | pinned read => exact Cache.Works.reads .begins client.clock.read_lt read

theorem finishRead_works (client : Client) (pending : PendingRead)
    (response : Except Error ReadResponse) :
    client.Works (client.finishRead pending response).2 := by
  have finished := client.finishesRead pending response
  generalize client.finishRead pending response = result at finished ⊢
  cases finished with
  | leaves => exact .begin client
  | stores resolved =>
    have found := Cache.Works.resolves .begins client.clock.read_lt resolved
    exact found.stores _ _ _ _ client.clock.read.2.read_lt

theorem applyReply_works (client : Client) (reply : WatchResponse) :
    client.Works (client.applyReply reply).2 := by
  have touched (space : NamespaceKey) (key : DocumentKey) :=
    (Works.begin client).touchAt space key
  unfold applyReply
  split
  · exact .begin client
  · next space key _ =>
    split
    · rcases client.applyRemoval_cases reply.uid space key with done | done
      · rw [done]
        exact touched space key
      · rw [done]
        exact Cache.Works.forgets reply.uid (touched space key)
    · rw [applyContent_stages]
      split
      · have read : client.Works (client.holding client.cache client.clock.read.2) :=
          Cache.Works.waits .begins client.clock.read_le
        exact read.changeRecord reply.uid (fun record => (record.updateStatus_answered _).lastTouch)
      · next content cache resolved =>
        have found := Cache.Works.resolves .begins client.clock.read_lt resolved
        have stored : client.Works (client.holding
            (cache.insertVersion space ⟨reply.namespaceId, reply.version⟩ key content
              client.clock.read.2.read.1) client.clock.read.2.read.2) :=
          found.stores space _ key content client.clock.read.2.read_lt
        exact (stored.touchAt space key).changeRecord reply.uid
          (fun record => (record.update_answered _ _).lastTouch)
    · exact (touched space key).changeRecord reply.uid
        (fun record => (record.updateStatus_answered _).lastTouch)

/-- Every section comes to such operations, unless it sets the clock back. -/
theorem perform_works (client : Client) {act : Section}
    (forward : ∀ clock, act = .setClock clock → client.clock.read.1 ≤ clock.read.1) :
    client.Works (client.perform act).2 := by
  cases work : act.isWork with
  | false =>
    have onwards := perform_clock_le forward
    rcases client.cache_of_other work with same | afresh
    · rw [Works, same]
      exact .waits .begins onwards
    · rw [Works, afresh]
      exact .waits (.resets .begins) onwards
  | true =>
    cases act with
    | watch space key watcher =>
      rw [perform, register_accepts rfl]
      exact ({ client with closed := false } : Client).accept_works space key watcher
    | unwatch subscription watcher =>
      simp only [perform, unwatch]
      split
      · exact .begin client
      · next space key record located =>
        apply Cache.Works.changes .begins
        intro held there
        rw [(Cache.located?_eq_some_iff.mp located).2] at there
        cases there
        rfl
    | beginRead space key pinned =>
      exact ({ client with closed := false } : Client).beginRead_works space key pinned
    | finishRead pending response => exact client.finishRead_works pending response
    | reply reply => exact client.applyReply_works reply
    | sweep moment =>
      cases reached : client.clock.before? moment
          client.settings.inactivityThresholdSeconds.toNat with
      | none =>
        simp only [perform, sweepAt_unreached reached]
        exact .begin client
      | some limit =>
        simp only [perform, sweepAt_eq reached]
        exact .sweeps limit .begins
    | _ => cases work

end Client

/-- A run that does not set the clock back comes to such operations from its start to its end. -/
theorem Run.works {start client : Client} {history : List Occurrence}
    (run : Run start history client) (forward : Forward history) : start.Works client := by
  induction run with
  | start => exact .begin start
  | @step history client act run ih =>
    have before := ih (fun other inside => forward other (List.mem_append_left _ inside))
    apply before.trans
    apply client.perform_works
    intro clock same
    exact forward ⟨client, act⟩ (List.mem_append_right _ List.mem_cons_self) clock same

end ConfigWatch

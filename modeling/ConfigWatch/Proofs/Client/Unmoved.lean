import ConfigWatch.Proofs.Client.Coherence
import ConfigWatch.Proofs.Queue.Line

/-!
# What work on the cache leaves alone

Watches, reads, replies and sweeps leave the settings, the capacity of the cache, the workers, the
outbound streams and their line for the queue alone. The settings and the capacity never change, a
sweep worker stops only when its client is closed, and the line stays in order whatever happens.
-/

set_option autoImplicit false

namespace ConfigWatch

namespace Cache

theorem capacity_touchRecord (cache : Cache) (space : NamespaceKey) (key : DocumentKey)
    (now : Instant) : (cache.touchRecord space key now).capacity = cache.capacity := by
  unfold touchRecord
  split
  · rfl
  · dsimp only
    split <;> rfl

theorem capacity_recordOrNew (cache : Cache) (space : NamespaceKey) (key : DocumentKey)
    (now : Instant) : (cache.recordOrNew space key now).2.2.capacity = cache.capacity := by
  unfold recordOrNew
  dsimp only
  split <;> rfl

theorem capacity_resolve {cache after : Cache} {checksum : Bytes}
    {decode : Unit → Except DecodeError Payload.Decoded} {now : Instant} {content : Content}
    (resolved : cache.resolve checksum decode now = .ok (content, after)) :
    after.capacity = cache.capacity := by
  unfold resolve at resolved
  split at resolved
  · cases resolved
    rfl
  · split at resolved
    · cases resolved
    · cases resolved
      rfl

theorem capacity_readVersion {cache after : Cache} {space : NamespaceKey} {version : Version}
    {key : DocumentKey} {now : Instant} {content : Content}
    (read : cache.readVersion space version key now = some (content, after)) :
    after.capacity = cache.capacity := by
  obtain ⟨_, _, same⟩ := Option.map_eq_some_iff.mp read
  cases same
  rfl

theorem capacity_changeRecord (cache : Cache) (id : UInt32)
    (change : Record → List Notification × Record) :
    (cache.changeRecord id change).2.capacity = cache.capacity := by
  unfold changeRecord
  split <;> rfl

end Cache

namespace Client

/-- What two clients have in common if work on the cache led from one to the other. -/
structure Unmoved (before after : Client) : Prop where
  settings : after.settings = before.settings
  capacity : after.cache.capacity = before.cache.capacity
  closed : after.closed = before.closed
  streamWorker : after.streamWorker = before.streamWorker
  sweepWorker : after.sweepWorker = before.sweepWorker
  streams : after.queue.streams = before.queue.streams
  holder : after.queue.holder = before.queue.holder
  waiting : after.queue.waiting = before.queue.waiting

namespace Unmoved

theorem refl (client : Client) : Unmoved client client := ⟨rfl, rfl, rfl, rfl, rfl, rfl, rfl, rfl⟩

theorem trans {first second third : Client} (left : Unmoved first second)
    (right : Unmoved second third) : Unmoved first third :=
  ⟨right.settings.trans left.settings, right.capacity.trans left.capacity,
    right.closed.trans left.closed, right.streamWorker.trans left.streamWorker,
    right.sweepWorker.trans left.sweepWorker, right.streams.trans left.streams,
    right.holder.trans left.holder, right.waiting.trans left.waiting⟩

/-- Another cache of the same capacity, and another clock. -/
theorem of_capacity (client : Client) {cache : Cache} (clock : Clock)
    (capacity : cache.capacity = client.cache.capacity) :
    Unmoved client { client with cache, clock } := ⟨rfl, capacity, rfl, rfl, rfl, rfl, rfl, rfl⟩

end Unmoved

theorem push_unmoved (client : Client) (command : Command) :
    Unmoved client (client.push command) := ⟨rfl, rfl, rfl, rfl, rfl, rfl, rfl, rfl⟩

theorem attach_unmoved (client : Client) (space : NamespaceKey) (key : DocumentKey)
    (record : Record) (watcher : Option (String × Reaction)) :
    Unmoved client (client.attach space key record watcher).2.2 := by
  cases watcher with
  | none => exact .refl client
  | some watcher => exact ⟨rfl, rfl, rfl, rfl, rfl, rfl, rfl, rfl⟩

theorem register_unmoved {client : Client} {space : NamespaceKey} {key : DocumentKey}
    {watcher : Option (String × Reaction)} {registered : Registered}
    (accepted : client.register space key watcher = .ok registered) :
    Unmoved client registered.client := by
  obtain ⟨created, touched, clock, done⟩ :=
    register_opened client (open_of_register accepted) space key watcher
  rw [accepted] at done
  cases done
  have ready := Unmoved.of_capacity client clock
    ((Cache.capacity_touchRecord _ space key touched).trans
      (client.cache.capacity_recordOrNew space key created))
  have attached := ready.trans (attach_unmoved _ space key
    { (client.cache.recordOrNew space key created).2.1 with lastTouch := touched } watcher)
  dsimp only
  split
  · exact attached.trans (push_unmoved _ _)
  · exact attached

theorem unwatch_unmoved (client : Client) (subscription watcher : UInt32) :
    Unmoved client (client.unwatch subscription watcher).2 := by
  unfold unwatch
  split
  · exact .refl client
  · exact ⟨rfl, rfl, rfl, rfl, rfl, rfl, rfl, rfl⟩

theorem beginRead_unmoved (client : Client) (space : NamespaceKey) (key : DocumentKey)
    (pinned : Option Version) : Unmoved client (client.beginRead space key pinned).2 := by
  rcases client.beginRead_cases space key pinned with same | ⟨reply, after, found, same⟩
  · rw [same]
    exact .refl client
  · rw [same]
    cases found with
    | latest => exact .of_capacity client _ (client.cache.capacity_touchRecord space key _)
    | pinned read => exact .of_capacity client _ (Cache.capacity_readVersion read)

private theorem stored_unmoved {client : Client} {cache : Cache} {checksum : Bytes}
    {decode : Unit → Except DecodeError Payload.Decoded} {now : Instant} {content : Content}
    (resolved : client.cache.resolve checksum decode now = .ok (content, cache))
    (space : NamespaceKey) (version : Version) (key : DocumentKey) (stored : Instant)
    (clock : Clock) :
    Unmoved client { client with
      cache := cache.insertVersion space version key content stored, clock } := by
  have capacity := Cache.capacity_resolve resolved
  exact ⟨rfl, capacity, rfl, rfl, rfl, rfl, rfl, rfl⟩

theorem finishRead_unmoved (client : Client) (pending : PendingRead)
    (response : Except Error ReadResponse) :
    Unmoved client (client.finishRead pending response).2 := by
  have finished := client.finishesRead pending response
  generalize client.finishRead pending response = result at finished ⊢
  cases finished with
  | leaves => exact .refl client
  | stores resolved => exact stored_unmoved resolved _ _ _ _ _

theorem touchAt_unmoved (client : Client) (space : NamespaceKey) (key : DocumentKey) :
    Unmoved client (client.touchAt space key) :=
  .of_capacity client _ (client.cache.capacity_touchRecord space key _)

theorem changeRecord_unmoved (client : Client) (id : UInt32)
    (change : Record → List Notification × Record) :
    Unmoved client (client.changeRecord id change).2 :=
  .of_capacity client client.clock (client.cache.capacity_changeRecord id change)

private theorem applyRemoval_unmoved (client : Client) (id : UInt32) (space : NamespaceKey)
    (key : DocumentKey) : Unmoved client (client.applyRemoval id space key) := by
  have touched := touchAt_unmoved client space key
  rcases client.applyRemoval_cases id space key with done | done <;> rw [done]
  · exact touched.trans (push_unmoved _ _)
  · exact touched.trans (.of_capacity _ _ rfl)

private theorem applyContent_unmoved (client : Client) (reply : WatchResponse)
    (space : NamespaceKey) (key : DocumentKey) :
    Unmoved client (client.applyContent reply space key).2 := by
  rw [applyContent_stages]
  split
  · exact (Unmoved.of_capacity client client.clock.read.2 rfl).trans
      (changeRecord_unmoved _ reply.uid _)
  · next resolved =>
    have stored := stored_unmoved resolved space ⟨reply.namespaceId, reply.version⟩ key
      client.clock.read.2.read.1 client.clock.read.2.read.2
    exact (stored.trans (touchAt_unmoved _ space key)).trans (changeRecord_unmoved _ reply.uid _)

theorem applyReply_unmoved (client : Client) (reply : WatchResponse) :
    Unmoved client (client.applyReply reply).2 := by
  unfold applyReply
  split
  · exact .refl client
  · split
    · exact applyRemoval_unmoved client reply.uid _ _
    · exact applyContent_unmoved client reply _ _
    · exact (touchAt_unmoved client _ _).trans (changeRecord_unmoved _ reply.uid _)

theorem sweepAt_unmoved (client : Client) (moment : Instant) :
    Unmoved client (client.sweepAt moment) := by
  cases reached : client.clock.before? moment
      client.settings.inactivityThresholdSeconds.toNat with
  | none =>
    rw [sweepAt_unreached reached]
    exact .refl client
  | some limit =>
    rw [sweepAt_eq reached]
    exact ⟨rfl, rfl, rfl, rfl, rfl, rfl, rfl, rfl⟩

end Client

/-- Whether a section is work on the cache. -/
def Section.isWork : Section → Bool
  | .watch .. | .unwatch .. | .beginRead .. | .finishRead .. | .reply .. | .sweep .. => true
  | _ => false

namespace Client

theorem perform_unmoved (client : Client) {act : Section} (work : act.isWork = true) :
    Unmoved client (client.perform act).2 := by
  cases act with
  | watch space key watcher =>
    simp only [perform]
    cases accepted : ({ client with closed := false } : Client).register space key watcher with
    | error cause => exact .refl client
    | ok registered => exact { register_unmoved accepted with closed := rfl }
  | unwatch subscription watcher => exact unwatch_unmoved client subscription watcher
  | beginRead space key pinned =>
    exact { beginRead_unmoved { client with closed := false } space key pinned with closed := rfl }
  | finishRead pending response => exact finishRead_unmoved client pending response
  | reply reply => exact applyReply_unmoved client reply
  | sweep moment => exact sweepAt_unmoved client moment
  | _ => cases work

/-! ## What no section changes -/

/-- What holds of any section: the settings and the capacity stay, a closed client stays closed,
and the sweep worker stops only when the client is closed. -/
structure Settled (before after : Client) : Prop where
  settings : after.settings = before.settings
  capacity : after.cache.capacity = before.cache.capacity
  closed : before.closed = true → after.closed = true
  sweepWorker : after.sweepWorker = .stopped → before.sweepWorker = .stopped ∨ before.closed = true

theorem Unmoved.settled {before after : Client} (unmoved : Unmoved before after) :
    Settled before after :=
  ⟨unmoved.settings, unmoved.capacity, fun closed => unmoved.closed.trans closed,
    fun stopped => .inl (unmoved.sweepWorker.symm.trans stopped)⟩

private theorem cancelOutbound_settled (client : Client) :
    Settled client client.cancelOutbound := by
  unfold cancelOutbound
  split <;> exact ⟨rfl, rfl, id, .inl⟩

private theorem startSweepWorker_running (client : Client) :
    client.startSweepWorker ≠ .stopped := by
  unfold startSweepWorker
  split <;> simp

theorem perform_settled (client : Client) (act : Section) :
    Settled client (client.perform act).2 := by
  cases act with
  | watch | unwatch | beginRead | finishRead | reply | sweep =>
    exact (perform_unmoved client rfl).settled
  | cancelStream => exact cancelOutbound_settled client
  | failStream =>
    have cancelled := cancelOutbound_settled client
    simp only [perform]
    split
    · exact ⟨cancelled.settings, cancelled.capacity, cancelled.closed, cancelled.sweepWorker⟩
    · exact ⟨cancelled.settings, cancelled.capacity, cancelled.closed, cancelled.sweepWorker⟩
    · exact ⟨rfl, rfl, id, .inl⟩
  | requestStream | openStream | finishClose =>
    simp only [perform]
    split <;> exact ⟨rfl, rfl, id, .inl⟩
  | startSweeps =>
    simp only [perform]
    split
    · exact ⟨rfl, rfl, id, fun stopped => absurd stopped (startSweepWorker_running client)⟩
    · exact ⟨rfl, rfl, id, .inl⟩
  | scheduleSweep =>
    simp only [perform]
    split
    · exact ⟨rfl, rfl, id, fun stopped => (by cases stopped)⟩
    · exact ⟨rfl, rfl, id, .inl⟩
  | stopStreamWorker =>
    simp only [perform, stopStreamWorker]
    split
    · split <;> exact ⟨rfl, rfl, id, .inl⟩
    · exact ⟨rfl, rfl, id, .inl⟩
  | stopSweepWorker =>
    simp only [perform, stopSweepWorker]
    split
    · next closed => split <;> exact ⟨rfl, rfl, id, fun _ => .inr closed⟩
    · exact ⟨rfl, rfl, id, .inl⟩
  | beginClose => exact ⟨rfl, rfl, fun _ => rfl, .inl⟩
  | poll | dropStream | note | setClock => exact ⟨rfl, rfl, id, .inl⟩

end Client

/-- A client keeps the settings it was created with and their capacity, and a sweep worker that
stopped belongs to a closed client. -/
theorem Run.settled {start client : Client} {history : List Occurrence} (fresh : start.Fresh)
    (run : Run start history client) :
    client.settings = start.settings ∧
      client.cache.capacity = client.settings.capacity.toNat ∧
      (client.sweepWorker = .stopped → client.closed = true) := by
  induction run with
  | start =>
    rw [fresh.eq]
    exact ⟨rfl, rfl, fun stopped => (by cases stopped)⟩
  | @step _ client act run ih =>
    obtain ⟨settings, capacity, sweeping⟩ := ih
    have settled := client.perform_settled act
    refine ⟨settled.settings.trans settings, ?_, fun stopped => settled.closed ?_⟩
    · rw [settled.capacity, settled.settings, capacity]
    · exact (settled.sweepWorker stopped).elim sweeping id

/-! ## The line for the queue -/

namespace Client

private theorem Unmoved.inOrder {before after : Client} (unmoved : Unmoved before after)
    (order : before.queue.InOrder) : after.queue.InOrder := by
  refine order.of_same ?_ unmoved.holder (fun stream running => ?_)
  · rw [CommandQueue.line, CommandQueue.line, unmoved.holder, unmoved.waiting]
  · rw [CommandQueue.Running, unmoved.streams]
    exact running

private theorem inOrder_cancelOutbound {client : Client} (order : client.queue.InOrder) :
    client.cancelOutbound.queue.InOrder := by
  unfold cancelOutbound
  split
  · exact order.of_same rfl rfl (fun _ running => CommandQueue.running_cancel running _)
  · exact order.of_same rfl rfl (fun _ running => CommandQueue.running_cancel running _)
  · exact order

private theorem inOrder_perform {client : Client} (order : client.queue.InOrder)
    (act : Section) : (client.perform act).2.queue.InOrder := by
  cases act with
  | watch | unwatch | beginRead | finishRead | reply | sweep =>
    exact (perform_unmoved client rfl).inOrder order
  | requestStream =>
    simp only [perform]
    split
    · exact order.of_same rfl rfl (fun _ running => CommandQueue.running_openStream running _)
    · exact order
  | cancelStream => exact inOrder_cancelOutbound order
  | failStream =>
    have cancelled := inOrder_cancelOutbound order
    simp only [perform]
    split
    · exact cancelled
    · exact cancelled
    · exact order
  | stopStreamWorker =>
    simp only [perform, stopStreamWorker]
    split
    · split
      · exact order.finish _
      · exact order.of_same rfl rfl (fun _ running => CommandQueue.running_cancel running _)
      · exact order
    · exact order
  | poll stream => exact order.poll stream client.cache.generation
  | dropStream stream => exact order.finish stream
  | openStream | startSweeps | scheduleSweep | finishClose =>
    simp only [perform]
    split <;> exact order
  | stopSweepWorker =>
    simp only [perform, stopSweepWorker]
    split
    · split <;> exact order
    · exact order
  | beginClose | note | setClock => exact order

end Client

theorem Run.inOrder {start client : Client} {history : List Occurrence} (fresh : start.Fresh)
    (run : Run start history client) : client.queue.InOrder := by
  induction run with
  | start =>
    rw [fresh.eq]
    exact ⟨rfl, List.nodup_nil, fun _ member => absurd member List.not_mem_nil⟩
  | step act _ ih => exact Client.inOrder_perform ih act

end ConfigWatch

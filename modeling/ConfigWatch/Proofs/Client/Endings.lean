import ConfigWatch.Proofs.Client.Notifications

/-!
# The last event

The event that a subscription was removed is the last one that a registration hears. It hears it
just once, and only when the cache starts afresh while the registration has its seat. A close that
returns without an error leaves no seats, unless an earlier close found the sweep worker failed.
-/

set_option autoImplicit false

namespace ConfigWatch

namespace Client

/-- A closed client stays closed, and a worker that stopped or failed does not start again. -/
structure Lasts (before after : Client) : Prop where
  closed : before.closed = true → after.closed = true
  streamStopped : before.streamWorker = .stopped → after.streamWorker = .stopped
  sweepStopped : before.sweepWorker = .stopped → after.sweepWorker = .stopped
  sweepFailed : before.sweepWorker = .failed → after.sweepWorker = .failed

private theorem Lasts.of_same {before after : Client} (closed : after.closed = before.closed)
    (streamWorker : after.streamWorker = before.streamWorker)
    (sweepWorker : after.sweepWorker = before.sweepWorker) : Lasts before after :=
  ⟨closed.trans, streamWorker.trans, sweepWorker.trans, sweepWorker.trans⟩

private theorem Lasts.of_outside {before after : Client} (same : SameOutside before after) :
    Lasts before after :=
  .of_same same.closed same.streamWorker same.sweepWorker

private theorem Lasts.of_streaming {before after : Client} (closed : after.closed = before.closed)
    (works : before.streamWorker ≠ .stopped)
    (sweepWorker : after.sweepWorker = before.sweepWorker) : Lasts before after :=
  ⟨closed.trans, fun stopped => absurd stopped works, sweepWorker.trans, sweepWorker.trans⟩

private theorem Lasts.of_sweeping {before after : Client} (closed : after.closed = before.closed)
    (streamWorker : after.streamWorker = before.streamWorker)
    (works : before.sweepWorker ≠ .stopped ∧ before.sweepWorker ≠ .failed) : Lasts before after :=
  ⟨closed.trans, streamWorker.trans, fun stopped => absurd stopped works.1,
    fun failed => absurd failed works.2⟩

theorem perform_lasts {client : Client} (indexed : client.cache.Indexed) (act : Section) :
    Lasts client (client.perform act).2 := by
  cases act with
  | watch | unwatch | beginRead | finishRead | reply | sweep | poll | dropStream | cancelStream
      | setClock => exact .of_outside (perform_inside indexed rfl)
  | requestStream =>
    simp only [perform]
    split
    · next wants =>
      refine .of_streaming rfl (fun stopped => ?_) rfl
      rw [wantsStream, stopped] at wants
      cases wants
    · exact .of_same rfl rfl rfl
  | openStream =>
    simp only [perform]
    split
    · next serving => exact .of_streaming rfl (by simp [serving]) rfl
    · exact .of_same rfl rfl rfl
  | failStream =>
    simp only [perform, cancelOutbound]
    split
    · next serving =>
      rw [serving]
      exact .of_streaming rfl (by simp [serving]) rfl
    · next serving =>
      rw [serving]
      exact .of_streaming rfl (by simp [serving]) rfl
    · exact .of_same rfl rfl rfl
  | startSweeps | scheduleSweep =>
    simp only [perform]
    split
    · next working => exact .of_sweeping rfl rfl (by simp [working])
    · exact .of_same rfl rfl rfl
  | beginClose => exact ⟨fun _ => rfl, id, id, id⟩
  | stopStreamWorker =>
    simp only [perform, stopStreamWorker]
    split
    · split <;> exact ⟨id, fun _ => rfl, id, id⟩
    · exact .of_same rfl rfl rfl
  | stopSweepWorker =>
    simp only [perform, stopSweepWorker]
    split
    · split
      · next working => exact .of_sweeping rfl rfl (by simp [working])
      · next working => exact .of_sweeping rfl rfl (by simp [working])
      · exact .of_same rfl rfl rfl
      · exact .of_same rfl rfl rfl
    · exact .of_same rfl rfl rfl
  | finishClose =>
    simp only [perform, resetCache]
    split <;> exact .of_same rfl rfl rfl
  | note => exact .of_same rfl rfl rfl

theorem closed_of_unclosing {client : Client} (indexed : client.cache.Indexed) {act : Section}
    (unclosing : act.isClosing = false) : (client.perform act).2.closed = client.closed := by
  cases act with
  | watch | unwatch | beginRead | finishRead | reply | sweep | poll | dropStream | cancelStream
      | setClock => exact (perform_inside indexed rfl).closed
  | failStream =>
    simp only [perform, cancelOutbound]
    split
    · next serving => rw [serving]; rfl
    · next serving => rw [serving]; rfl
    · rfl
  | requestStream | openStream | startSweeps | scheduleSweep =>
    simp only [perform]
    split <;> rfl
  | note => rfl
  | beginClose | stopStreamWorker | stopSweepWorker | finishClose => cases unclosing

private theorem vacant_perform {client : Client} (indexed : client.cache.Indexed) {act : Section}
    (other : ∀ space key watcher, act ≠ .watch space key watcher)
    (vacant : ∀ registration, client.cache.home? registration = none) (registration : Nat) :
    (client.perform act).2.cache.home? registration = none := by
  rw [Cache.home?_eq_none_iff]
  rintro space key id sitter seat same
  have none := Cache.home?_eq_none_iff.mp (vacant registration) space key id sitter
  have step := does indexed act
  generalize client.perform act = result at step seat
  cases step with
  | quiet quiet => exact none (quiet.records.seat_iff.mp seat) same
  | watches => exact absurd rfl (other _ _ _)
  | unwatches effect => exact none (effect.seat_iff.mp seat).1 same
  | replies located effect => exact none ((effect.seat_iff located).mp seat) same
  | sweeps => exact none (Cache.seat_cleanup_iff.mp seat) same
  | resets _ cache _ =>
    rw [cache] at seat
    exact absurd seat Cache.not_seat_reset

end Client

/-- Nobody has a seat with a closed client, unless its sweep worker failed. -/
theorem Play.vacant_of_closed {start client : Client} {history : List Occurrence}
    {agenda : List Notification} (fresh : start.Fresh) (play : Play start history client agenda)
    (closed : client.closed = true) :
    client.sweepWorker = .failed ∨ ∀ registration, client.cache.home? registration = none := by
  induction play with
  | start =>
    rw [fresh.eq] at closed
    cases closed
  | tell play ih => exact ih closed
  | @act history client agenda act fits unclosing play ih =>
    have indexed := play.run.indexed fresh
    rw [Client.closed_of_unclosing indexed unclosing] at closed
    have other (space : NamespaceKey) (key : DocumentKey)
        (watcher : Option (String × Reaction)) : act ≠ .watch space key watcher := by
      rintro rfl
      have opened : client.closed = false := fits
      rw [closed] at opened
      cases opened
    rcases ih closed with failed | vacant
    · exact .inl ((Client.perform_lasts indexed act).sweepFailed failed)
    · exact .inr (Client.vacant_perform indexed other vacant)
  | @close history client opened play ih =>
    rw [Client.perform_finishClose]
    split
    · next failed => exact .inl failed
    · exact .inr client.closing.cache.home?_reset

theorem Client.close_opened {client after : Client} (opened : client.closed = false)
    (closes : client.close = (.ok (), after)) :
    after.closed = true ∧ after.sweepWorker = .stopped := by
  obtain ⟨closed, _, worker⟩ := client.closing_stopped
  rw [close, opened, if_neg Bool.false_ne_true, ← closing_eq, finishClose] at closes
  split at closes
  · cases closes
  · next stopped =>
    obtain ⟨_, rfl⟩ := Prod.mk.inj closes
    have kept := (dispatch_worker client.closing.cache.reset.1
      { client.closing with cache := client.closing.cache.reset.2 } .stopped).2
    exact ⟨kept.closed.trans closed, kept.sweepWorker.trans (worker.resolve_right stopped)⟩

/-- How many times a registration heard that its subscription was removed. -/
def removals (client : Client) (registration : Nat) : Nat :=
  (heard client registration).countP (fun event => event.status == .removed)

/-- A registration heard its end last and once, or is still to hear it, if the cache started afresh
while it had its seat, and otherwise not at all. -/
theorem Play.end_is_last {start client : Client} {history : List Occurrence}
    {agenda : List Notification} (fresh : start.Fresh) (play : Play start history client agenda)
    (registration : Nat) :
    (Ended history registration ∧ ∃ earlier event,
        heard client registration ++ eventsFor registration agenda = earlier ++ [event] ∧
          event.status = .removed ∧ ∀ other ∈ earlier, other.status ≠ .removed) ∨
      (¬ Ended history registration ∧
        ∀ event ∈ heard client registration ++ eventsFor registration agenda,
          event.status ≠ .removed) := by
  have run := play.run
  have all := (play.account fresh).heard registration
  rw [(run.course fresh registration).order] at all
  rw [all]
  rcases run.endings_cases fresh registration with ⟨ended, event, removed, one⟩ | ⟨unended, none⟩
  · exact .inl ⟨ended, dues history registration, event, by rw [one], removed,
      fun _ due => run.dues_status fresh due⟩
  · rw [none, List.append_nil]
    exact .inr ⟨unended, fun _ due => run.dues_status fresh due⟩

theorem Play.removals_eq {start client : Client} {history : List Occurrence}
    (fresh : start.Fresh) (play : Play start history client []) (registration : Nat) :
    (Ended history registration ∧ removals client registration = 1) ∨
      (¬ Ended history registration ∧ removals client registration = 0) := by
  have none {events : List Event} (others : ∀ event ∈ events, event.status ≠ .removed) :
      events.countP (fun event => event.status == .removed) = 0 :=
    List.countP_eq_zero.mpr (fun event member => by simpa using others event member)
  have said := play.end_is_last fresh registration
  have rest : eventsFor registration [] = [] := rfl
  rw [rest, List.append_nil] at said
  rcases said with ⟨ended, earlier, event, all, removed, others⟩ | ⟨unended, others⟩
  · refine .inl ⟨ended, ?_⟩
    rw [removals, all, List.countP_append, none others]
    simp [removed]
  · exact .inr ⟨unended, none others⟩

theorem Displaced.alone {history : List Occurrence} {client : Client} {registration : Nat}
    (fate : Fate history client registration) (displaced : Displaced history registration) :
    ¬ Unwatched history registration ∧ ¬ Ended history registration := by
  obtain ⟨occurrence, member, space, key, watcher, watches⟩ := displaced
  constructor
  · rintro ⟨other, there, subscription, id, unwatches⟩
    rw [fate.lost_once there member, watches] at unwatches
    cases unwatches
  · rintro ⟨other, there, reset⟩
    rw [fate.lost_once there member, watches] at reset
    rcases reset with reset | reset <;> cases reset

theorem Ended.not_unwatched {history : List Occurrence} {client : Client} {registration : Nat}
    (fate : Fate history client registration) (ended : Ended history registration) :
    ¬ Unwatched history registration := by
  rintro ⟨other, there, subscription, id, unwatches⟩
  obtain ⟨occurrence, member, reset⟩ := ended
  rw [fate.lost_once member there, unwatches] at reset
  rcases reset with reset | reset <;> cases reset

/-- All registrations that were not removed heard their end exactly when nobody has a seat any more
and none was displaced. -/
theorem Play.all_ended_iff {start client : Client} {history : List Occurrence}
    (fresh : start.Fresh) (play : Play start history client []) :
    (∀ registration < client.registrations, ¬ Unwatched history registration →
        removals client registration = 1) ↔
      (∀ registration, ¬ Displaced history registration) ∧
        ∀ registration, client.cache.home? registration = none := by
  have run := play.run
  have ended {registration : Nat} (one : removals client registration = 1) :
      Ended history registration := by
    rcases play.removals_eq fresh registration with said | said
    · exact said.1
    · omega
  constructor
  · refine fun all => ⟨fun registration displaced => ?_, fun registration => ?_⟩
    · have fate := run.fate fresh registration
      obtain ⟨kept, unended⟩ := displaced.alone fate
      have made : registration < client.registrations := by
        by_contra unmade
        obtain ⟨_, member, _⟩ := displaced
        rw [fate.future (Nat.not_lt.mp unmade)] at member
        cases member
      exact unended (ended (all registration made kept))
    · by_contra home
      have present := Option.isSome_iff_ne_none.mpr home
      have made := (run.seated fresh).lt_of_home? present
      have none := (run.fate fresh registration).present present
      have kept : ¬ Unwatched history registration := by
        rintro ⟨_, member, _⟩
        rw [none] at member
        cases member
      obtain ⟨_, member, _⟩ := ended (all registration made kept)
      rw [none] at member
      cases member
  · rintro ⟨undisplaced, vacant⟩ registration made kept
    rcases run.unwatched_or_ended_or_displaced fresh made (vacant registration) with
      unwatched | ended | displaced
    · exact absurd unwatched kept
    · exact ((play.removals_eq fresh registration).resolve_right (fun said => said.1 ended)).2
    · exact absurd displaced (undisplaced registration)

/-- A close without an error leaves no seats, but for those behind a failed sweep worker when the
client was closed before. -/
theorem Play.vacant_after_close_iff {start client after : Client} {history : List Occurrence}
    {later : List Occurrence} (fresh : start.Fresh) (play : Play start history client [])
    (finished : Play start (history ++ later) after [])
    (closes : client.close = (.ok (), after)) :
    (∀ registration, after.cache.home? registration = none) ↔
      (client.closed = true → client.sweepWorker = .failed →
        ∀ registration, client.cache.home? registration = none) := by
  cases closed : client.closed with
  | true =>
    rw [Client.close, if_pos closed] at closes
    obtain rfl : client = after := (Prod.mk.inj closes).2
    refine ⟨fun vacant _ _ => vacant, fun otherwise => ?_⟩
    rcases play.vacant_of_closed fresh closed with failed | vacant
    · exact otherwise rfl failed
    · exact vacant
  | false =>
    obtain ⟨stopped, worker⟩ := Client.close_opened closed closes
    refine iff_of_true ?_ (fun impossible => by cases impossible)
    rcases finished.vacant_of_closed fresh stopped with failed | vacant
    · rw [worker] at failed
      cases failed
    · exact vacant

/-- The last event of a registration is heard at most once and nothing is heard after it; it is
heard just when the cache starts afresh while the registration has its seat; no reply gives rise to
it. After a close without an error every registration that was not removed before heard it once,
just if no registration was displaced, which takes as many later ones as there are ids, and if the
client was open or its sweep worker had not failed or nobody had a seat. -/
theorem ends_once_and_last {start client : Client} {history : List Occurrence}
    {agenda : List Notification} (fresh : start.Fresh)
    (play : Play start history client agenda) :
    (∀ registration,
      (Ended history registration ∧ ∃ earlier event,
          heard client registration ++ eventsFor registration agenda = earlier ++ [event] ∧
            event.status = .removed ∧ ∀ other ∈ earlier, other.status ≠ .removed) ∨
        (¬ Ended history registration ∧
          ∀ event ∈ heard client registration ++ eventsFor registration agenda,
            event.status ≠ .removed)) ∧
    (∀ occurrence ∈ history, ∀ reply, occurrence.act = .reply reply →
      ∀ notification ∈ occurrence.told, notification.event.status ≠ .removed ∧
        ReplyStatus.ofWatchCode reply.status ≠ .removed) ∧
    (∀ registration, Displaced history registration →
      registration + 2 ^ 32 ≤ client.registrations) ∧
    (agenda = [] → ∀ after, client.close = (.ok (), after) →
      ∃ later, Play start (history ++ later) after [] ∧
        ((∀ registration < after.registrations, ¬ Unwatched (history ++ later) registration →
            removals after registration = 1) ↔
          (∀ registration, ¬ Displaced (history ++ later) registration) ∧
            (client.closed = true → client.sweepWorker = .failed →
              ∀ registration, client.cache.home? registration = none))) := by
  have run := play.run
  refine ⟨play.end_is_last fresh, ?_, fun registration => run.displaced_far fresh, ?_⟩
  · rintro ⟨before, act⟩ member reply rfl notification told
    obtain ⟨_, ran⟩ := run.reaches member
    have indexed := ran.indexed fresh
    have seated := ran.seated fresh
    have here : notification.event ∈
        Occurrence.due ⟨before, .reply reply⟩ notification.watcher.registration := by
      rw [← Client.told_by_reply indexed seated]
      exact List.mem_map.mpr ⟨notification, List.mem_filter.mpr ⟨told, by simp⟩, rfl⟩
    refine ⟨Occurrence.due_status indexed seated here, fun removed => ?_⟩
    rw [Occurrence.due_of_removal indexed seated removed] at here
    cases here
  · rintro rfl after closes
    obtain ⟨later, finished⟩ := play.closes
    rw [closes] at finished
    exact ⟨later, finished, (finished.all_ended_iff fresh).trans
      (and_congr_right' (play.vacant_after_close_iff fresh finished closes))⟩

/-- A document is watched. -/
private def watchingOne (client : Client) : Client :=
  (client.perform (.watch { root := "/srv" } { document := "a" } (some ("A", .idle)))).2

theorem ends_once_and_last_closing :
    ∃ history, Play Client.byDefault history (watchingOne Client.byDefault).close.2 [] ∧
      ∀ registration < 1, ¬ Unwatched history registration →
        removals (watchingOne Client.byDefault).close.2 registration = 1 := by
  have opened : Section.Fits Client.byDefault []
      (.watch { root := "/srv" } { document := "a" } (some ("A", .idle))) := rfl
  have play := Play.act _ opened rfl (Play.start : Play Client.byDefault [] Client.byDefault [])
  have told := ends_once_and_last Client.byDefault_fresh play
  obtain ⟨later, finished, all⟩ := told.2.2.2 rfl (watchingOne Client.byDefault).close.2 rfl
  refine ⟨_, finished, all.mpr ⟨fun registration displaced => ?_, fun closed => by cases closed⟩⟩
  have far := (ends_once_and_last Client.byDefault_fresh finished).2.2.1 registration displaced
  have one : (watchingOne Client.byDefault).close.2.registrations = 1 := rfl
  omega

/-- A client whose sweeps are too far away for the clock. -/
private def neverSweeping : Client :=
  { settings := { cleanupIntervalSeconds := 18446744073709551615 }, cache := { capacity := 1000 } }

/-- When the sweep worker fails, a close stops before anybody is told. The next close returns
without an error, with a registration that was not removed and did not hear its end. -/
theorem close_without_end :
    ∃ history closed, Client.create neverSweeping.settings {} = .ok neverSweeping ∧
      (watchingOne neverSweeping).close = (.error .workerFailed, closed) ∧
      Play neverSweeping history closed [] ∧ closed.close = (.ok (), closed) ∧
      0 < closed.registrations ∧ ¬ Unwatched history 0 ∧ removals closed 0 = 0 := by
  have opened : Section.Fits neverSweeping []
      (.watch { root := "/srv" } { document := "a" } (some ("A", .idle))) := rfl
  obtain ⟨later, play⟩ :=
    (Play.act _ opened rfl (Play.start : Play neverSweeping [] neverSweeping [])).closes
  have fresh : neverSweeping.Fresh := ⟨neverSweeping.settings, {}, rfl⟩
  have none := (play.run.fate fresh 0).present rfl
  refine ⟨_, (watchingOne neverSweeping).close.2, rfl, rfl, play, rfl, by decide, ?_, rfl⟩
  rintro ⟨_, member, _⟩
  rw [none] at member
  cases member

end ConfigWatch

import ConfigWatch.Proofs.Client.Plays

/-!
# Calls and workers as plays

What the client does when it is called, and what its workers do, is a play for watchers of the
kind that the model knows: after each call and each step of a worker nobody is left to be told.
-/

set_option autoImplicit false

namespace ConfigWatch

/-! ## Telling watchers -/

/-- Whether a section may be the doing of a watcher that is told. -/
def Section.isReaction : Section → Bool
  | .watch .. | .unwatch .. | .note _ => true
  | _ => false

theorem Section.unclosing_of_isReaction {act : Section} (reaction : act.isReaction = true) :
    act.isClosing = false := by
  cases act <;> first | rfl | cases reaction

/-- What holds of a client and of what is due on it still holds when the next watcher was told, and
after anything that a watcher does in turn. -/
structure Telling (holds : Client → List Notification → Prop) : Prop where
  tells : ∀ {client : Client} {notification : Notification} {agenda : List Notification},
    holds client (notification :: agenda) →
      holds (client.perform (.note notification.toNote)).2 agenda
  acts : ∀ {client : Client} {agenda : List Notification} (act : Section),
    act.isReaction = true → act.Fits client agenda → holds client agenda →
      holds (client.perform act).2 ((client.perform act).1 ++ agenda)

namespace Telling

variable {holds : Client → List Notification → Prop} {client : Client}
  {agenda : List Notification}

theorem note (telling : Telling holds) (held : holds client agenda) (label : String)
    (registration : Nat) {observation : Observation}
    (silent : ∀ event, observation ≠ .event event) :
    holds (client.note label registration observation) agenda :=
  telling.acts (.note ⟨label, registration, observation⟩) rfl silent held

theorem register (telling : Telling holds) (held : holds client agenda) {space : NamespaceKey}
    {key : DocumentKey} {watcher : Option (String × Reaction)} {registered : Registered}
    (accepted : client.register space key watcher = .ok registered) :
    holds registered.client (registered.initial.toList ++ agenda) := by
  have opened := Client.open_of_register accepted
  have next := telling.acts (.watch space key watcher) rfl opened held
  rw [Client.perform_watch_open opened accepted] at next
  exact next

theorem react (telling : Telling holds) (reaction : Reaction) (label : String)
    (registration : Nat) (event : Event) (held : holds client agenda) :
    holds (Client.react reaction label registration event client) agenda := by
  induction reaction generalizing label registration event client agenda with
  | idle => exact held
  | onlyOn status next ih =>
    rw [Client.react]
    split
    · exact ih label registration event held
    · exact held
  | unwatch subscription watcher =>
    have removed := telling.acts (.unwatch subscription watcher) rfl trivial held
    exact telling.note removed label registration (by simp)
  | count => exact telling.note held label registration (by simp)
  | subscribe space key =>
    rw [Client.react]
    cases accepted : client.register space key none with
    | error cause => exact telling.note held label registration (by simp)
    | ok registered =>
      have silent : registered.initial = none := (Client.registers accepted).told
      have watched := telling.register held accepted
      rw [silent] at watched
      exact telling.note watched label registration (by simp)
  | watch space key inner next ih =>
    rw [Client.react]
    cases accepted : client.register space key (some (inner, next)) with
    | error cause => exact telling.note held label registration (by simp)
    | ok registered =>
      have welcome := (Client.registers accepted).told
      have watched := telling.register held accepted
      cases initial : registered.initial with
      | none =>
        simp only [initial] at watched ⊢
        exact telling.note watched label registration (by simp)
      | some notification =>
        rw [initial] at watched welcome
        simp only [initial]
        have name : notification.watcher.label = inner := by
          obtain ⟨_, _, same⟩ := Option.map_eq_some_iff.mp welcome.symm
          rw [← same]
        subst name
        have reacted := ih notification.watcher.label notification.watcher.registration
          notification.event (telling.tells watched)
        exact telling.note reacted label registration (by simp)

theorem notify (telling : Telling holds) {notification : Notification}
    (held : holds client (notification :: agenda)) : holds (client.notify notification) agenda :=
  telling.react notification.watcher.reaction notification.watcher.label
    notification.watcher.registration notification.event (telling.tells held)

theorem dispatch (telling : Telling holds) {notifications : List Notification}
    (held : holds client (notifications ++ agenda)) :
    holds (client.dispatch notifications) agenda := by
  induction notifications generalizing client with
  | nil => exact held
  | cons notification rest ih => exact ih (telling.notify held)

end Telling

namespace Play

variable {start client : Client} {history : List Occurrence} {agenda : List Notification}

/-- A play goes on until it leads to a client with some notifications due. -/
def LeadsTo (start : Client) (history : List Occurrence) (after : Client)
    (agenda : List Notification) : Prop :=
  ∃ later, Play start (history ++ later) after agenda

theorem leads (play : Play start history client agenda) : LeadsTo start history client agenda :=
  ⟨[], by rwa [List.append_nil]⟩

theorem LeadsTo.of_snoc {after : Client} {occurrence : Occurrence}
    (leads : LeadsTo start (history ++ [occurrence]) after agenda) :
    LeadsTo start history after agenda := by
  obtain ⟨later, play⟩ := leads
  exact ⟨occurrence :: later, by rwa [List.append_cons]⟩

theorem LeadsTo.trans {middle after : Client} {due rest : List Notification}
    (first : LeadsTo start history middle due)
    (second : ∀ {history : List Occurrence}, Play start history middle due →
      LeadsTo start history after rest) :
    LeadsTo start history after rest := by
  obtain ⟨later, play⟩ := first
  obtain ⟨last, finished⟩ := second play
  exact ⟨later ++ last, by rwa [← List.append_assoc]⟩

theorem telling (start : Client) (history : List Occurrence) :
    Telling (LeadsTo start history) := by
  constructor
  case tells =>
    rintro client notification agenda ⟨later, play⟩
    exact ⟨later ++ [⟨client, .note notification.toNote⟩], by
      simpa only [List.append_assoc] using Play.tell play⟩
  case acts =>
    rintro client agenda act reaction fits ⟨later, play⟩
    have unclosing := Section.unclosing_of_isReaction reaction
    exact ⟨later ++ [⟨client, act⟩], by
      simpa only [List.append_assoc] using Play.act act fits unclosing play⟩

/-- Telling watchers is a part of the play, whatever they do in turn. -/
theorem dispatch {notifications : List Notification}
    (play : Play start history client (notifications ++ agenda)) :
    LeadsTo start history (client.dispatch notifications) agenda :=
  (telling start history).dispatch play.leads

theorem watch (play : Play start history client []) {space : NamespaceKey} {key : DocumentKey}
    {watcher : Option (String × Reaction)} {watching : Watching} {after : Client}
    (accepted : client.watch space key watcher = .ok (watching, after)) :
    LeadsTo start history after [] := by
  cases registration : client.register space key watcher with
  | error cause => simp [Client.watch, registration, bind, Except.bind] at accepted
  | ok registered =>
    simp only [Client.watch, registration, bind, Except.bind, pure, Except.pure, Except.ok.injEq,
      Prod.mk.injEq] at accepted
    rw [← accepted.2]
    exact ((telling start history).register play.leads registration).trans dispatch

theorem handleReply (play : Play start history client []) (reply : WatchResponse) :
    LeadsTo start history (client.handleReply reply) [] := by
  have replied := Play.act (.reply reply) rfl rfl play
  rw [Client.perform] at replied
  unfold Client.handleReply
  generalize client.applyReply reply = result at replied
  exact (dispatch replied).of_snoc

theorem sweep (play : Play start history client []) : LeadsTo start history client.sweep [] := by
  have read := Play.act (.setClock client.clock.read.2) trivial rfl play
  exact (Play.act (.sweep client.clock.read.1) rfl rfl read).leads.of_snoc.of_snoc

private theorem sweep_schedule (client : Client) (due : Nat) :
    client.sweep.sweepWorker = client.sweepWorker ∧
      client.sweep.nextSweep due = client.nextSweep due := by
  have swept : client.sweep = client.now.2.sweepAt client.now.1 := rfl
  rw [swept]
  cases reached : client.now.2.clock.before? client.now.1
      client.now.2.settings.inactivityThresholdSeconds.toNat with
  | none =>
    rw [Client.sweepAt_unreached reached]
    exact ⟨rfl, rfl⟩
  | some limit =>
    rw [Client.sweepAt_eq reached]
    exact ⟨rfl, rfl⟩

private theorem perform_scheduleSweep {client : Client} {due : Nat}
    (worker : client.sweepWorker = .sleeping due) :
    client.perform .scheduleSweep =
      ([], { client with sweepWorker := .sleeping (client.nextSweep due) }) := by
  simp only [Client.perform, worker]

theorem runSweepWorker (play : Play start history client []) :
    LeadsTo start history client.runSweepWorker [] := by
  cases worker : client.sweepWorker with
  | starting =>
    have next := Play.act .startSweeps trivial rfl play
    simp only [Client.perform, worker] at next
    rw [Client.runSweepWorker, worker]
    exact next.leads.of_snoc
  | sleeping due =>
    by_cases reached : due ≤ client.clock.elapsed
    · simp only [Client.runSweepWorker, worker, if_pos reached]
      refine (sweep play).trans (fun next => ?_)
      obtain ⟨sleeping, schedule⟩ := sweep_schedule client due
      have scheduled := Play.act .scheduleSweep trivial rfl next
      rw [perform_scheduleSweep (sleeping.trans worker), schedule] at scheduled
      exact scheduled.leads.of_snoc
    · simp only [Client.runSweepWorker, worker, if_neg reached]
      exact play.leads
  | stopped =>
    rw [Client.runSweepWorker, worker]
    exact play.leads
  | failed =>
    rw [Client.runSweepWorker, worker]
    exact play.leads

end Play

/-! ## Workers while watchers are told -/

namespace Client

/-- What telling watchers leaves alone. -/
structure SameWorkers (before after : Client) : Prop where
  settings : after.settings = before.settings
  closed : after.closed = before.closed
  streamWorker : after.streamWorker = before.streamWorker
  sweepWorker : after.sweepWorker = before.sweepWorker
  elapsed : after.clock.elapsed = before.clock.elapsed

theorem SameWorkers.refl (client : Client) : SameWorkers client client := ⟨rfl, rfl, rfl, rfl, rfl⟩

theorem SameWorkers.trans {first second third : Client} (left : SameWorkers first second)
    (right : SameWorkers second third) : SameWorkers first third :=
  ⟨right.settings.trans left.settings, right.closed.trans left.closed,
    right.streamWorker.trans left.streamWorker, right.sweepWorker.trans left.sweepWorker,
    right.elapsed.trans left.elapsed⟩

theorem SameWorkers.note {before after : Client} (same : SameWorkers before after)
    (label : String) (registration : Nat) (observation : Observation) :
    SameWorkers before (after.note label registration observation) :=
  ⟨same.settings, same.closed, same.streamWorker, same.sweepWorker, same.elapsed⟩

private theorem register_worker (client : Client) (worker : StreamWorker) (space : NamespaceKey)
    (key : DocumentKey) (watcher : Option (String × Reaction)) :
    ({ client with streamWorker := worker } : Client).register space key watcher =
      (client.register space key watcher).map (fun registered =>
        { registered with client := { registered.client with streamWorker := worker } }) := by
  cases closed : client.closed with
  | true => simp [register, ensureOpen, closed, bind, Except.bind, Except.map]
  | false =>
    rcases found : client.cache.recordOrNew space key client.clock.read.1 with
      ⟨isNew, record, cache⟩
    cases isNew <;> cases watcher <;>
      simp [register, ensureOpen, closed, bind, Except.bind, pure, Except.pure, Except.map, now,
        found, attach, push]

private theorem register_workers {client : Client} {space : NamespaceKey} {key : DocumentKey}
    {watcher : Option (String × Reaction)} {registered : Registered}
    (accepted : client.register space key watcher = .ok registered) :
    SameWorkers client registered.client := by
  have outside := (registers accepted).outside
  refine ⟨outside.settings, outside.closed, outside.streamWorker, outside.sweepWorker, ?_⟩
  cases closed : client.closed with
  | true => rw [register_closed closed] at accepted; cases accepted
  | false =>
    simp only [register, ensureOpen, closed, Bool.false_eq_true, if_false, bind, Except.bind, pure,
      Except.pure, now, Except.ok.injEq] at accepted
    rw [← accepted]
    generalize client.cache.recordOrNew space key client.clock.read.1 = found
    obtain ⟨isNew, record, cache⟩ := found
    cases isNew <;> cases watcher <;> rfl

private theorem unwatch_worker (client : Client) (worker : StreamWorker)
    (subscription watcher : UInt32) :
    ({ client with streamWorker := worker } : Client).unwatch subscription watcher =
      ((client.unwatch subscription watcher).1,
        { (client.unwatch subscription watcher).2 with streamWorker := worker }) := by
  simp only [unwatch]
  split <;> rfl

private theorem unwatch_workers (client : Client) (subscription watcher : UInt32) :
    SameWorkers client (client.unwatch subscription watcher).2 := by
  unfold unwatch
  split <;> exact ⟨rfl, rfl, rfl, rfl, rfl⟩

theorem react_worker (reaction : Reaction) (label : String) (registration : Nat) (event : Event)
    (client : Client) (worker : StreamWorker) :
    react reaction label registration event { client with streamWorker := worker } =
        { react reaction label registration event client with streamWorker := worker } ∧
      SameWorkers client (react reaction label registration event client) := by
  induction reaction generalizing label registration event client with
  | idle => exact ⟨rfl, .refl client⟩
  | onlyOn status next ih =>
    simp only [react]
    split
    · exact ih label registration event client
    · exact ⟨rfl, .refl client⟩
  | unwatch subscription watcher =>
    simp only [react, unwatch_worker]
    exact ⟨rfl, (unwatch_workers client subscription watcher).note ..⟩
  | count => exact ⟨rfl, ⟨rfl, rfl, rfl, rfl, rfl⟩⟩
  | subscribe space key =>
    simp only [react, register_worker]
    cases accepted : client.register space key none with
    | error cause => exact ⟨rfl, ⟨rfl, rfl, rfl, rfl, rfl⟩⟩
    | ok registered => exact ⟨rfl, (register_workers accepted).note ..⟩
  | watch space key inner next ih =>
    simp only [react, register_worker]
    cases accepted : client.register space key (some (inner, next)) with
    | error cause => exact ⟨rfl, ⟨rfl, rfl, rfl, rfl, rfl⟩⟩
    | ok registered =>
      have workers := register_workers accepted
      cases initial : registered.initial with
      | none =>
        simp only [Except.map, initial]
        exact ⟨rfl, workers.note ..⟩
      | some notification =>
        obtain ⟨same, kept⟩ := ih inner notification.watcher.registration notification.event
          (registered.client.note inner notification.watcher.registration
            (.event notification.event))
        simp only [Except.map, initial]
        refine ⟨?_, ((workers.note ..).trans kept).note ..⟩
        exact congrArg (fun client => client.note label registration
          (.watching registered.watching.subscription registered.watching.watcher)) same

theorem dispatch_worker (notifications : List Notification) (client : Client)
    (worker : StreamWorker) :
    ({ client with streamWorker := worker } : Client).dispatch notifications =
        { client.dispatch notifications with streamWorker := worker } ∧
      SameWorkers client (client.dispatch notifications) := by
  induction notifications generalizing client with
  | nil => exact ⟨rfl, .refl client⟩
  | cons notification rest ih =>
    obtain ⟨same, kept⟩ := react_worker notification.watcher.reaction notification.watcher.label
      notification.watcher.registration notification.event
      (client.note notification.watcher.label notification.watcher.registration
        (.event notification.event)) worker
    obtain ⟨sameRest, keptRest⟩ := ih (client.notify notification)
    have told : SameWorkers client (client.note notification.watcher.label
        notification.watcher.registration (.event notification.event)) :=
      (SameWorkers.refl client).note ..
    refine ⟨?_, (told.trans kept).trans keptRest⟩
    rw [dispatch, List.foldl_cons]
    have first : ({ client with streamWorker := worker } : Client).notify notification =
        { client.notify notification with streamWorker := worker } := same
    rw [first]
    exact sameRest

end Client

namespace Play

variable {start client : Client} {history : List Occurrence} {agenda : List Notification}

theorem streamFailed (play : Play start history client []) {stream : Nat}
    (serving : client.streamWorker.stream? = some stream) :
    LeadsTo start history client.streamFailed [] := by
  have failed := Play.act .failStream rfl rfl play
  -- While watchers are told the worker rests already, which they cannot notice.
  have told : client.perform .failStream =
      (client.cancelOutbound.resetCache.1,
        { client.cancelOutbound.resetCache.2 with
          streamWorker := .resting client.cancelOutbound.resetCache.2.pauseEnd }) := by
    cases worker : client.streamWorker <;> simp [worker, StreamWorker.stream?] at serving <;>
      simp only [Client.perform, worker]
  rw [told] at failed
  obtain ⟨same, kept⟩ := Client.dispatch_worker client.cancelOutbound.resetCache.1
    client.cancelOutbound.resetCache.2 (.resting client.cancelOutbound.resetCache.2.pauseEnd)
  have done := (dispatch failed).of_snoc
  rw [same, Client.pauseEnd, ← kept.elapsed, ← kept.settings] at done
  exact done

end Play

/-! ## Closing -/

namespace Client

theorem closing_eq (client : Client) : client.closing = client.beginClose.stopWorkers := by
  have closed : client.beginClose.stopStreamWorker.closed = true := by
    rw [stopStreamWorker]
    split <;> rfl
  have first : client.closing = (client.beginClose.stopStreamWorker.perform .stopSweepWorker).2 :=
    rfl
  rw [first, perform, if_pos closed]
  rfl

/-- When both workers stopped for a close, the client is closed, and the sweep worker failed if
it could not compute when to sweep. -/
theorem closing_stopped (client : Client) :
    client.closing.closed = true ∧ client.closing.streamWorker = .stopped ∧
      (client.closing.sweepWorker = .stopped ∨ client.closing.sweepWorker = .failed) := by
  have stream : client.beginClose.stopStreamWorker.closed = true ∧
      client.beginClose.stopStreamWorker.streamWorker = .stopped := by
    rw [stopStreamWorker]
    split <;> exact ⟨rfl, rfl⟩
  rw [closing_eq, stopWorkers]
  generalize client.beginClose.stopStreamWorker = stopped at stream
  obtain ⟨closed, stream⟩ := stream
  cases worker : stopped.sweepWorker <;> simp only [stopSweepWorker, worker]
  · refine ⟨closed, stream, ?_⟩
    split
    · exact .inr rfl
    · exact .inl rfl
  · exact ⟨closed, stream, .inl trivial⟩
  · exact ⟨closed, stream, .inl trivial⟩
  · exact ⟨closed, stream, .inr trivial⟩

theorem perform_finishClose (client : Client) :
    client.closing.perform .finishClose =
      if client.closing.sweepWorker = .failed then ([], client.closing)
      else client.closing.resetCache := by
  obtain ⟨closed, stream, sweep⟩ := client.closing_stopped
  rcases sweep with sweep | sweep <;> simp [perform, closed, stream, sweep]

end Client

theorem Play.closes {start client : Client} {history : List Occurrence}
    (play : Play start history client []) : LeadsTo start history client.close.2 [] := by
  cases closed : client.closed with
  | true =>
    rw [Client.close, if_pos closed]
    exact play.leads
  | false =>
    have finished := Play.close closed play
    rw [Client.perform_finishClose] at finished
    rw [Client.close, closed, if_neg Bool.false_ne_true, ← Client.closing_eq, Client.finishClose]
    split at finished
    · next failed =>
      rw [if_pos failed]
      exact ⟨_, finished⟩
    · next stopped =>
      rw [if_neg stopped]
      exact LeadsTo.trans ⟨_, finished⟩ (fun next => dispatch (by rwa [List.append_nil]))

/-! ## Orderly clients -/

/-- What a client becomes when every call and every step of a worker is complete, watchers told
included, before the next one starts. -/
inductive Orderly (start : Client) : Client → Prop where
  | start : Orderly start start
  | watch {client after : Client} {space : NamespaceKey} {key : DocumentKey}
      {watcher : Option (String × Reaction)} {watching : Watching} :
      client.watch space key watcher = .ok (watching, after) → Orderly start client →
      Orderly start after
  | unwatch {client : Client} (subscription watcher : UInt32) : Orderly start client →
      Orderly start (client.unwatch subscription watcher).2
  | handleReply {client : Client} (reply : WatchResponse) : Orderly start client →
      Orderly start (client.handleReply reply)
  | streamFailed {client : Client} {stream : Nat} : client.streamWorker.stream? = some stream →
      Orderly start client → Orderly start client.streamFailed
  | runSweepWorker {client : Client} : Orderly start client → Orderly start client.runSweepWorker
  | close {client : Client} : Orderly start client → Orderly start client.close.2
  | quiet {client : Client} (act : Section) : act.isQuiet = true → act.isClosing = false →
      act.Fits client [] → Orderly start client → Orderly start (client.perform act).2

/-- Whatever a client becomes in an orderly way, a play leads to. -/
theorem Orderly.play {start client : Client} (orderly : Orderly start client) :
    ∃ history, Play start history client [] := by
  have next {client after : Client} (before : ∃ history, Play start history client [])
      (leads : ∀ {history : List Occurrence}, Play start history client [] →
        Play.LeadsTo start history after []) : ∃ history, Play start history after [] := by
    obtain ⟨history, play⟩ := before
    obtain ⟨later, finished⟩ := leads play
    exact ⟨_, finished⟩
  induction orderly with
  | start => exact ⟨[], .start⟩
  | watch accepted _ ih => exact next ih (fun play => play.watch accepted)
  | unwatch subscription watcher _ ih =>
    exact next ih (fun play => ⟨_, Play.act (.unwatch subscription watcher) trivial rfl play⟩)
  | handleReply reply _ ih => exact next ih (fun play => play.handleReply reply)
  | streamFailed serving _ ih => exact next ih (fun play => play.streamFailed serving)
  | runSweepWorker _ ih => exact next ih (fun play => play.runSweepWorker)
  | close _ ih => exact next ih (fun play => play.closes)
  | @quiet client act quiet open_ fits _ ih =>
    refine next ih (fun play => ?_)
    have after := Play.act act fits open_ play
    rw [(Client.perform_quiet quiet client).told] at after
    exact ⟨_, after⟩

end ConfigWatch

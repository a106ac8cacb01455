import ConfigWatch.Proofs.Client.Departures

/-!
# Plays

A play is a run in which every call and every step of a worker is complete, watchers told
included, before the next one starts. Watchers are told one after the other; a watcher that is
told may watch, remove watchers and look at the cache in turn, and what it is then told itself
comes first. What a watcher does is left open: plays are about watchers of any kind.
-/

set_option autoImplicit false

namespace ConfigWatch

/-- The note of an event. -/
def Notification.toNote (notification : Notification) : Note :=
  ⟨notification.watcher.label, notification.watcher.registration, .event notification.event⟩

namespace Section

/-- Whether a section can be carried out while some notifications are due: calls need an open
client, and sections that watchers cannot cause wait until nobody is to be told. -/
def Fits (client : Client) (agenda : List Notification) : Section → Prop
  | .watch .. | .beginRead .. => client.closed = false
  | .reply _ | .failStream | .sweep _ | .finishClose => agenda = []
  | .note written => ∀ event, written.observation ≠ .event event
  | _ => True

/-- Whether a section is a part of a close. -/
def isClosing : Section → Bool
  | .beginClose | .stopStreamWorker | .stopSweepWorker | .finishClose => true
  | _ => false

end Section

/-- The client when both workers stopped for a close. -/
def Client.closing (client : Client) : Client :=
  client.performAll [.beginClose, .stopStreamWorker, .stopSweepWorker]

/-- The sections of a play so far, the client that they lead to, and the notifications that are
still due. -/
inductive Play (start : Client) : List Occurrence → Client → List Notification → Prop where
  | start : Play start [] start []
  | tell {history : List Occurrence} {client : Client} {notification : Notification}
      {agenda : List Notification} :
      Play start history client (notification :: agenda) →
      Play start (history ++ [⟨client, .note notification.toNote⟩])
        (client.perform (.note notification.toNote)).2 agenda
  | act {history : List Occurrence} {client : Client} {agenda : List Notification}
      (act : Section) : act.Fits client agenda → act.isClosing = false →
      Play start history client agenda →
      Play start (history ++ [⟨client, act⟩]) (client.perform act).2
        ((client.perform act).1 ++ agenda)
  | close {history : List Occurrence} {client : Client} : client.closed = false →
      Play start history client [] →
      Play start
        (history ++ client.occurrences
          [.beginClose, .stopStreamWorker, .stopSweepWorker, .finishClose])
        (client.closing.perform .finishClose).2 (client.closing.perform .finishClose).1

namespace Play

variable {start client : Client} {history : List Occurrence} {agenda : List Notification}

/-- What holds at the start, and is kept when a watcher is told and by every section that fits,
holds in all plays. -/
theorem induct {holds : List Occurrence → Client → List Notification → Prop}
    (begins : holds [] start [])
    (tells : ∀ history client notification agenda, Run start history client →
      holds history client (notification :: agenda) →
      holds (history ++ [⟨client, .note notification.toNote⟩])
        (client.perform (.note notification.toNote)).2 agenda)
    (acts : ∀ history client agenda act, Run start history client → act.Fits client agenda →
      holds history client agenda →
      holds (history ++ [⟨client, act⟩]) (client.perform act).2
        ((client.perform act).1 ++ agenda))
    (play : Play start history client agenda) :
    Run start history client ∧ holds history client agenda := by
  induction play with
  | start => exact ⟨.start, begins⟩
  | tell play ih => exact ⟨ih.1.step _, tells _ _ _ _ ih.1 ih.2⟩
  | act act fits _ play ih => exact ⟨ih.1.step act, acts _ _ _ act ih.1 fits ih.2⟩
  | @close history client opened play ih =>
    obtain ⟨run, held⟩ := ih
    have step (act : Section) {history : List Occurrence} {client : Client}
        (fits : act.Fits client []) (quiet : (client.perform act).1 = [])
        (before : Run start history client ∧ holds history client []) :
        Run start (history ++ [⟨client, act⟩]) (client.perform act).2 ∧
          holds (history ++ [⟨client, act⟩]) (client.perform act).2 [] := by
      have after := acts history client [] act before.1 fits before.2
      rw [quiet] at after
      exact ⟨before.1.step act, after⟩
    obtain ⟨stopped, stoppedHolds⟩ := step .stopSweepWorker trivial rfl
      (step .stopStreamWorker trivial rfl (step .beginClose trivial rfl ⟨run, held⟩))
    have finished := acts _ _ [] .finishClose stopped rfl stoppedHolds
    simp only [List.append_assoc, List.append_nil] at finished
    have ran := stopped.step .finishClose
    simp only [List.append_assoc] at ran
    exact ⟨ran, finished⟩

theorem run (play : Play start history client agenda) : Run start history client :=
  (@induct start client history agenda (fun _ _ _ => True) trivial
    (fun _ _ _ _ _ _ => trivial) (fun _ _ _ _ _ _ _ => trivial) play).1

end Play

end ConfigWatch

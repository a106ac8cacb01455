import ConfigWatch.Proofs.Client.Calls
import ConfigWatch.Proofs.Client.Dues

/-!
# What registrations hear

The journal of a client tells what every registration took note of. In a play a registration hears
what it is due to be told, one event after the other and in the order of the sections that gave
rise to them.
-/

set_option autoImplicit false

namespace ConfigWatch

/-- The event of a note, when it is one for a registration. -/
def Note.event? (written : Note) (registration : Nat) : Option Event :=
  if written.registration = registration then
    match written.observation with
    | .event event => some event
    | _ => none
  else none

/-- The events that a registration took note of. -/
def heard (client : Client) (registration : Nat) : List Event :=
  client.journal.filterMap (fun written => written.event? registration)

namespace Client

theorem heard_note (client : Client) (label : String) (noted : Nat) (observation : Observation)
    (registration : Nat) :
    heard (client.note label noted observation) registration =
      heard client registration ++
        (Note.event? ⟨label, noted, observation⟩ registration).toList := by
  rw [heard, note, List.filterMap_append, List.filterMap_cons, List.filterMap_nil, heard]
  cases Note.event? ⟨label, noted, observation⟩ registration <;> rfl

theorem heard_note_of_silent (client : Client) (label : String) (noted : Nat)
    {observation : Observation} (silent : ∀ event, observation ≠ .event event)
    (registration : Nat) :
    heard (client.note label noted observation) registration = heard client registration := by
  have none : Note.event? ⟨label, noted, observation⟩ registration = none := by
    rw [Note.event?]
    split
    · cases observation with
      | event event => exact absurd rfl (silent event)
      | _ => rfl
    · rfl
  rw [heard_note, none, Option.toList_none, List.append_nil]

theorem heard_told (client : Client) (notification : Notification) (registration : Nat) :
    heard (client.note notification.watcher.label notification.watcher.registration
        (.event notification.event)) registration =
      heard client registration ++ eventsFor registration [notification] := by
  rw [heard_note, Note.event?, eventsFor]
  by_cases here : notification.watcher.registration = registration <;> simp [here]

theorem perform_journal {client : Client} (indexed : client.cache.Indexed) {act : Section}
    (other : ∀ written, act ≠ .note written) :
    (client.perform act).2.journal = client.journal := by
  cases act with
  | watch | unwatch | beginRead | finishRead | reply | sweep | poll | dropStream | cancelStream
      | setClock => exact (perform_inside indexed rfl).journal
  | failStream =>
    cases serving : client.streamWorker <;> simp only [perform, serving, cancelOutbound] <;> rfl
  | requestStream | openStream | startSweeps | scheduleSweep | finishClose =>
    simp only [perform]
    split <;> rfl
  | stopStreamWorker =>
    simp only [perform, stopStreamWorker]
    split
    · split <;> rfl
    · rfl
  | stopSweepWorker =>
    simp only [perform, stopSweepWorker]
    split
    · split <;> rfl
    · rfl
  | note written => exact absurd rfl (other written)
  | beginClose => rfl

end Client

/-! ## The account of a play -/

/-- What registrations heard so far and are still to hear is what they were due to be told. -/
structure Account (history : List Occurrence) (client : Client) (agenda : List Notification) :
    Prop where
  made : ∀ notification ∈ agenda, notification.watcher.registration < client.registrations
  heard : ∀ registration, heard client registration ++ eventsFor registration agenda =
    history.flatMap (fun occurrence =>
      occurrence.due registration ++ occurrence.ending registration)

theorem mem_eventsFor {notification : Notification} {notifications : List Notification}
    (member : notification ∈ notifications) :
    notification.event ∈ eventsFor notification.watcher.registration notifications :=
  List.mem_map.mpr ⟨notification, List.mem_filter.mpr ⟨member, by simp⟩, rfl⟩

private theorem eventsFor_of_made {agenda : List Notification} {registrations registration : Nat}
    (made : ∀ notification ∈ agenda, notification.watcher.registration < registrations)
    (unmade : registrations ≤ registration) : eventsFor registration agenda = [] := by
  rw [eventsFor, List.map_eq_nil_iff, List.filter_eq_nil_iff]
  intro notification member
  have old := made notification member
  simp only [decide_eq_true_eq]
  omega

theorem Occurrence.made_of_told (occurrence : Occurrence)
    (indexed : occurrence.before.cache.Indexed)
    (seated : occurrence.before.cache.Seated occurrence.before.registrations)
    {notification : Notification} (member : notification ∈ occurrence.told) :
    notification.watcher.registration < occurrence.after.registrations := by
  have told := List.ne_nil_of_mem (mem_eventsFor member)
  rw [occurrence.eventsFor_told indexed seated] at told
  by_cases due : occurrence.due notification.watcher.registration = []
  · rw [due, List.nil_append] at told
    have before := seated.lt_of_home? (Occurrence.ended_of_ending told).1
    exact before.trans_le (Client.registrations_le indexed occurrence.act)
  · exact occurrence.lt_of_due indexed seated due

/-- While notifications are due, a section tells only registrations that none of them is for. -/
private theorem eventsFor_apart {client : Client} {agenda : List Notification} {act : Section}
    (indexed : client.cache.Indexed) (seated : client.cache.Seated client.registrations)
    (made : ∀ notification ∈ agenda, notification.watcher.registration < client.registrations)
    (fits : act.Fits client agenda) (registration : Nat) :
    eventsFor registration agenda = [] ∨
      eventsFor registration (client.perform act).1 = [] := by
  cases act with
  | watch space key watcher =>
    have told := Occurrence.eventsFor_told ⟨client, .watch space key watcher⟩ indexed seated
      registration
    by_cases new : client.registrations = registration
    · exact .inl (eventsFor_of_made made (by omega))
    · refine .inr (told.trans ?_)
      cases watcher with
      | none => rfl
      | some watcher => simp [Occurrence.due, Occurrence.ending, new]
  | reply | failStream | sweep | finishClose =>
    obtain rfl : agenda = [] := fits
    exact .inl rfl
  | unwatch => exact .inr rfl
  | beginRead | finishRead | requestStream | openStream | cancelStream | startSweeps
      | scheduleSweep | poll | dropStream | beginClose | stopStreamWorker | stopSweepWorker
      | note | setClock =>
    refine .inr ?_
    rw [(Client.perform_quiet rfl client).told]
    rfl

/-- Nobody hears anything in a section that is no note of an event. -/
theorem Client.heard_perform {client : Client} {act : Section} (indexed : client.cache.Indexed)
    (silent : ∀ written, act = .note written → ∀ event, written.observation ≠ .event event)
    (registration : Nat) :
    heard (client.perform act).2 registration = heard client registration := by
  by_cases notes : ∃ written, act = .note written
  · obtain ⟨written, rfl⟩ := notes
    exact client.heard_note_of_silent _ _ (silent written rfl) registration
  · rw [heard, Client.perform_journal indexed (fun written same => notes ⟨written, same⟩), heard]

private theorem Section.Fits.silent {client : Client} {agenda : List Notification} {act : Section}
    (fits : act.Fits client agenda) (written : Note) (same : act = .note written) (event : Event) :
    written.observation ≠ .event event := by
  subst same
  exact fits event

theorem Play.account {start client : Client} {history : List Occurrence}
    {agenda : List Notification} (fresh : start.Fresh)
    (play : Play start history client agenda) : Account history client agenda := by
  refine (@Play.induct start client history agenda Account ?_ ?_ ?_ play).2
  · refine ⟨by simp, fun registration => ?_⟩
    rw [fresh.eq]
    rfl
  · intro history client notification agenda run account
    refine ⟨fun other member => account.made other (by simp [member]), fun registration => ?_⟩
    have before := account.heard registration
    have split : eventsFor registration (notification :: agenda) =
        eventsFor registration [notification] ++ eventsFor registration agenda :=
      eventsFor_append registration [notification] agenda
    have after : heard (client.perform (.note notification.toNote)).2 registration =
        heard client registration ++ eventsFor registration [notification] :=
      client.heard_told notification registration
    rw [after, List.append_assoc, ← split, before, List.flatMap_append]
    simp [Occurrence.due, Occurrence.ending]
  · intro history client agenda act run fits account
    have indexed := run.indexed fresh
    have seated := run.seated fresh
    refine ⟨fun notification member => ?_, fun registration => ?_⟩
    · rcases List.mem_append.mp member with new | old
      · exact Occurrence.made_of_told ⟨client, act⟩ indexed seated new
      · exact (account.made notification old).trans_le (client.registrations_le indexed act)
    · have before := account.heard registration
      have told := Occurrence.eventsFor_told ⟨client, act⟩ indexed seated registration
      rw [Client.heard_perform indexed fits.silent, eventsFor_append, List.flatMap_append, ← before,
        List.flatMap_singleton, ← told]
      rcases eventsFor_apart indexed seated account.made fits registration with none | none
      · simp [none, Occurrence.told]
      · simp [none, Occurrence.told]

/-! ## Calls -/

namespace Client

theorem heard_react (reaction : Reaction) (label : String) (noted : Nat) (event : Event)
    (client : Client) :
    client.registrations ≤ (react reaction label noted event client).registrations ∧
      ∀ registration < client.registrations,
        heard (react reaction label noted event client) registration =
          heard client registration := by
  induction reaction generalizing label noted event client with
  | idle => exact ⟨le_rfl, fun _ _ => rfl⟩
  | onlyOn status next ih =>
    rw [react]
    split
    · exact ih label noted event client
    · exact ⟨le_rfl, fun _ _ => rfl⟩
  | unwatch subscription watcher =>
    have effect := unwatches client subscription watcher
    refine ⟨effect.registrations.ge, fun registration _ => ?_⟩
    rw [react, heard_note_of_silent _ _ _ (by simp), heard, effect.outside.journal, heard]
  | count => exact ⟨le_rfl, fun registration _ => heard_note_of_silent _ _ _ (by simp) _⟩
  | subscribe space key =>
    rw [react]
    cases accepted : client.register space key none with
    | error cause => exact ⟨le_rfl, fun registration _ => heard_note_of_silent _ _ _ (by simp) _⟩
    | ok registered =>
      have effect := registers accepted
      refine ⟨effect.registrations.ge, fun registration _ => ?_⟩
      dsimp only
      rw [heard_note_of_silent _ _ _ (by simp), heard, effect.outside.journal, heard]
  | watch space key inner next ih =>
    rw [react]
    cases accepted : client.register space key (some (inner, next)) with
    | error cause => exact ⟨le_rfl, fun registration _ => heard_note_of_silent _ _ _ (by simp) _⟩
    | ok registered =>
      have effect := registers accepted
      have counted : registered.client.registrations = client.registrations + 1 :=
        effect.registrations
      have same (registration : Nat) :
          heard registered.client registration = heard client registration := by
        rw [heard, effect.outside.journal, heard]
      cases initial : registered.initial with
      | none =>
        refine ⟨by simp only [initial, note]; omega, fun registration _ => ?_⟩
        simp only [initial]
        rw [heard_note_of_silent _ _ _ (by simp), same]
      | some notification =>
        have welcome := effect.told
        rw [initial] at welcome
        obtain ⟨_, _, told⟩ := Option.map_eq_some_iff.mp welcome.symm
        have new : notification.watcher.registration = client.registrations := by rw [← told]
        obtain ⟨grown, kept⟩ := ih inner notification.watcher.registration notification.event
          (registered.client.note inner notification.watcher.registration
            (.event notification.event))
        simp only [initial]
        have more : (registered.client.note inner notification.watcher.registration
            (.event notification.event)).registrations = client.registrations + 1 := counted
        rw [more] at grown kept
        refine ⟨Nat.le_of_succ_le grown, fun registration old => ?_⟩
        have differs : ¬ notification.watcher.registration = registration := by omega
        rw [heard_note_of_silent _ _ _ (by simp), kept registration (by omega), heard_note,
          Note.event?, if_neg differs, Option.toList_none, List.append_nil, same]

/-- Telling watchers tells those who were there before just what is on the list. -/
theorem heard_dispatch (notifications : List Notification) (client : Client) :
    ∀ registration < client.registrations,
      heard (client.dispatch notifications) registration =
        heard client registration ++ eventsFor registration notifications := by
  induction notifications generalizing client with
  | nil =>
    intro registration _
    exact (List.append_nil _).symm
  | cons notification rest ih =>
    intro registration old
    obtain ⟨grown, kept⟩ := heard_react notification.watcher.reaction notification.watcher.label
      notification.watcher.registration notification.event
      (client.note notification.watcher.label notification.watcher.registration
        (.event notification.event))
    have split : eventsFor registration (notification :: rest) =
        eventsFor registration [notification] ++ eventsFor registration rest :=
      eventsFor_append registration [notification] rest
    have told : heard (client.notify notification) registration =
        heard client registration ++ eventsFor registration [notification] :=
      (kept registration old).trans (client.heard_told notification registration)
    have next := ih (client.notify notification) registration (old.trans_le grown)
    rw [told, List.append_assoc, ← split] at next
    exact next

theorem heard_handleReply {client : Client} (indexed : client.cache.Indexed)
    (seated : client.cache.Seated client.registrations) (reply : WatchResponse)
    {registration : Nat} (made : registration < client.registrations) :
    heard (client.handleReply reply) registration =
      heard client registration ++ Occurrence.due ⟨client, .reply reply⟩ registration := by
  have told := told_by_reply indexed seated reply registration
  have journal : (client.perform (.reply reply)).2.journal = client.journal :=
    perform_journal indexed (by simp)
  have grown := client.registrations_le indexed (.reply reply)
  rw [perform] at told journal grown
  rw [handleReply]
  generalize client.applyReply reply = result at told journal grown ⊢
  rw [heard_dispatch _ _ _ (made.trans_le grown), told, heard, journal, heard]

end Client

/-! ## Every change is heard -/

end ConfigWatch

import ConfigWatch.Proofs.Client.Traffic
import ConfigWatch.Proofs.Client.Unwatching

/-!
# After a removal

A watcher that was removed has no seat any more, so that no section tells it anything. What was on
its way to it by then is told nevertheless.
-/

set_option autoImplicit false

namespace ConfigWatch

namespace Traffic

variable {start : Client} {traffic before after : Traffic} {registration : Nat}

/-- A registration that was made has no seat any more, and waits for nothing but what was on its way
before. -/
structure Quieted (before after : Traffic) (registration : Nat) : Prop where
  made : registration < after.client.registrations
  gone : after.client.cache.home? registration = none
  flights : ∃ since, after.told = before.told ++ since ∧
    (flightsFor registration since ++ after.awaitedBy registration).Perm
      (before.awaitedBy registration)

theorem Quieted.step {middle : Traffic} (indexed : middle.client.cache.Indexed)
    (seated : middle.client.cache.Seated middle.client.registrations)
    (quieted : Quieted before middle registration) (step : Step middle after) :
    Quieted before after registration := by
  obtain ⟨since, told, waiting⟩ := quieted.flights
  have made (act : Section) := quieted.made.trans_le (middle.client.registrations_le indexed act)
  have gone := middle.client.home?_perform_eq_none indexed quieted.made quieted.gone
  cases step with
  | @carryOut party act batch _ order =>
    refine ⟨made act, gone act, since, told, ?_⟩
    have silent := Occurrence.eventsFor_told_of_absent ⟨middle.client, act⟩ indexed seated
      quieted.made quieted.gone
    rw [awaitedBy_carryOut, flightsFor_launch_of_silent order silent]
    exact waiting
  | @deliver ahead behind flight inFlight _ =>
    refine ⟨made _, gone _, since ++ [flight], ?_, ?_⟩
    · rw [deliver, told, List.append_assoc]
    · refine List.Perm.trans ?_ waiting
      have split : middle.awaitedBy registration = flightsFor registration ahead ++
          (flightsFor registration [flight] ++ flightsFor registration behind) := by
        rw [awaitedBy, inFlight, ← List.singleton_append, flightsFor_append, flightsFor_append]
      have rest : (middle.deliver flight (ahead ++ behind)).awaitedBy registration =
          flightsFor registration ahead ++ flightsFor registration behind :=
        flightsFor_append registration ahead behind
      rw [split, rest, flightsFor_append, List.append_assoc]
      exact (List.perm_append_comm_assoc ..).append_left _

theorem Quieted.of_leads (fresh : start.Fresh) {middle : Traffic}
    (reached : Leads (ofClient start) middle) (quieted : Quieted before middle registration)
    (leads : Leads middle after) : Quieted before after registration := by
  induction leads with
  | refl => exact quieted
  | @tail last _ leads step ih =>
    have run := run_of_leads (reached.trans leads)
    exact ih.step (run.indexed fresh) (run.seated fresh) step

/-- What is heard since is what was told since. -/
theorem heard_since (fresh : start.Fresh) (reached : Leads (ofClient start) before)
    (leads : Leads before after) {since : List Flight} (told : after.told = before.told ++ since)
    (registration : Nat) :
    heard after.client registration =
      heard before.client registration ++ (flightsFor registration since).map Flight.event := by
  rw [heard_of_leads fresh reached, heard_of_leads fresh (reached.trans leads), toldTo, toldTo,
    told, flightsFor_append, List.map_append]

end Traffic

/-- A removal that finds its watcher takes its seat. -/
theorem Client.unwatch_gone {client : Client} {subscription id : UInt32}
    (seated : client.cache.Seated client.registrations) {watcher : Watcher}
    (held : client.cache.Held subscription id watcher) :
    watcher.registration < (client.perform (.unwatch subscription id)).2.registrations ∧
      (client.perform (.unwatch subscription id)).2.cache.home? watcher.registration = none := by
  constructor
  · have same : (client.perform (.unwatch subscription id)).2.registrations =
        client.registrations := (client.unwatches subscription id).registrations
    rw [same]
    exact seated.lt_of_home? (home?_of_held held)
  · have gone : ¬ ((client.unwatch subscription id).2.cache.home? watcher.registration).isSome =
        true := by
      rw [home?_unwatch_iff seated]
      intro present
      exact present.2 watcher held rfl
    exact Option.not_isSome_iff_eq_none.mp gone

/-- After a removal that returned true no section tells the watcher anything. It hears of what was
on its way to it by then, each notification once, and nothing else: nothing at all if and only if
nothing was on its way. -/
theorem unwatch_leaves_flights {start : Client} (fresh : start.Fresh) {before : Traffic}
    (reached : Traffic.Leads (.ofClient start) before) {subscription id : UInt32}
    (removed : (before.client.unwatch subscription id).1 = true) (party : Party) :
    ∃ watcher, before.client.cache.Held subscription id watcher ∧
      (∀ after, Traffic.Leads (before.carryOut party (.unwatch subscription id) []) after →
        ∃ since, after.told = before.told ++ since ∧
          (flightsFor watcher.registration since ++ after.awaitedBy watcher.registration).Perm
            (before.awaitedBy watcher.registration) ∧
          heard after.client watcher.registration = heard before.client watcher.registration ++
            (flightsFor watcher.registration since).map Flight.event) ∧
      ((∀ after, Traffic.Leads (before.carryOut party (.unwatch subscription id) []) after →
          heard after.client watcher.registration = heard before.client watcher.registration) ↔
        before.awaitedBy watcher.registration = []) := by
  have seated := (Traffic.run_of_leads reached).seated fresh
  obtain ⟨watcher, held⟩ := Client.unwatch_answer.mp removed
  obtain ⟨made, gone⟩ := Client.unwatch_gone seated held
  have step : Traffic.Step before (before.carryOut party (.unwatch subscription id) []) :=
    .carryOut trivial (List.Perm.refl _)
  have later (after : Traffic)
      (leads : Traffic.Leads (before.carryOut party (.unwatch subscription id) []) after) :
      ∃ since, after.told = before.told ++ since ∧
        (flightsFor watcher.registration since ++ after.awaitedBy watcher.registration).Perm
          (before.awaitedBy watcher.registration) ∧
        heard after.client watcher.registration = heard before.client watcher.registration ++
          (flightsFor watcher.registration since).map Flight.event := by
    have quieted : Traffic.Quieted before (before.carryOut party (.unwatch subscription id) [])
        watcher.registration := ⟨made, gone, [], (List.append_nil _).symm, List.Perm.refl _⟩
    obtain ⟨since, told, waiting⟩ := (quieted.of_leads fresh (reached.tail step) leads).flights
    exact ⟨since, told, waiting, Traffic.heard_since fresh reached (leads.head step) told _⟩
  refine ⟨watcher, held, later, fun silent => ?_, fun none after leads => ?_⟩
  · obtain ⟨after, leads, drained⟩ :=
      Traffic.drains (before.carryOut party (.unwatch subscription id) [])
    obtain ⟨since, _, waiting, heard⟩ := later after leads
    rw [silent after leads, List.self_eq_append_right, List.map_eq_nil_iff] at heard
    rw [heard, Traffic.awaitedBy, drained] at waiting
    exact waiting.symm.eq_nil
  · obtain ⟨since, _, waiting, heard⟩ := later after leads
    rw [none] at waiting
    rw [heard, (List.append_eq_nil_iff.mp waiting.eq_nil).1, List.map_nil, List.append_nil]

/-- A document is watched. -/
private def watchedOnce : Traffic :=
  (Traffic.ofClient Client.byDefault).settle (.caller 0)
    (.watch { root := "/srv" } { document := "a" } (some ("A", .idle)))

theorem unwatch_leaves_flights_none :
    ∃ watcher, watchedOnce.client.cache.Held 0 0 watcher ∧
      ∀ after, Traffic.Leads (watchedOnce.carryOut (.caller 0) (.unwatch 0 0) []) after →
        heard after.client watcher.registration =
          heard watchedOnce.client watcher.registration := by
  have reached : Traffic.Leads (.ofClient Client.byDefault) watchedOnce := .settle .refl trivial
  have removed : (watchedOnce.client.unwatch 0 0).1 = true := rfl
  obtain ⟨watcher, held, _, silent⟩ :=
    unwatch_leaves_flights Client.byDefault_fresh reached removed (.caller 0)
  exact ⟨watcher, held, silent.mpr rfl⟩

/-- Two watchers of a document; each removes the other as soon as it is told something. -/
private def rivals : Traffic :=
  ((Traffic.ofClient Client.byDefault).settle (.caller 0)
    (.watch { root := "/srv" } { document := "a" } (some ("A", .unwatch 0 1)))).settle (.caller 0)
      (.watch { root := "/srv" } { document := "a" } (some ("B", .unwatch 0 0)))

private def firstAnswer : WatchResponse :=
  { namespaceId := 1, version := 1, checksum := [1], nodes := [{ valueType := 4, int := 1 }] }

private def answeredRivals : Traffic :=
  rivals.carryOut .worker (.reply firstAnswer) (rivals.client.perform (.reply firstAnswer)).1

private theorem leads_answeredRivals :
    Traffic.Leads (.ofClient Client.byDefault) answeredRivals := by
  have watching : Traffic.Leads (.ofClient Client.byDefault) rivals :=
    .settle (.settle .refl trivial) trivial
  have idle : rivals.Idle .worker :=
    ((Traffic.idle_ofClient _ _).settle _ _).settle _ _
  have suits : Section.Suits rivals .worker (.reply firstAnswer) := ⟨rfl, idle⟩
  exact watching.tail (.carryOut suits (List.Perm.refl _))

/-- Of two watchers that remove each other the second one is told although its removal, in between,
returned true. -/
theorem told_after_removal :
    ∃ before after watcher event first second,
      Traffic.Leads (.ofClient Client.byDefault) before ∧
      (before.client.unwatch 0 1).1 = true ∧ before.client.cache.Held 0 1 watcher ∧
      Traffic.Leads (before.carryOut .worker (.unwatch 0 1) []) after ∧
      heard before.client watcher.registration = [] ∧
      heard after.client watcher.registration = [event] ∧
      (rivals.client.handleReply firstAnswer).journal =
        [⟨"A", 0, .event first⟩, ⟨"A", 0, .removed true⟩,
          ⟨"B", 1, .event second⟩, ⟨"B", 1, .removed true⟩] := by
  obtain ⟨first, second, waiting, firstOf, secondOf⟩ : ∃ first second : Flight,
      answeredRivals.inFlight = [first, second] ∧ first.registration = 0 ∧
        second.registration = 1 := ⟨_, _, rfl, rfl, rfl⟩
  let before := answeredRivals.deliver first [second]
  let after := (before.carryOut .worker (.unwatch 0 1) []).deliver second []
  have reached : Traffic.Leads (.ofClient Client.byDefault) before :=
    leads_answeredRivals.tail (.first waiting)
  have leads : Traffic.Leads (before.carryOut .worker (.unwatch 0 1) []) after :=
    .single (.first rfl)
  have step : Traffic.Step before (before.carryOut .worker (.unwatch 0 1) []) :=
    .carryOut trivial (List.Perm.refl _)
  have heardBefore := Traffic.heard_of_leads Client.byDefault_fresh reached 1
  have heardAfter := Traffic.heard_of_leads Client.byDefault_fresh
    ((reached.tail step).trans leads) 1
  have toldBefore : before.toldTo 1 = [] := by
    show flightsFor 1 [first] = []
    simp [flightsFor, firstOf]
  have toldAfter : after.toldTo 1 = [second] := by
    show flightsFor 1 [first, second] = [second]
    simp [flightsFor, firstOf, secondOf]
  rw [toldBefore] at heardBefore
  rw [toldAfter] at heardAfter
  exact ⟨before, after, { label := "B", reaction := .unwatch 0 0, registration := 1 },
    second.event, _, _, reached, rfl, ⟨_, _, rfl, _, rfl, rfl⟩, leads, heardBefore, heardAfter, rfl⟩

end ConfigWatch

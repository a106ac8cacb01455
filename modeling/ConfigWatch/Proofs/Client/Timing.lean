import ConfigWatch.Decimal.Numeral
import ConfigWatch.Proofs.Client.Unmoved

/-!
# When sweeps are due

The machine counts signed 64 bit seconds and the nanoseconds of one more. A sum or a difference
that this count cannot hold has no value. The sweep worker takes two steps on the count: it adds
the period to the moment of its start, and takes the threshold from the moment of each sweep. The
second may have no value, and the sweep does nothing then. The first is not looked after: where
the sum has no value the worker fails, whatever settings were accepted.
-/

set_option autoImplicit false

namespace ConfigWatch

/-! ## Moments of the machine -/

/-- A moment as the machine counts it. -/
structure Moment where
  seconds : Int64
  nanos : Fin 1000000000
deriving DecidableEq

namespace Moment

/-- A count of seconds, unless the machine cannot hold it. -/
def count? (seconds : Int) : Option Int64 :=
  if Numeral.fitsInt64 seconds then some (Int64.ofInt seconds) else none

/-- The moment some seconds after another. -/
def add? (moment : Moment) (seconds : Nat) : Option Moment :=
  (count? (moment.seconds.toInt + seconds)).map (fun seconds => { moment with seconds })

/-- The moment some seconds before another. -/
def sub? (moment : Moment) (seconds : Nat) : Option Moment :=
  (count? (moment.seconds.toInt - seconds)).map (fun seconds => { moment with seconds })

private theorem fits_iff {seconds : Int} :
    Numeral.fitsInt64 seconds = true ↔
      -9223372036854775808 ≤ seconds ∧ seconds < 9223372036854775808 := by
  rw [Numeral.fitsInt64, Bool.and_eq_true, decide_eq_true_iff, decide_eq_true_iff]
  rfl

theorem count?_eq_some_iff {seconds : Int} {count : Int64} :
    count? seconds = some count ↔ count.toInt = seconds := by
  rw [count?]
  split
  · next fits =>
    obtain ⟨low, high⟩ := fits_iff.mp fits
    have read : (Int64.ofInt seconds).toInt = seconds := Int64.toInt_ofInt_of_le low high
    rw [Option.some.injEq, ← Int64.toInt_inj, read, eq_comm]
  · next large =>
    refine ⟨fun none => (by cases none), fun same => absurd (fits_iff.mpr ?_) large⟩
    rw [← same]
    exact ⟨count.le_toInt, count.toInt_lt⟩

theorem count?_eq_none_iff {seconds : Int} :
    count? seconds = none ↔
      seconds < -9223372036854775808 ∨ 9223372036854775808 ≤ seconds := by
  have outside : count? seconds = none ↔ ¬ Numeral.fitsInt64 seconds = true := by simp [count?]
  rw [outside, fits_iff]
  omega

/-- A sum has no value where the seconds leave the range of the machine. -/
theorem add?_eq_none_iff {moment : Moment} {seconds : Nat} :
    moment.add? seconds = none ↔ 9223372036854775808 ≤ moment.seconds.toInt + seconds := by
  have low := moment.seconds.le_toInt
  rw [add?, Option.map_eq_none_iff, count?_eq_none_iff]
  omega

/-- A difference has no value where the seconds leave the range of the machine. -/
theorem sub?_eq_none_iff {moment : Moment} {seconds : Nat} :
    moment.sub? seconds = none ↔ moment.seconds.toInt - seconds < -9223372036854775808 := by
  have high := moment.seconds.toInt_lt
  rw [sub?, Option.map_eq_none_iff, count?_eq_none_iff]
  omega

end Moment

namespace Clock

variable {clock : Clock} {instant limit : Instant} {moment : Moment} {seconds : Nat}

/-- A moment of the run on the machine. -/
def moment? (clock : Clock) (instant : Instant) : Option Moment :=
  (Moment.count? (clock.origin + instant.seconds)).map (fun seconds =>
    ⟨seconds, Fin.ofNat 1000000000 (instant.fmod 1000000000).toNat⟩)

/-- The present on the machine. -/
def present? (clock : Clock) : Option Moment := clock.moment? (Instant.ofMillis clock.elapsed)

theorem seconds_of_moment? (shown : clock.moment? instant = some moment) :
    moment.seconds.toInt = clock.origin + instant.seconds := by
  obtain ⟨count, counted, rfl⟩ := Option.map_eq_some_iff.mp shown
  exact Moment.count?_eq_some_iff.mp counted

/-- The clock counts some seconds back exactly when the machine does. -/
theorem before?_eq_none_iff (shown : clock.moment? instant = some moment) :
    clock.before? instant seconds = none ↔ moment.sub? seconds = none := by
  have lowest : -(Int.pow 2 63) = -9223372036854775808 := rfl
  rw [Moment.sub?_eq_none_iff, seconds_of_moment? shown, before?, lowest, ite_eq_left_iff]
  constructor
  · intro unreached
    by_contra low
    cases unreached low
  · intro low high
    exact absurd low high

/-- Where the clock counts some seconds back, it comes to the moment that the machine comes to. -/
theorem moment?_before (shown : clock.moment? instant = some moment)
    (reached : clock.before? instant seconds = some limit) :
    clock.moment? limit = moment.sub? seconds := by
  have counted := seconds_of_moment? shown
  obtain ⟨count, _, rfl⟩ := Option.map_eq_some_iff.mp shown
  obtain rfl : instant - seconds * 1000000000 = limit := by
    rw [before?] at reached
    split at reached
    · cases reached
    · exact Option.some.inj reached
  have positive : (0 : Int) ≤ 1000000000 := by decide
  have whole : (instant - seconds * 1000000000).seconds = instant.seconds - seconds := by
    simp only [Instant.seconds, Int.fdiv_eq_ediv_of_nonneg _ positive]
    omega
  have rest : (instant - seconds * 1000000000).fmod 1000000000 = instant.fmod 1000000000 := by
    simp only [Int.fmod_eq_emod_of_nonneg _ positive]
    omega
  rw [moment?, Moment.sub?, whole, rest, counted, Int.add_sub_assoc]

/-- The clock counts some seconds on exactly when the machine does. -/
theorem canAwait_eq (clock : Clock) (seconds : Nat) :
    clock.canAwait seconds = (clock.present?.bind (·.add? seconds)).isSome := by
  have whole : (Instant.ofMillis clock.elapsed).seconds = (clock.elapsed / 1000 : Nat) := by
    rw [Instant.seconds, Instant.ofMillis, Int.fdiv_eq_ediv_of_nonneg _ (by decide)]
    omega
  have highest : Nat.pow 2 63 = 9223372036854775808 := rfl
  rw [Bool.eq_iff_iff, canAwait, decide_eq_true_iff, highest, Option.isSome_iff_ne_none]
  cases shown : clock.present? with
  | none =>
    rw [present?, moment?, Option.map_eq_none_iff, Moment.count?_eq_none_iff, whole] at shown
    simp only [Option.bind_none, ne_eq, not_true_eq_false, iff_false]
    omega
  | some now =>
    have counted := seconds_of_moment? shown
    rw [Option.bind_some, ne_eq, Moment.add?_eq_none_iff, counted, whole]
    omega

end Clock

/-! ## The start of the sweep worker -/

/-- Whether the sweep worker finds out in a section when to sweep first. One that is stopped before
it ran does so too. -/
def Occurrence.startsSweeps (occurrence : Occurrence) : Bool :=
  occurrence.before.sweepWorker == .starting &&
    match occurrence.act with
    | .startSweeps => true
    | .stopSweepWorker => occurrence.before.closed
    | _ => false

namespace Client

private theorem startSweepWorker_failed_iff (client : Client) :
    client.startSweepWorker = .failed ↔
      client.clock.canAwait client.settings.cleanupIntervalSeconds.toNat = false := by
  unfold startSweepWorker
  split
  · next counts => simp [counts]
  · next uncounted => simpa using uncounted

private theorem failed_iff_of_same {client : Client} {act : Section}
    (same : (client.perform act).2.sweepWorker = client.sweepWorker)
    (other : (Occurrence.mk client act).startsSweeps = false) :
    (client.perform act).2.sweepWorker = .failed ↔
      client.sweepWorker = .failed ∨ (Occurrence.mk client act).startsSweeps = true ∧
        client.clock.canAwait client.settings.cleanupIntervalSeconds.toNat = false := by
  rw [same, other]
  simp

/-- The sweep worker fails at its start or never. -/
theorem perform_failed_iff (client : Client) (act : Section) :
    (client.perform act).2.sweepWorker = .failed ↔
      client.sweepWorker = .failed ∨ (Occurrence.mk client act).startsSweeps = true ∧
        client.clock.canAwait client.settings.cleanupIntervalSeconds.toNat = false := by
  have idle : (client.sweepWorker == .starting && false) = false := Bool.and_false _
  cases act with
  | watch | unwatch | beginRead | finishRead | reply | sweep =>
    exact failed_iff_of_same (perform_unmoved client rfl).sweepWorker idle
  | startSweeps =>
    cases worker : client.sweepWorker with
    | starting => simp [perform, Occurrence.startsSweeps, worker, startSweepWorker_failed_iff]
    | sleeping | stopped | failed => simp [perform, Occurrence.startsSweeps, worker]
  | stopSweepWorker =>
    cases opened : client.closed with
    | false => simp [perform, Occurrence.startsSweeps, opened]
    | true =>
      cases worker : client.sweepWorker with
      | starting =>
        simp [perform, Occurrence.startsSweeps, opened, worker, stopSweepWorker,
          startSweepWorker_failed_iff]
      | sleeping | stopped | failed =>
        simp [perform, Occurrence.startsSweeps, opened, worker, stopSweepWorker]
  | scheduleSweep =>
    cases worker : client.sweepWorker <;> simp [perform, Occurrence.startsSweeps, worker]
  | requestStream | openStream | finishClose =>
    refine failed_iff_of_same ?_ idle
    simp only [perform]
    split <;> rfl
  | failStream =>
    refine failed_iff_of_same ?_ idle
    simp only [perform, cancelOutbound]
    cases client.streamWorker <;> rfl
  | cancelStream =>
    refine failed_iff_of_same ?_ idle
    simp only [perform, cancelOutbound]
    split <;> rfl
  | stopStreamWorker =>
    refine failed_iff_of_same ?_ idle
    simp only [perform, stopStreamWorker]
    split
    · split <;> rfl
    · rfl
  | poll | dropStream | beginClose | note | setClock => exact failed_iff_of_same rfl idle

end Client

/-- The sweep worker has failed when it started at a time from which the clock does not count as
far as the first sweep. -/
theorem Run.failed_iff {start client : Client} {history : List Occurrence} (fresh : start.Fresh)
    (run : Run start history client) :
    client.sweepWorker = .failed ↔ ∃ occurrence ∈ history, occurrence.startsSweeps = true ∧
      occurrence.before.clock.canAwait start.settings.cleanupIntervalSeconds.toNat = false := by
  induction run with
  | start =>
    rw [fresh.eq]
    simp
  | @step history client act run ih =>
    have settings := (run.settled fresh).1
    rw [client.perform_failed_iff, ih, settings]
    simp [List.mem_append, or_and_right, exists_or]

/-! ## Sweeps -/

/-- What a sweep does that has to look back to a moment of the machine: it removes what was idle
up to that moment, and tells the server. With no such moment it does nothing. -/
def Occurrence.SweepsTo (occurrence : Occurrence) : Option Moment → Prop
  | none => occurrence.after = occurrence.before
  | some earlier => ∃ limit, occurrence.before.clock.moment? limit = some earlier ∧
      occurrence.after = { occurrence.before with
        cache := (occurrence.before.cache.cleanup limit).2
        queue := { occurrence.before.queue with
          commands := occurrence.before.queue.commands ++
            (occurrence.before.cache.idleSubscriptions limit).map
              (fun id => ⟨occurrence.generation, .unsubscribe id⟩) } }

theorem Occurrence.sweepsTo {occurrence : Occurrence} {instant : Instant} {now : Moment}
    (sweeps : occurrence.act = .sweep instant)
    (shown : occurrence.before.clock.moment? instant = some now) :
    occurrence.SweepsTo
      (now.sub? occurrence.before.settings.inactivityThresholdSeconds.toNat) := by
  obtain ⟨before, act⟩ := occurrence
  obtain rfl : act = .sweep instant := sweeps
  cases difference : now.sub? before.settings.inactivityThresholdSeconds.toNat with
  | none => exact Client.sweepAt_unreached ((Clock.before?_eq_none_iff shown).mpr difference)
  | some earlier =>
    cases reached :
        before.clock.before? instant before.settings.inactivityThresholdSeconds.toNat with
    | none =>
      rw [(Clock.before?_eq_none_iff shown).mp reached] at difference
      cases difference
    | some limit =>
      exact ⟨limit, (Clock.moment?_before shown reached).trans difference,
        Client.sweepAt_eq reached⟩

/-- With settings that were accepted, the sweep worker fails exactly where the machine cannot add
the period to the moment at which the worker starts. No sweep fails: at any moment it looks back as
far as the machine does, and does nothing where the machine cannot. -/
theorem sweeping_fails_iff {start client : Client} {history : List Occurrence}
    (fresh : start.Fresh) (run : Run start history client) :
    (client.sweepWorker = .failed ↔ ∃ occurrence ∈ history, occurrence.startsSweeps = true ∧
      occurrence.before.clock.present?.bind
        (·.add? start.settings.cleanupIntervalSeconds.toNat) = none) ∧
    ∀ occurrence ∈ history, ∀ instant now, occurrence.act = .sweep instant →
      occurrence.before.clock.moment? instant = some now →
      occurrence.after.sweepWorker = occurrence.before.sweepWorker ∧
        occurrence.SweepsTo (now.sub? start.settings.inactivityThresholdSeconds.toNat) := by
  constructor
  · simp only [run.failed_iff fresh, Clock.canAwait_eq, Option.isSome_eq_false_iff,
      Option.isNone_iff_eq_none]
  · intro occurrence member instant now sweeps shown
    obtain ⟨_, before⟩ := run.reaches member
    rw [← (before.settled fresh).1]
    have kept : (occurrence.before.perform occurrence.act).2.sweepWorker =
        occurrence.before.sweepWorker := by
      rw [sweeps]
      exact (Client.perform_unmoved occurrence.before rfl).sweepWorker
    exact ⟨kept, Occurrence.sweepsTo sweeps shown⟩

/-- A client that is to keep everything for longer than the machine counts. -/
private def patient : Client :=
  { settings := { inactivityThresholdSeconds := 18446744073709551615 }
    cache := { capacity := 1000 } }

/-- A threshold that the machine cannot look back across does no harm. -/
theorem sweeping_fails_iff_patient :
    ∃ history client, patient.Fresh ∧ Run patient history client ∧
      client.sweepWorker ≠ .failed ∧
      ∃ occurrence ∈ history, occurrence.act = .sweep 60000000001 ∧
        occurrence.after = occurrence.before := by
  have fresh : patient.Fresh := ⟨patient.settings, {}, rfl⟩
  have run := (Run.start : Run patient [] patient).performAll
    [.startSweeps, .setClock { elapsed := 60000 }, .sweep 60000000001]
  obtain ⟨fails, sweeps⟩ := sweeping_fails_iff fresh run
  refine ⟨_, _, fresh, run, fun failed => ?_, _, .tail _ (.tail _ (.head _)), rfl, ?_⟩
  · obtain ⟨occurrence, member, starts, uncounted⟩ := fails.mp failed
    rcases List.mem_cons.mp member with rfl | later
    · exact absurd uncounted (by decide)
    · rcases List.mem_cons.mp later with rfl | last
      · cases starts
      · obtain rfl := List.mem_singleton.mp last
        cases starts
  · have unreached :
        Moment.sub? ⟨61, 1⟩ patient.settings.inactivityThresholdSeconds.toNat = none := by decide
    have swept := (sweeps _ (.tail _ (.tail _ (.head _))) _ ⟨61, 1⟩ rfl (by decide)).2
    rw [unreached] at swept
    exact swept

/-- A period that is accepted, and that the machine cannot add to the moment of the start: the
sweep worker fails, and with it the close. -/
theorem sweeping_fails_accepted :
    let settings : CacheSettings := { cleanupIntervalSeconds := 18446744073709551615 }
    settings.check = .ok () ∧
    ∃ client now, Client.create settings {} = .ok client ∧ client.clock.present? = some now ∧
      now.add? settings.cleanupIntervalSeconds.toNat = none ∧
      (client.perform .startSweeps).2.sweepWorker = .failed ∧
      client.close.1 = .error .workerFailed := by
  refine ⟨rfl, _, ⟨1, 0⟩, rfl, ?_, ?_, rfl, rfl⟩
  · decide
  · decide

end ConfigWatch

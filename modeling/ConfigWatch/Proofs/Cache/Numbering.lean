import ConfigWatch.Proofs.Cache.Keeping
import ConfigWatch.Proofs.Client.Effects
import Mathlib.Algebra.Group.Nat.Defs

/-!
# Numbers given in turn

Subscriptions and watchers get the numbers of a counter of 32 bits in turn, and after all of them
the counter starts over without regard to who still has a number. So the one that a number is
given to displaces the holder of it exactly when the holder stayed for a whole round: it is the
one that came 2 ^ 32 turns before.
-/

set_option autoImplicit false

namespace ConfigWatch

/-- Whatever a table holds got its number in its turn, and no later turn came to that number. -/
structure Numbered {α : Type} (table : Table UInt32 α) (next : UInt32) (entered : List α) :
    Prop where
  next : next = UInt32.ofNat entered.length
  held : ∀ number entry, table.get? number = some entry → ∃ turn, entered[turn]? = some entry ∧
    number = UInt32.ofNat turn ∧ entered.length ≤ turn + 2 ^ 32

/-- The number that comes next is taken exactly if 2 ^ 32 numbers were given before it, and the one
that got the first of the last 2 ^ 32 still has it. -/
def TakenARoundBefore {α : Type} (table : Table UInt32 α) (entered : List α) : Prop :=
  ∀ entry, table.get? (UInt32.ofNat entered.length) = some entry ↔
    2 ^ 32 ≤ entered.length ∧ entered[entered.length - 2 ^ 32]? = some entry ∧
      table.get? (UInt32.ofNat (entered.length - 2 ^ 32)) = some entry

namespace Numbered

variable {α : Type} {table : Table UInt32 α} {next : UInt32} {entered : List α}

theorem empty : Numbered (Table.empty : Table UInt32 α) 0 [] :=
  ⟨rfl, fun _ _ found => nomatch found⟩

/-- Turns that are given the same number are whole rounds apart. -/
theorem turn_eq {turn later : Nat} (same : UInt32.ofNat later = UInt32.ofNat turn)
    (lt : turn < later) (recent : later ≤ turn + 2 ^ 32) : later = turn + 2 ^ 32 := by
  have equal := congrArg UInt32.toNat same
  simp only [UInt32.toNat_ofNat'] at equal
  omega

theorem enter (numbered : Numbered table next entered) (entry : α) :
    Numbered (table.insert next entry) (next + 1) (entered ++ [entry]) := by
  constructor
  case next =>
    rw [numbered.next, List.length_append, List.length_singleton, UInt32.ofNat_add]
    rfl
  case held =>
    intro number other found
    rw [Table.get?_insert] at found
    split at found
    · next same =>
      cases found
      refine ⟨entered.length, by simp, same.trans numbered.next, ?_⟩
      rw [List.length_append, List.length_singleton]
      omega
    · next differ =>
      obtain ⟨turn, there, given, recent⟩ := numbered.held number other found
      obtain ⟨lt, -⟩ := List.getElem?_eq_some_iff.mp there
      have apart : entered.length ≠ turn + 2 ^ 32 := by
        intro round
        refine differ (given.trans ?_)
        rw [numbered.next, round, UInt32.ofNat_add]
        exact (UInt32.add_zero _).symm
      refine ⟨turn, by rw [List.getElem?_append_left lt, there], given, ?_⟩
      rw [List.length_append, List.length_singleton]
      omega

theorem fewer {left : Table UInt32 α} (numbered : Numbered table next entered)
    (fewer : ∀ number entry, left.get? number = some entry → table.get? number = some entry) :
    Numbered left next entered :=
  ⟨numbered.next, fun number entry found => numbered.held number entry (fewer number entry found)⟩

theorem taken (numbered : Numbered table next entered) : TakenARoundBefore table entered := by
  intro entry
  constructor
  · intro found
    obtain ⟨turn, there, given, recent⟩ := numbered.held _ entry found
    obtain ⟨lt, -⟩ := List.getElem?_eq_some_iff.mp there
    have round := turn_eq given lt recent
    have back : entered.length - 2 ^ 32 = turn := by omega
    rw [back, ← given]
    exact ⟨by omega, there, found⟩
  · intro ⟨round, _, stayed⟩
    have whole : entered.length = (entered.length - 2 ^ 32) + 2 ^ 32 := by omega
    have same : UInt32.ofNat entered.length = UInt32.ofNat (entered.length - 2 ^ 32) := by
      conv => lhs; rw [whole, UInt32.ofNat_add]
      exact UInt32.add_zero _
    rwa [same]

end Numbered

/-! ## What an operation adds -/

namespace CacheStep

variable (step : CacheStep)

/-- The document whose record the operation makes. -/
def opens? : Option (NamespaceKey × DocumentKey) :=
  match step.operation, step.result.1 with
  | .openRecord space key, .opened true _ => some (space, key)
  | _, _ => none

/-- The watcher that the operation adds, and the document whose record it is added to. -/
def joins? : Option ((NamespaceKey × DocumentKey) × Watcher) :=
  match step.operation with
  | .addWatcher subscription label =>
    (step.before.cache.located? subscription).map (fun (space, key, _) => ((space, key), { label }))
  | _ => none

def resets : Bool :=
  match step.operation with
  | .reset => true
  | _ => false

/-- The documents whose records were made since the last reset, once the operation is done. -/
def opened (before : List (NamespaceKey × DocumentKey)) : List (NamespaceKey × DocumentKey) :=
  if step.resets then [] else before ++ step.opens?.toList

/-- The watchers that the present record of a document was given, once the operation is done. -/
def joined (place : NamespaceKey × DocumentKey) (before : List Watcher) : List Watcher :=
  (if step.opens? = some place then [] else before) ++
    match step.joins? with
    | some (other, watcher) => if other = place then [watcher] else []
    | none => []

end CacheStep

/-- The documents whose records some operations made since the last reset. -/
def openings (steps : List CacheStep) : List (NamespaceKey × DocumentKey) :=
  steps.foldl (fun before step => step.opened before) []

/-- The watchers that some operations gave to the present record of a document. -/
def joinings (steps : List CacheStep) (place : NamespaceKey × DocumentKey) : List Watcher :=
  steps.foldl (fun before step => step.joined place before) []

/-! ## The counters along a run -/

/-- How the numbers of a cache were given, by the turns of the subscriptions and of the watchers. -/
structure Cache.Tallied (cache : Cache) (made : List (NamespaceKey × DocumentKey))
    (given : NamespaceKey × DocumentKey → List Watcher) : Prop where
  subscriptions : Numbered cache.bySubscription cache.nextSubscription made
  watchers : ∀ space key record, cache.recordAt? space key = some record →
    Numbered record.watchers record.nextWatcher (given (space, key))

namespace Cache.Tallied

variable {cache later : Cache} {made : List (NamespaceKey × DocumentKey)}
  {given : NamespaceKey × DocumentKey → List Watcher}

theorem start (capacity : Nat) : Tallied { capacity } [] (fun _ => []) :=
  ⟨Numbered.empty, fun _ _ _ found => nomatch found⟩

theorem keeping (tallied : cache.Tallied made given) (keeps : cache.Keeps later) :
    later.Tallied made given := by
  constructor
  case subscriptions =>
    rw [keeps.next]
    exact tallied.subscriptions.fewer keeps.index
  case watchers =>
    intro space key record found
    obtain ⟨held, there, kept⟩ := keeps.records space key record found
    rw [kept.next]
    exact (tallied.watchers space key held there).fewer kept.watchers

theorem opens (tallied : cache.Tallied made given) {space : NamespaceKey} {key : DocumentKey}
    (absent : cache.recordAt? space key = none) (now : Instant) :
    (cache.withNewRecord space key now).Tallied (made ++ [(space, key)])
      (fun place => if (space, key) = place then [] else given place) := by
  constructor
  case subscriptions => exact tallied.subscriptions.enter (space, key)
  case watchers =>
    intro other document record found
    rw [recordAt?_withNewRecord, recordFor_new absent] at found
    split at found
    · next here =>
      obtain ⟨rfl, rfl⟩ := here
      cases found
      rw [if_pos rfl]
      exact Numbered.empty
    · next elsewhere =>
      have differ : (space, key) ≠ (other, document) := by
        intro same
        cases same
        exact elsewhere ⟨rfl, rfl⟩
      rw [if_neg differ]
      exact tallied.watchers other document record found

theorem joins (tallied : cache.Tallied made given) {space : NamespaceKey} {key : DocumentKey}
    {record : Record} (there : cache.recordAt? space key = some record) (watcher : Watcher) :
    (cache.modifyRecord space key (fun _ => (record.addWatcher watcher).2)).Tallied made
      (fun place => given place ++ if (space, key) = place then [watcher] else []) := by
  constructor
  case subscriptions => exact tallied.subscriptions
  case watchers =>
    intro other document later found
    rw [recordAt?_modifyRecord] at found
    split at found
    · next here =>
      obtain ⟨rfl, rfl⟩ := here
      rw [there] at found
      cases found
      rw [if_pos rfl]
      exact (tallied.watchers other document record there).enter watcher
    · next elsewhere =>
      have differ : (space, key) ≠ (other, document) := by
        intro same
        cases same
        exact elsewhere ⟨rfl, rfl⟩
      rw [if_neg differ, List.append_nil]
      exact tallied.watchers other document later found

theorem resets : cache.reset.2.Tallied [] given :=
  ⟨Numbered.empty, fun _ _ _ found => nomatch found⟩

end Cache.Tallied

namespace CacheStep

/-- An operation that gives no number leaves what has one, or less. -/
theorem keeps {step : CacheStep} (opens : step.opens? = none) (joins : step.joins? = none)
    (stays : step.resets = false) : step.before.cache.Keeps step.after.cache := by
  obtain ⟨scenario, operation⟩ := step
  have same : scenario.cache.Keeps scenario.cache := (Cache.SameRecords.refl scenario.cache).keeps
  cases operation with
  | reset => cases stays
  | openRecord space key =>
    cases found : scenario.cache.recordAt? space key with
    | none =>
      simp [opens?, result, CacheScenario.perform, CacheScenario.quietly, CacheScenario.now,
        Cache.recordOrNew_new found] at opens
    | some record =>
      simpa [after, result, CacheScenario.perform, CacheScenario.quietly, CacheScenario.now,
        Cache.recordOrNew_found found] using same
  | addWatcher subscription label =>
    have unknown : scenario.cache.located? subscription = none := Option.map_eq_none_iff.mp joins
    simpa [after, result, CacheScenario.perform, CacheScenario.quietly, CacheScenario.addWatcher,
      unknown] using same
  | removeWatcher subscription watcher => exact scenario.removeWatcher_keeps subscription watcher
  | resolve offer =>
    simp only [after, result, CacheScenario.perform, CacheScenario.quietly]
    split
    · exact same
    · next resolved => exact scenario.resolve_keeps resolved
  | insertVersion space version key offer =>
    simp only [after, result, CacheScenario.perform, CacheScenario.quietly]
    split
    · exact same
    · next resolved =>
      exact (scenario.resolve_keeps resolved).trans (Cache.insertVersion_same ..).keeps
  | update subscription version offer =>
    simp only [after, result, CacheScenario.perform]
    split
    · exact same
    · next content later resolved =>
      exact (scenario.resolve_keeps resolved).trans
        (later.changeRecord_keeps subscription (Record.update_keeps version content))
  | updateStatus subscription status =>
    exact scenario.changeRecord_keeps subscription (Record.updateStatus_keeps status)
  | deactivate subscription =>
    exact scenario.changeRecord_keeps subscription Record.deactivate_keeps
  | touch subscription => exact scenario.now.2.touchAt_keeps subscription scenario.now.1
  | touchAt subscription millis => exact scenario.touchAt_keeps subscription _
  | readVersion space version key =>
    simp only [after, result, CacheScenario.perform, CacheScenario.quietly]
    split
    · exact same
    · next found => exact (Cache.readVersion_same found).keeps
  | openNamespace space => exact Cache.ensureNamespace_keeps scenario.cache space
  | forgetSubscription subscription =>
    exact Cache.forgetSubscription_keeps scenario.cache subscription
  | cleanup limit => exact Cache.cleanup_keeps scenario.cache _
  | _ => exact same

theorem opens?_eq_some {step : CacheStep} {space : NamespaceKey} {key : DocumentKey}
    (opens : step.opens? = some (space, key)) :
    step.operation = .openRecord space key ∧ step.before.cache.recordAt? space key = none := by
  obtain ⟨scenario, operation⟩ := step
  cases operation with
  | openRecord other document =>
    cases found : scenario.cache.recordAt? other document with
    | none =>
      simp only [opens?, result, CacheScenario.perform, CacheScenario.quietly, CacheScenario.now,
        Cache.recordOrNew_new found] at opens
      cases opens
      exact ⟨rfl, found⟩
    | some record =>
      simp [opens?, result, CacheScenario.perform, CacheScenario.quietly, CacheScenario.now,
        Cache.recordOrNew_found found] at opens
  | _ => simp [opens?] at opens

theorem joins?_eq_some {step : CacheStep} {space : NamespaceKey} {key : DocumentKey}
    {watcher : Watcher} (joins : step.joins? = some ((space, key), watcher)) :
    ∃ subscription label record, step.operation = .addWatcher subscription label ∧
      watcher = { label } ∧
      step.before.cache.located? subscription = some (space, key, record) := by
  obtain ⟨scenario, operation⟩ := step
  cases operation with
  | addWatcher subscription label =>
    obtain ⟨⟨other, document, record⟩, located, same⟩ := Option.map_eq_some_iff.mp joins
    cases same
    exact ⟨subscription, label, record, rfl, rfl, located⟩
  | _ => simp [joins?] at joins

/-- An operation gives the numbers that it gives in their turns. -/
theorem tallied {step : CacheStep} {made : List (NamespaceKey × DocumentKey)}
    {given : NamespaceKey × DocumentKey → List Watcher}
    (tallied : step.before.cache.Tallied made given) :
    step.after.cache.Tallied (step.opened made) (fun place => step.joined place (given place)) := by
  cases resets : step.resets with
  | true =>
    obtain ⟨scenario, operation⟩ := step
    cases operation with
    | reset => exact Cache.Tallied.resets
    | _ => cases resets
  | false =>
    cases opens : step.opens? with
    | some place =>
      obtain ⟨space, key⟩ := place
      obtain ⟨operation, absent⟩ := opens?_eq_some opens
      have alone : step.joins? = none := by rw [joins?, operation]
      have after : step.after.cache =
          step.before.cache.withNewRecord space key step.before.now.1 := by
        simp only [after, result, operation, CacheScenario.perform, CacheScenario.quietly,
          CacheScenario.now, Cache.recordOrNew_new absent]
      rw [after]
      simpa [opened, joined, resets, opens, alone] using tallied.opens absent step.before.now.1
    | none =>
      cases joins : step.joins? with
      | none =>
        have later := tallied.keeping (keeps opens joins resets)
        simpa [opened, joined, resets, opens, joins] using later
      | some joining =>
        obtain ⟨⟨space, key⟩, watcher⟩ := joining
        obtain ⟨subscription, label, record, operation, rfl, located⟩ := joins?_eq_some joins
        have after : step.after.cache = step.before.cache.modifyRecord space key
            (fun _ => (record.addWatcher { label }).2) := by
          simp only [after, result, operation, CacheScenario.perform, CacheScenario.quietly,
            CacheScenario.addWatcher, located]
        have there := (Cache.located?_eq_some_iff.mp located).2
        have later := tallied.joins there { label }
        rw [after]
        simpa [opened, joined, resets, opens, joins] using later

end CacheStep

namespace CacheScenario

/-- The scenario after some operations. -/
def carryOut (scenario : CacheScenario) (operations : List CacheOperation) : CacheScenario :=
  operations.foldl (fun scenario operation => (scenario.perform operation).2.2) scenario

theorem steps_append (scenario : CacheScenario) (operations more : List CacheOperation) :
    scenario.steps (operations ++ more) =
      scenario.steps operations ++ (scenario.carryOut operations).steps more := by
  induction operations generalizing scenario with
  | nil => rfl
  | cons operation rest ih =>
    rw [List.cons_append, steps, ih, steps, List.cons_append]
    rfl

theorem tallied_steps {scenario : CacheScenario} {operations : List CacheOperation}
    {earlier later : List CacheStep} {step : CacheStep}
    {made : List (NamespaceKey × DocumentKey)} {given : NamespaceKey × DocumentKey → List Watcher}
    (tallied : scenario.cache.Tallied made given)
    (ran : scenario.steps operations = earlier ++ step :: later) :
    step.before.cache.Tallied (earlier.foldl (fun before step => step.opened before) made)
      (fun place => earlier.foldl (fun before step => step.joined place before) (given place)) := by
  induction earlier generalizing scenario operations made given with
  | nil =>
    cases operations with
    | nil => cases ran
    | cons operation rest =>
      cases ran
      exact tallied
  | cons first earlier ih =>
    cases operations with
    | nil => cases ran
    | cons operation rest =>
      obtain ⟨rfl, onwards⟩ := List.cons.inj ran
      exact ih (@CacheStep.tallied ⟨scenario, operation⟩ _ _ tallied) onwards

end CacheScenario

/-- A new record gets the number of records made since the last reset as its id, and a watcher the
number of watchers that its record was given, up to whole rounds. That id or number is taken exactly
if the one that came a round before still has it, so never in the first round. -/
theorem numbers_taken_a_round_before {capacity : Nat} {operations : List CacheOperation}
    {earlier later : List CacheStep} {step : CacheStep}
    (ran : (CacheScenario.start capacity).steps operations = earlier ++ step :: later) :
    (∀ space key id, step.operation = .openRecord space key →
      step.result.1 = .opened true id →
        id = UInt32.ofNat (openings earlier).length ∧
          TakenARoundBefore step.before.cache.bySubscription (openings earlier)) ∧
    (∀ subscription label space key record, step.operation = .addWatcher subscription label →
      step.before.cache.located? subscription = some (space, key, record) →
        step.result.1 = .count (UInt32.ofNat (joinings earlier (space, key)).length).toNat ∧
          TakenARoundBefore record.watchers (joinings earlier (space, key))) := by
  have tallied : step.before.cache.Tallied (openings earlier) (joinings earlier) :=
    CacheScenario.tallied_steps (Cache.Tallied.start capacity) ran
  constructor
  · intro space key id operation opened
    refine ⟨?_, tallied.subscriptions.taken⟩
    have opens : step.opens? = some (space, key) := by rw [CacheStep.opens?, operation, opened]
    have absent := (CacheStep.opens?_eq_some opens).2
    simp only [CacheStep.result, operation, CacheScenario.perform, CacheScenario.quietly,
      CacheScenario.now, Cache.recordOrNew_new absent, Cache.recordFor_new absent] at opened
    cases opened
    exact tallied.subscriptions.next
  · intro subscription label space key record operation located
    have there := (Cache.located?_eq_some_iff.mp located).2
    have numbered := tallied.watchers space key record there
    refine ⟨?_, numbered.taken⟩
    simp only [CacheStep.result, operation, CacheScenario.perform, CacheScenario.quietly,
      CacheScenario.addWatcher, located, Record.addWatcher]
    rw [numbered.next]

private def root : NamespaceKey × DocumentKey := ({}, {})

private def twoWatchers : List CacheOperation :=
  [.openRecord root.1 root.2, .addWatcher 0 "first", .addWatcher 0 "second"]

theorem numbers_taken_a_round_before_second :
    ∃ (earlier : List CacheStep) (step : CacheStep) (record : Record),
      (CacheScenario.start 0).steps twoWatchers = earlier ++ [step] ∧
      step.operation = .addWatcher 0 "second" ∧
      step.before.cache.located? 0 = some (root.1, root.2, record) ∧ step.result.1 = .count 1 ∧
      TakenARoundBefore record.watchers [{ label := "first" }] := by
  have ran : (CacheScenario.start 0).steps twoWatchers =
      (CacheScenario.start 0).steps (twoWatchers.take 2) ++
        ((CacheScenario.start 0).carryOut (twoWatchers.take 2)).steps (twoWatchers.drop 2) := rfl
  obtain ⟨answered, taken⟩ :=
    (numbers_taken_a_round_before ran).2 0 "second" root.1 root.2 _ rfl rfl
  exact ⟨_, _, _, ran, rfl, rfl, answered, taken⟩

/-! ## A whole round -/

private theorem steps_last (scenario : CacheScenario) (operations : List CacheOperation)
    (operation : CacheOperation) :
    scenario.steps (operations ++ [operation]) =
      scenario.steps operations ++ [⟨scenario.carryOut operations, operation⟩] :=
  scenario.steps_append operations [operation]

private theorem carryOut_append (scenario : CacheScenario) (operations more : List CacheOperation) :
    scenario.carryOut (operations ++ more) = (scenario.carryOut operations).carryOut more :=
  List.foldl_append

/-- A record with a watcher. -/
private def opening : List CacheOperation := [.openRecord root.1 root.2, .addWatcher 0 "kept"]

/-- Watchers that come and go beside one that stays. -/
private def comeAndGo (rounds : Nat) : List CacheOperation :=
  (List.range rounds).flatMap (fun turn =>
    [.addWatcher 0 "brief", .removeWatcher 0 (UInt32.ofNat (turn + 1))])

/-- One watcher stays while as many come and go as there are other numbers, and one comes late. -/
def wholeRound : List CacheOperation :=
  opening ++ comeAndGo (2 ^ 32 - 1) ++ [CacheOperation.addWatcher 0 "late"]

/-- The first watcher has its number, and so many numbers were given after it. -/
private def StaysWatching (scenario : CacheScenario) (rounds : Nat) : Prop :=
  ∃ record, scenario.cache.located? 0 = some (root.1, root.2, record) ∧
    record.watchers.get? 0 = some { label := "kept" } ∧
    record.nextWatcher = UInt32.ofNat (rounds + 1)

private theorem located?_of_modify {cache : Cache} {id : UInt32} {space : NamespaceKey}
    {key : DocumentKey} {record : Record} (located : cache.located? id = some (space, key, record))
    (changed : Record) :
    (cache.modifyRecord space key (fun _ => changed)).located? id = some (space, key, changed) := by
  obtain ⟨index, there⟩ := Cache.located?_eq_some_iff.mp located
  refine Cache.located?_eq_some_iff.mpr ⟨index, ?_⟩
  rw [Cache.recordAt?_modifyRecord, if_pos ⟨rfl, rfl⟩, there, Option.map_some]

private theorem ofNat_ne_zero {turn : Nat} (small : turn + 1 < 2 ^ 32) :
    (0 : UInt32) ≠ UInt32.ofNat (turn + 1) := by
  intro same
  have equal := congrArg UInt32.toNat same
  simp only [UInt32.toNat_ofNat', UInt32.toNat_zero] at equal
  omega

private theorem StaysWatching.round {scenario : CacheScenario} {rounds : Nat}
    (stays : StaysWatching scenario rounds) (small : rounds + 1 < 2 ^ 32) :
    StaysWatching (scenario.carryOut
      [.addWatcher 0 "brief", .removeWatcher 0 (UInt32.ofNat (rounds + 1))]) (rounds + 1) := by
  obtain ⟨record, located, kept, next⟩ := stays
  have apart := ofNat_ne_zero small
  have joined := located?_of_modify located (record.addWatcher { label := "brief" }).2
  have left := located?_of_modify joined
    ((record.addWatcher { label := "brief" }).2.removeWatcher (UInt32.ofNat (rounds + 1))).2
  have carried : (scenario.carryOut
      [.addWatcher 0 "brief", .removeWatcher 0 (UInt32.ofNat (rounds + 1))]).cache.located? 0 =
        some (root.1, root.2, ((record.addWatcher { label := "brief" }).2.removeWatcher
          (UInt32.ofNat (rounds + 1))).2) := by
    simpa only [CacheScenario.carryOut, List.foldl_cons, List.foldl_nil, CacheScenario.perform,
      CacheScenario.quietly, CacheScenario.addWatcher, located, CacheScenario.removeWatcher, joined]
      using left
  refine ⟨_, carried, ?_, ?_⟩
  · simp only [Record.removeWatcher, Record.addWatcher, Table.get?_erase, Table.get?_insert, next,
      if_neg apart, kept]
  · simp only [Record.removeWatcher, Record.addWatcher, next]
    rw [UInt32.ofNat_add (rounds + 1)]
    rfl

private theorem StaysWatching.rounds {scenario : CacheScenario}
    (stays : StaysWatching scenario 0) {rounds : Nat} (small : rounds < 2 ^ 32) :
    StaysWatching (scenario.carryOut (comeAndGo rounds)) rounds := by
  induction rounds with
  | zero => exact stays
  | succ rounds ih =>
    have before := ih (Nat.lt_of_succ_lt small)
    rw [comeAndGo, List.range_succ, List.flatMap_append, carryOut_append]
    exact before.round small

private theorem ofNat_whole_round : UInt32.ofNat (2 ^ 32 - 1 + 1) = 0 := by decide

/-- A record is watched, while others are opened and swept away at once. -/
private def openAndSweep (rounds : Nat) : List CacheOperation :=
  (List.range rounds).flatMap (fun _ =>
    [.openRecord root.1 { document := "brief" }, .cleanup 5000])

/-- One record stays while as many come and go as there are other ids, and one comes late. -/
def wholeRoundOfRecords : List CacheOperation :=
  opening ++ openAndSweep (2 ^ 32 - 1) ++ [CacheOperation.openRecord root.1 { document := "late" }]

/-- The first record has its id, and so many ids were given after it. -/
private structure StaysOpen (scenario : CacheScenario) (rounds : Nat) : Prop where
  index : scenario.cache.bySubscription.get? 0 = some root
  next : scenario.cache.nextSubscription = UInt32.ofNat (rounds + 1)
  present : ∃ record, scenario.cache.recordAt? root.1 root.2 = some record
  watched : ∀ space key record, scenario.cache.recordAt? space key = some record →
    (space, key) = root ∧ record.watchers.size ≠ 0
  elapsed : scenario.clock.elapsed = 0
  reads : scenario.clock.reads ≤ rounds + 1

private theorem Record.isIdle_of_watched {record : Record} (watched : record.watchers.size ≠ 0)
    (limit : Instant) : record.isIdle limit = false := by
  rw [isIdle, beq_false_of_ne watched, Bool.false_and]

private theorem Cache.watched_cleanup {cache : Cache} {space : NamespaceKey} {key : DocumentKey}
    {record : Record} (there : cache.recordAt? space key = some record)
    (watched : record.watchers.size ≠ 0) (limit : Instant) :
    ∃ left, (cache.cleanup limit).2.recordAt? space key = some left := by
  have rest := restAt?_cleanup cache limit space key
  rw [there, Option.filter_some, Record.isIdle_of_watched watched] at rest
  obtain ⟨left, found, -⟩ := exists_recordAt? rest
  exact ⟨left, found⟩

private theorem StaysOpen.round {scenario : CacheScenario} {rounds : Nat}
    (stays : StaysOpen scenario rounds) (small : rounds + 1 < 2 ^ 32) :
    StaysOpen (scenario.carryOut
      [.openRecord root.1 { document := "brief" }, .cleanup 5000]) (rounds + 1) := by
  have apart := ofNat_ne_zero small
  have absent : scenario.cache.recordAt? root.1 { document := "brief" } = none := by
    cases found : scenario.cache.recordAt? root.1 { document := "brief" } with
    | none => rfl
    | some record => exact absurd (stays.watched _ _ record found).1 (by decide)
  have later : scenario.carryOut [.openRecord root.1 { document := "brief" }, .cleanup 5000] =
      { cache := ((scenario.cache.withNewRecord root.1 { document := "brief" }
          scenario.clock.read.1).cleanup (Instant.ofMillis 5000)).2
        clock := scenario.clock.read.2 } := by
    simp only [CacheScenario.carryOut, List.foldl_cons, List.foldl_nil, CacheScenario.perform,
      CacheScenario.quietly, CacheScenario.now, Cache.recordOrNew_new absent]
  generalize opened : scenario.cache.withNewRecord root.1 { document := "brief" }
    scenario.clock.read.1 = cache at later
  -- What the sweep finds is the watched record and a brief one, which it takes.
  have finds : ∀ space key record, cache.recordAt? space key = some record →
      (record.isIdle (Instant.ofMillis 5000) = true ∧
        record.subscription = UInt32.ofNat (rounds + 1)) ∨
      (space, key) = root ∧ record.watchers.size ≠ 0 := by
    intro space key record found
    rw [← opened, Cache.recordAt?_withNewRecord, Cache.recordFor_new absent] at found
    split at found
    · cases found
      refine .inl ⟨?_, stays.next⟩
      have early : scenario.clock.read.1 < Instant.ofMillis 5000 := by
        have reads := stays.reads
        rw [Clock.read, stays.elapsed]
        show (0 * 1000000 + (scenario.clock.reads + 1 : Nat) : Int) < 5000 * 1000000
        omega
      simpa [Record.isIdle, Table.size, Table.empty] using early
    · exact .inr (stays.watched space key record found)
  have present : ∃ record, cache.recordAt? root.1 root.2 = some record ∧
      record.watchers.size ≠ 0 := by
    obtain ⟨record, there⟩ := stays.present
    refine ⟨record, ?_, (stays.watched _ _ record there).2⟩
    rw [← opened, Cache.recordAt?_withNewRecord, if_neg (by decide)]
    exact there
  rw [later]
  constructor
  case index =>
    have kept : 0 ∉ cache.idleSubscriptions (Instant.ofMillis 5000) := by
      intro idle
      obtain ⟨space, key, record, found, idle, same⟩ := Cache.mem_idleSubscriptions_iff.mp idle
      rcases finds space key record found with ⟨-, given⟩ | ⟨-, watched⟩
      · exact apart (same.symm.trans given)
      · rw [Record.isIdle_of_watched watched] at idle
        cases idle
    have entry : cache.bySubscription.get? 0 = some root := by
      rw [← opened, Cache.withNewRecord]
      simp only [Table.get?_insert, stays.next, if_neg apart, stays.index]
    rw [Cache.bySubscription_cleanup, if_neg kept]
    exact entry
  case next =>
    have next : cache.nextSubscription = scenario.cache.nextSubscription + 1 := by
      rw [← opened]
      rfl
    refine next.trans ?_
    rw [stays.next, UInt32.ofNat_add (rounds + 1)]
    rfl
  case present =>
    obtain ⟨record, there, watched⟩ := present
    exact Cache.watched_cleanup there watched _
  case watched =>
    intro space key record found
    have rest := Cache.restAt?_cleanup cache (Instant.ofMillis 5000) space key
    rw [Cache.restAt?_eq_some found] at rest
    obtain ⟨held, there, same⟩ := Option.map_eq_some_iff.mp rest.symm
    obtain ⟨there, busy⟩ := Option.filter_eq_some_iff.mp there
    have watchers : held.atRest.watchers = record.atRest.watchers := by rw [same]
    rcases finds space key held there with ⟨idle, -⟩ | ⟨place, watched⟩
    · rw [idle] at busy
      cases busy
    · exact ⟨place, fun none => watched ((congrArg Table.size watchers).trans none)⟩
  case elapsed => exact stays.elapsed
  case reads => exact Nat.succ_le_succ stays.reads

private theorem StaysOpen.rounds {scenario : CacheScenario}
    (stays : StaysOpen scenario 0) {rounds : Nat} (small : rounds < 2 ^ 32) :
    StaysOpen (scenario.carryOut (openAndSweep rounds)) rounds := by
  induction rounds with
  | zero => exact stays
  | succ rounds ih =>
    have before := ih (Nat.lt_of_succ_lt small)
    rw [openAndSweep, List.range_succ, List.flatMap_append, carryOut_append]
    exact before.round small

private theorem late_watcher {rounds : Nat} (small : rounds < 2 ^ 32) :
    ∃ (earlier : List CacheStep) (step : CacheStep) (record : Record),
      (CacheScenario.start 0).steps (opening ++ comeAndGo rounds ++
        [CacheOperation.addWatcher 0 "late"]) = earlier ++ [step] ∧
      step.operation = .addWatcher 0 "late" ∧
      step.before.cache.located? 0 = some (root.1, root.2, record) ∧
      record.watchers.get? 0 = some { label := "kept" } ∧
      step.result.1 = .count (UInt32.ofNat (rounds + 1)).toNat := by
  have begins : StaysWatching ((CacheScenario.start 0).carryOut opening) 0 := ⟨_, rfl, rfl, rfl⟩
  obtain ⟨record, located, kept, next⟩ := begins.rounds small
  rw [← carryOut_append] at located
  refine ⟨_, _, record, steps_last _ _ _, rfl, located, kept, ?_⟩
  simp only [CacheStep.result, CacheScenario.perform, CacheScenario.quietly,
    CacheScenario.addWatcher, located, Record.addWatcher, next]

private theorem staysOpen_start : StaysOpen ((CacheScenario.start 0).carryOut opening) 0 := by
  refine ⟨rfl, rfl, ⟨_, rfl⟩, ?_, rfl, Nat.le_refl _⟩
  intro space key record found
  have only := Cache.recordAt?_withNewRecord { capacity := 0 } root.1 root.2 1 space key
  have changed : ((({ capacity := 0 } : Cache).withNewRecord root.1 root.2 1).modifyRecord root.1
      root.2 (fun record => (record.addWatcher { label := "kept" }).2)).recordAt? space key =
        some record := found
  rw [Cache.recordAt?_modifyRecord, only] at changed
  by_cases here : space = root.1 ∧ key = root.2
  · rw [if_pos here, if_pos here] at changed
    cases changed
    exact ⟨Prod.ext here.1 here.2, by decide⟩
  · rw [if_neg here, if_neg here] at changed
    cases changed

private theorem late_record {rounds : Nat} (small : rounds < 2 ^ 32) :
    ∃ (earlier : List CacheStep) (step : CacheStep),
      (CacheScenario.start 0).steps (opening ++ openAndSweep rounds ++
        [CacheOperation.openRecord root.1 { document := "late" }]) = earlier ++ [step] ∧
      step.operation = .openRecord root.1 { document := "late" } ∧
      step.before.cache.bySubscription.get? 0 = some root ∧
      (∃ record, step.before.cache.recordAt? root.1 root.2 = some record) ∧
      step.result.1 = .opened true (UInt32.ofNat (rounds + 1)) := by
  have stays := staysOpen_start.rounds small
  rw [← carryOut_append] at stays
  refine ⟨_, _, steps_last _ _ _, rfl, stays.index, stays.present, ?_⟩
  generalize CacheScenario.carryOut _ _ = scenario at stays
  have none : scenario.cache.recordAt? root.1 { document := "late" } = none := by
    cases found : scenario.cache.recordAt? root.1 { document := "late" } with
    | none => rfl
    | some record => exact absurd (stays.watched _ _ record found).1 (by decide)
  simp only [CacheStep.result, CacheScenario.perform, CacheScenario.quietly, CacheScenario.now,
    Cache.recordOrNew_new none, Cache.recordFor_new none, stays.next]

/-- A watcher is given the number of one that is there, and a record the id of one that is there. -/
theorem numbers_given_while_taken :
    (∃ (earlier : List CacheStep) (step : CacheStep) (record : Record),
      (CacheScenario.start 0).steps wholeRound = earlier ++ [step] ∧
      step.operation = .addWatcher 0 "late" ∧
      step.before.cache.located? 0 = some (root.1, root.2, record) ∧
      record.watchers.get? 0 = some { label := "kept" } ∧ step.result.1 = .count 0) ∧
    ∃ (earlier : List CacheStep) (step : CacheStep),
      (CacheScenario.start 0).steps wholeRoundOfRecords = earlier ++ [step] ∧
      step.operation = .openRecord root.1 { document := "late" } ∧
      step.before.cache.bySubscription.get? 0 = some root ∧
      (∃ record, step.before.cache.recordAt? root.1 root.2 = some record) ∧
      step.result.1 = .opened true 0 := by
  have watcher := @late_watcher (2 ^ 32 - 1) (by omega)
  have record := @late_record (2 ^ 32 - 1) (by omega)
  rw [ofNat_whole_round] at watcher record
  exact ⟨watcher, record⟩

end ConfigWatch

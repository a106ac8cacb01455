import ConfigWatch.Proofs.Cache.Catalogue
import ConfigWatch.Scenario.CacheOperation

/-!
# Resolutions of a checksum

Payloads are offered to a cache under their checksums. While the index keeps its entry of a
checksum, that entry is the answer to every offer, and the payload that comes with the offer is not
looked at. So of all the payloads that are offered under one checksum, the first good one is the
last that is decoded.
-/

set_option autoImplicit false

namespace ConfigWatch

/-- A payload that is offered to a cache under a checksum, at a moment. -/
structure Resolution where
  cache : Cache
  checksum : Bytes
  decode : Unit → Except DecodeError Payload.Decoded
  moment : Instant

namespace Resolution

def result (resolution : Resolution) : Except DecodeError (Content × Cache) :=
  resolution.cache.resolve resolution.checksum resolution.decode resolution.moment

/-- The content that the checksum resolves to. -/
def outcome (resolution : Resolution) : Except DecodeError Content :=
  resolution.result.map Prod.fst

/-- The cache afterwards. A payload that does not decode leaves it as it was. -/
def after (resolution : Resolution) : Cache :=
  match resolution.result with
  | .ok (_, cache) => cache
  | .error _ => resolution.cache

/-- Whatever the payload decodes to, the result is the same. -/
def Unread (resolution : Resolution) : Prop :=
  ∀ decode, ({ resolution with decode } : Resolution).result = resolution.result

/-- The resolutions of one checksum, of those in a list. -/
def under (checksum : Bytes) (resolutions : List Resolution) : List Resolution :=
  resolutions.filter (fun resolution => decide (resolution.checksum = checksum))

end Resolution

/-- Payloads are decoded up to the first good one. What that decodes to is a new content, which
every later resolution gives without a look at its payload. -/
inductive DecodedOnce : List Resolution → Prop where
  | none : DecodedOnce []
  | failed {resolution : Resolution} {rest : List Resolution} {cause : DecodeError} :
      ¬ resolution.Unread → resolution.decode () = .error cause →
      resolution.outcome = .error cause → DecodedOnce rest → DecodedOnce (resolution :: rest)
  | first {resolution : Resolution} {rest : List Resolution} {content : Content} :
      ¬ resolution.Unread → resolution.decode () = .ok ⟨content.value, content.positions⟩ →
      content.id = resolution.cache.touches.size → content.checksum = resolution.checksum →
      resolution.outcome = .ok content →
      (∀ later ∈ rest, later.Unread ∧ later.outcome = .ok content) →
      DecodedOnce (resolution :: rest)

namespace Resolution

variable {resolution : Resolution}

/-! ## One resolution -/

theorem result_of_indexed {content : Content}
    (found : resolution.cache.byChecksum.get? resolution.checksum = some content) :
    resolution.result = .ok (content, resolution.cache.touchContent content resolution.moment) := by
  rw [result, Cache.resolve, found]

theorem outcome_of_indexed {content : Content}
    (found : resolution.cache.byChecksum.get? resolution.checksum = some content) :
    resolution.outcome = .ok content := by
  rw [outcome, result_of_indexed found]
  rfl

theorem unread_of_indexed {content : Content}
    (found : resolution.cache.byChecksum.get? resolution.checksum = some content) :
    resolution.Unread := by
  intro decode
  have other : ({ resolution with decode } : Resolution).result = _ := result_of_indexed found
  rw [result_of_indexed found]
  exact other

theorem result_of_failed {cause : DecodeError}
    (lost : resolution.cache.byChecksum.get? resolution.checksum = none)
    (failed : resolution.decode () = .error cause) : resolution.result = .error cause := by
  rw [result, Cache.resolve, lost]
  simp only [failed]

/-- The content that a payload becomes when it is decoded now. -/
def fresh (resolution : Resolution) (decoded : Payload.Decoded) : Content :=
  ⟨resolution.cache.touches.size, resolution.checksum, decoded.value, decoded.positions⟩

theorem result_of_decoded {decoded : Payload.Decoded}
    (lost : resolution.cache.byChecksum.get? resolution.checksum = none)
    (good : resolution.decode () = .ok decoded) :
    ∃ cache, resolution.result = .ok (resolution.fresh decoded, cache) ∧
      cache.byChecksum =
        resolution.cache.byChecksum.insert resolution.checksum (resolution.fresh decoded) := by
  refine ⟨{ resolution.cache with
      byChecksum := resolution.cache.byChecksum.insert resolution.checksum
        (resolution.fresh decoded)
      touches := resolution.cache.touches.push resolution.moment }, ?_, rfl⟩
  rw [result, Cache.resolve, lost]
  simp only [good, fresh]

/-- A payload is looked at when the index does not have its checksum. -/
theorem not_unread (lost : resolution.cache.byChecksum.get? resolution.checksum = none) :
    ¬ resolution.Unread := by
  intro unread
  let bad : Resolution := { resolution with decode := fun _ => .error (.missingKey 0) }
  let good : Resolution := { resolution with decode := fun _ => .ok default }
  have failed : bad.result = .error (.missingKey 0) := result_of_failed lost rfl
  obtain ⟨cache, decoded, _⟩ : ∃ cache, good.result = .ok (good.fresh default, cache) ∧ _ :=
    result_of_decoded lost rfl
  rw [unread] at failed decoded
  rw [failed] at decoded
  cases decoded

/-- A resolution changes the index under its own checksum at most. -/
theorem after_elsewhere {checksum : Bytes} (other : resolution.checksum ≠ checksum) :
    resolution.after.byChecksum.get? checksum = resolution.cache.byChecksum.get? checksum := by
  cases found : resolution.cache.byChecksum.get? resolution.checksum with
  | some content =>
    rw [after, result_of_indexed found]
    rfl
  | none =>
    cases read : resolution.decode () with
    | error cause => rw [after, result_of_failed found read]
    | ok decoded =>
      obtain ⟨cache, resolved, index⟩ := result_of_decoded found read
      rw [after, resolved]
      dsimp only
      rw [index, Table.get?_insert, if_neg (Ne.symm other)]

/-- What is stored as the outcome of a resolution leaves its index. -/
theorem index_of_files {after : Cache}
    (labelled : ∀ checksum content, resolution.cache.byChecksum.get? checksum = some content →
      content.checksum = checksum)
    (files : Cache.Files resolution.cache after resolution.outcome.toOption) :
    after.byChecksum = resolution.after.byChecksum := by
  cases found : resolution.cache.byChecksum.get? resolution.checksum with
  | some content =>
    rw [outcome_of_indexed found, Except.toOption] at files
    rw [Resolution.after, result_of_indexed found]
    cases files with
    | finds _ same => exact congrArg Catalogue.index same
    | decodes lost _ _ =>
      rw [labelled _ _ found, found] at lost
      cases lost
  | none =>
    cases read : resolution.decode () with
    | error cause =>
      have result := result_of_failed found read
      rw [outcome, result] at files
      rw [Resolution.after, result]
      cases files with
      | keeps same => exact congrArg Catalogue.index same
    | ok decoded =>
      obtain ⟨cache, result, index⟩ := result_of_decoded found read
      rw [outcome, result] at files
      rw [Resolution.after, result]
      dsimp only
      cases files with
      | finds there _ =>
        have own : (resolution.fresh decoded).checksum = resolution.checksum := rfl
        rw [own, found] at there
        cases there
      | decodes _ _ new => exact (congrArg Catalogue.index new).trans index.symm

end Resolution

/-- The resolutions of a checksum that come about while the cache changes in steps. A step asks for
the checksum once, or leaves its entry as it is. -/
inductive Stretch (checksum : Bytes) : Cache → List Resolution → Prop where
  | ends (cache : Cache) : Stretch checksum cache []
  | aside {before after : Cache} {rest : List Resolution} :
      after.byChecksum.get? checksum = before.byChecksum.get? checksum →
      Stretch checksum after rest → Stretch checksum before rest
  | asks {resolution : Resolution} {after : Cache} {rest : List Resolution} :
      resolution.checksum = checksum →
      after.byChecksum.get? checksum = resolution.after.byChecksum.get? checksum →
      Stretch checksum after rest → Stretch checksum resolution.cache (resolution :: rest)

namespace Stretch

variable {checksum : Bytes} {cache : Cache} {resolutions : List Resolution}

/-- From where the index has a content on, it is the answer to every offer. -/
theorem unread_of_indexed (stretch : Stretch checksum cache resolutions) {content : Content}
    (found : cache.byChecksum.get? checksum = some content) :
    ∀ later ∈ resolutions, later.Unread ∧ later.outcome = .ok content := by
  induction stretch with
  | ends => simp
  | aside same _ ih => exact ih (same.trans found)
  | @asks resolution after rest own index _ ih =>
    subst own
    have kept : after.byChecksum.get? resolution.checksum = some content := by
      rw [index, Resolution.after, Resolution.result_of_indexed found]
      exact found
    intro later member
    rcases List.mem_cons.mp member with rfl | earlier
    · exact ⟨Resolution.unread_of_indexed found, Resolution.outcome_of_indexed found⟩
    · exact ih kept later earlier

theorem decodedOnce (stretch : Stretch checksum cache resolutions)
    (lost : cache.byChecksum.get? checksum = none) : DecodedOnce resolutions := by
  induction stretch with
  | ends => exact .none
  | aside same _ ih => exact ih (same.trans lost)
  | @asks resolution after rest own index later ih =>
    subst own
    cases read : resolution.decode () with
    | error cause =>
      have result := Resolution.result_of_failed lost read
      have outcome : resolution.outcome = .error cause := by rw [Resolution.outcome, result]; rfl
      refine .failed (Resolution.not_unread lost) read outcome (ih ?_)
      rw [index, Resolution.after, result]
      exact lost
    | ok decoded =>
      obtain ⟨indexed, result, entry⟩ := Resolution.result_of_decoded lost read
      have outcome : resolution.outcome = .ok (resolution.fresh decoded) := by
        rw [Resolution.outcome, result]; rfl
      refine .first (Resolution.not_unread lost) read rfl rfl outcome (later.unread_of_indexed ?_)
      rw [index, Resolution.after, result]
      dsimp only
      rw [entry, Table.get?_insert, if_pos rfl]

/-- A step that offers a payload asks for its checksum, and leaves the others. -/
theorem offers {before after : Cache} {resolution : Resolution} {rest : List Resolution}
    (here : resolution.cache = before) (index : after.byChecksum = resolution.after.byChecksum)
    (later : Stretch checksum after (Resolution.under checksum rest)) :
    Stretch checksum before (Resolution.under checksum (resolution :: rest)) := by
  subst here
  rw [Resolution.under, List.filter_cons]
  split
  · next own => exact .asks (of_decide_eq_true own) (by rw [index]) later
  · next other =>
    refine .aside ?_ later
    rw [index]
    exact Resolution.after_elsewhere (fun same => other (decide_eq_true same))

end Stretch

/-- A sweep leaves the entry of a checksum, unless it drops it. -/
theorem Cache.get?_cleanup_of_kept {cache : Cache} {limit : Instant} {checksum : Bytes}
    (kept : ¬ (cache.byChecksum.contains checksum = true ∧
      (cache.cleanup limit).2.byChecksum.contains checksum = false)) :
    (cache.cleanup limit).2.byChecksum.get? checksum = cache.byChecksum.get? checksum := by
  cases left : (cache.cleanup limit).2.byChecksum.get? checksum with
  | some content => exact (get?_cleanup left).symm
  | none =>
    cases found : cache.byChecksum.get? checksum with
    | none => rfl
    | some content =>
      refine absurd ⟨?_, ?_⟩ kept
      · rw [Table.contains, found]
        rfl
      · rw [Table.contains, left]
        rfl

/-! ## Operations on a cache -/

/-- An operation on a cache by itself, with the scenario that it finds. -/
structure CacheStep where
  before : CacheScenario
  operation : CacheOperation

/-- The operation with another payload under the same checksum. -/
def CacheOperation.offering (nodes : List Node) (positions : Bool) :
    CacheOperation → CacheOperation
  | .resolve offer => .resolve ⟨offer.checksum, nodes, positions⟩
  | .update subscription number offer =>
    .update subscription number ⟨offer.checksum, nodes, positions⟩
  | .insertVersion space number key offer =>
    .insertVersion space number key ⟨offer.checksum, nodes, positions⟩
  | operation => operation

/-- A payload that is offered to the cache now. -/
def CacheScenario.offered (scenario : CacheScenario) (offer : PayloadOffer) : Resolution where
  cache := scenario.cache
  checksum := offer.checksum
  decode := fun _ => Payload.decodeWith offer.positions offer.nodes.toArray
  moment := scenario.now.1

namespace CacheStep

/-- The answer to the operation, what it tells whom, and the scenario that it leaves. -/
def result (step : CacheStep) : CacheAnswer × List Notification × CacheScenario :=
  step.before.perform step.operation

def after (step : CacheStep) : CacheScenario := step.result.2.2

/-- The payload that the operation offers to the cache. -/
def resolution? (step : CacheStep) : Option Resolution :=
  match step.operation with
  | .resolve offer | .update _ _ offer | .insertVersion _ _ _ offer =>
    some (step.before.offered offer)
  | _ => none

/-- The operation starts the cache afresh, or sweeps the content of a checksum away. -/
inductive Loses (step : CacheStep) (checksum : Bytes) : Prop where
  | resets : step.operation = .reset → Loses step checksum
  | sweeps {limit : Int} : step.operation = .cleanup limit →
      step.before.cache.byChecksum.contains checksum = true →
      step.after.cache.byChecksum.contains checksum = false → Loses step checksum

end CacheStep

/-- Operations that are carried out one after the other, each with what it finds. -/
def CacheScenario.steps (scenario : CacheScenario) : List CacheOperation → List CacheStep
  | [] => []
  | operation :: rest =>
    ⟨scenario, operation⟩ :: (scenario.perform operation).2.2.steps rest

namespace CacheScenario

variable (scenario : CacheScenario)

theorem resolve_eq (offer : PayloadOffer) :
    scenario.resolve offer = (scenario.offered offer).result.map (fun found =>
      (found.1, { scenario.now.2 with cache := found.2 })) := rfl

private theorem index_changeRecord (subscription : UInt32)
    (change : Record → List Notification × Record) :
    (scenario.changeRecord subscription change).2.2.cache.byChecksum =
      scenario.cache.byChecksum := by
  unfold changeRecord
  split
  · rfl
  · exact congrArg Catalogue.index (Cache.catalogue_changeRecord scenario.cache subscription change)

private theorem index_touchAt (subscription : UInt32) (moment : Instant) :
    (scenario.touchAt subscription moment).2.cache.byChecksum = scenario.cache.byChecksum := by
  unfold touchAt
  split
  · rfl
  · exact congrArg Catalogue.index (Cache.catalogue_touchRecord scenario.cache ..)

private theorem index_readVersion (space : NamespaceKey) (number : Version) (key : DocumentKey) :
    (scenario.quietly (.readVersion space number key)).2.cache.byChecksum =
      scenario.cache.byChecksum := by
  simp only [quietly]
  split
  · rfl
  · next read => exact congrArg Catalogue.index (Cache.catalogue_readVersion read)

end CacheScenario

namespace CacheStep

variable {step : CacheStep} {resolution : Resolution} {checksum : Bytes}

/-- An operation that offers a payload leaves the index of the resolution. -/
theorem index_of_resolution (asked : step.resolution? = some resolution) :
    resolution.cache = step.before.cache ∧
      step.after.cache.byChecksum = resolution.after.byChecksum := by
  obtain ⟨scenario, operation⟩ := step
  cases operation with
  | resolve offer =>
    cases asked
    refine ⟨rfl, ?_⟩
    simp only [after, result, CacheScenario.perform, CacheScenario.quietly,
      CacheScenario.resolve_eq, Resolution.after]
    cases (scenario.offered offer).result <;> rfl
  | update subscription number offer =>
    cases asked
    refine ⟨rfl, ?_⟩
    simp only [after, result, CacheScenario.perform, CacheScenario.resolve_eq, Resolution.after]
    cases (scenario.offered offer).result with
    | error cause => rfl
    | ok found => exact CacheScenario.index_changeRecord ..
  | insertVersion space number key offer =>
    cases asked
    refine ⟨rfl, ?_⟩
    simp only [after, result, CacheScenario.perform, CacheScenario.quietly,
      CacheScenario.resolve_eq, Resolution.after]
    cases (scenario.offered offer).result <;> rfl
  | _ => cases asked

/-- Any other operation leaves the entry of a checksum, unless it loses it. -/
theorem index_of_aside (asked : step.resolution? = none) (kept : ¬ step.Loses checksum) :
    step.after.cache.byChecksum.get? checksum = step.before.cache.byChecksum.get? checksum := by
  obtain ⟨scenario, operation⟩ := step
  cases operation with
  | resolve | update | insertVersion => cases asked
  | reset => exact absurd (.resets rfl) kept
  | cleanup limit =>
    exact Cache.get?_cleanup_of_kept (fun lost => kept (.sweeps rfl lost.1 lost.2))
  | addWatcher subscription label =>
    simp only [after, result, CacheScenario.perform, CacheScenario.quietly,
      CacheScenario.addWatcher]
    split <;> rfl
  | removeWatcher subscription watcher =>
    simp only [after, result, CacheScenario.perform, CacheScenario.quietly,
      CacheScenario.removeWatcher]
    split <;> rfl
  | updateStatus subscription status | deactivate subscription =>
    exact congrArg (Table.get? · checksum) (CacheScenario.index_changeRecord ..)
  | touch subscription =>
    exact congrArg (Table.get? · checksum) (CacheScenario.index_touchAt ..)
  | touchAt subscription millis =>
    exact congrArg (Table.get? · checksum) (CacheScenario.index_touchAt ..)
  | openRecord space key =>
    exact congrArg (fun catalogue => catalogue.index.get? checksum)
      (Cache.catalogue_recordOrNew scenario.cache space key scenario.now.1)
  | readVersion space number key =>
    exact congrArg (Table.get? · checksum) (CacheScenario.index_readVersion ..)
  | _ => rfl

/-- An operation goes the same with any other payload that is not looked at. -/
theorem result_of_unread (asked : step.resolution? = some resolution) (unread : resolution.Unread)
    (nodes : List Node) (positions : Bool) :
    (⟨step.before, step.operation.offering nodes positions⟩ : CacheStep).result = step.result := by
  obtain ⟨scenario, operation⟩ := step
  have same (offer : PayloadOffer) (own : scenario.offered offer = resolution) :
      scenario.resolve ⟨offer.checksum, nodes, positions⟩ = scenario.resolve offer := by
    subst own
    rw [CacheScenario.resolve_eq, CacheScenario.resolve_eq, ← unread]
    rfl
  cases operation with
  | resolve offer | update _ _ offer | insertVersion _ _ _ offer =>
    cases asked
    simp only [result, CacheOperation.offering, CacheScenario.perform, CacheScenario.quietly,
      same offer rfl]
  | _ => cases asked

end CacheStep

namespace CacheScenario

theorem stretch {checksum : Bytes} (scenario : CacheScenario) (operations : List CacheOperation)
    (kept : ∀ step ∈ scenario.steps operations, ¬ step.Loses checksum) :
    Stretch checksum scenario.cache (Resolution.under checksum
      ((scenario.steps operations).filterMap CacheStep.resolution?)) := by
  induction operations generalizing scenario with
  | nil => exact .ends _
  | cons operation rest ih =>
    have later := ih _ (fun step member => kept step (List.mem_cons_of_mem _ member))
    have whole := kept _ List.mem_cons_self
    rw [steps, Resolution.under, List.filterMap_cons]
    cases asked : CacheStep.resolution? ⟨scenario, operation⟩ with
    | none => exact .aside (CacheStep.index_of_aside asked whole) later
    | some resolution =>
      obtain ⟨here, index⟩ := CacheStep.index_of_resolution asked
      exact Stretch.offers here index later

end CacheScenario

end ConfigWatch

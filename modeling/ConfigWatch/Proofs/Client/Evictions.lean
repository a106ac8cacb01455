import ConfigWatch.Proofs.Cache.Trimming
import ConfigWatch.Proofs.Client.Sharing
import ConfigWatch.Proofs.Client.Works
import Mathlib.Data.List.Nodup

/-!
# Evictions

Every touch of a content is a reading of the clock of its own. So no two contents are ever found
touched at one moment, unless the clock is set back, and what a sweep evicts is determined.
-/

set_option autoImplicit false

namespace ConfigWatch

namespace Cache

/-- No two contents were touched at one moment, and all of them were touched before now. -/
structure Stamped (now : Instant) (cache : Cache) : Prop where
  apart : cache.touches.toList.Nodup
  past : ∀ touch ∈ cache.touches.toList, touch < now

namespace Stamped

variable {now later : Instant} {cache after : Cache}

theorem of_touches (stamped : cache.Stamped now) (same : after.touches = cache.touches)
    (order : now ≤ later) : after.Stamped later := by
  constructor
  case apart => exact same ▸ stamped.apart
  case past =>
    rw [same]
    exact fun touch member => Int.lt_of_lt_of_le (stamped.past touch member) order

theorem fresh (stamped : cache.Stamped now) : now ∉ cache.touches.toList :=
  fun member => Int.lt_irrefl now (stamped.past now member)

theorem setTouch (stamped : cache.Stamped now) (before : now < later) {content : Nat}
    (changed : after.touches = cache.touches.setIfInBounds content now) :
    after.Stamped later := by
  have touches : after.touches.toList = cache.touches.toList.set content now := by
    rw [changed, Array.toList_setIfInBounds]
  constructor
  case apart =>
    rw [touches]
    exact stamped.apart.set stamped.fresh
  case past =>
    intro touch member
    rw [touches] at member
    rcases List.mem_or_eq_of_mem_set member with old | rfl
    · exact Int.lt_trans (stamped.past touch old) before
    · exact before

theorem touchRecord (stamped : cache.Stamped now) (before : now < later) (space : NamespaceKey)
    (key : DocumentKey) : (cache.touchRecord space key now).Stamped later := by
  have order : now ≤ later := Int.le_of_lt before
  unfold Cache.touchRecord
  split
  · exact stamped.of_touches rfl order
  · split
    · exact stamped.of_touches rfl order
    · exact stamped.setTouch before rfl

theorem resolve (stamped : cache.Stamped now) (before : now < later) {checksum : Bytes}
    {decode : Unit → Except DecodeError Payload.Decoded} {content : Content}
    (resolved : cache.resolve checksum decode now = .ok (content, after)) :
    after.Stamped later := by
  unfold Cache.resolve at resolved
  split at resolved
  · cases resolved
    exact stamped.setTouch before rfl
  · split at resolved
    · cases resolved
    · cases resolved
      constructor
      case apart =>
        rw [Array.toList_push, List.nodup_append]
        refine ⟨stamped.apart, List.nodup_singleton _, ?_⟩
        rintro touch member _ (here : _ ∈ [now]) rfl
        rw [List.mem_singleton.mp here] at member
        exact stamped.fresh member
      case past =>
        intro touch member
        rw [Array.toList_push, List.mem_append, List.mem_singleton] at member
        rcases member with old | rfl
        · exact Int.lt_trans (stamped.past touch old) before
        · exact before

/-- Whatever a client does, the touches of contents stay apart. -/
theorem works (stamped : cache.Stamped now) (works : cache.Works now after later) :
    after.Stamped later := by
  induction works with
  | begins => exact stamped
  | waits _ order ih => exact ih.of_touches rfl order
  | opens space key _ before ih =>
    apply ih.of_touches ?_ (Int.le_of_lt before)
    simp only [Cache.recordOrNew]
    split <;> rfl
  | touches space key _ before ih => exact ih.touchRecord before space key
  | resolves _ before resolved ih => exact ih.resolve before resolved
  | stores _ _ _ _ _ before ih => exact ih.of_touches rfl (Int.le_of_lt before)
  | reads _ before read ih =>
    obtain ⟨_, _, same⟩ := Option.map_eq_some_iff.mp read
    cases same
    exact ih.setTouch before rfl
  | changes _ _ ih | forgets _ _ ih | sweeps _ _ ih | resets _ ih =>
    exact ih.of_touches rfl (Int.le_refl _)

end Stamped

end Cache

theorem Run.stamped {start client : Client} {history : List Occurrence} (fresh : start.Fresh)
    (run : Run start history client) (forward : Forward history) :
    client.cache.Stamped client.clock.read.1 := by
  have begun : start.cache.Stamped start.clock.read.1 := by
    rw [fresh.eq]
    exact ⟨List.nodup_nil, fun _ member => absurd member List.not_mem_nil⟩
  exact begun.works (run.works forward)

/-- Contents that are found under different checksums were touched at different times. -/
theorem Run.touchedApart {start client : Client} {history : List Occurrence} (fresh : start.Fresh)
    (run : Run start history client) (forward : Forward history) :
    client.cache.TouchedApart := by
  have recounts := run.recounts fresh
  have labelled := run.labelled fresh
  have stamped := run.stamped fresh forward
  intro checksum content other found here there same
  have left : content.id < client.cache.touches.size := recounts.decoded content (.indexed here)
  have right : found.id < client.cache.touches.size := recounts.decoded found (.indexed there)
  have own : content.id = found.id := by
    rw [Cache.contentTouch, Cache.contentTouch, ← Array.getElem_eq_getD (h := left),
      ← Array.getElem_eq_getD (h := right), ← Array.getElem_toList, ← Array.getElem_toList] at same
    exact stamped.apart.getElem_inj_iff.mp same
  have equal := recounts.distinct content found (.indexed here) (.indexed there) own
  rw [← labelled.checksums checksum content here, ← labelled.checksums other found there, equal]

/-- Evictions are exact, and the contents touched first go first. Of any cache with a capacity below
`2 ^ 50` and with contents that were touched at different times, whatever its limit is, a sweep
leaves the index of checksums as it is or leaves three quarters of the capacity in it, the contents
that were touched last. In a run that does not set the clock back the contents of the index always
were touched at different times. -/
theorem evicts_the_first_touched {start client : Client} {history : List Occurrence}
    (fresh : start.Fresh) (run : Run start history client) :
    (∀ (cache : Cache) (limit : Instant), cache.capacity < 2 ^ 50 → cache.TouchedApart →
      cache.Evicts (cache.cleanup limit).2) ∧
    (Forward history → client.cache.TouchedApart) := by
  constructor
  · intro cache limit small apart
    exact Cache.evicts_cleanup small apart limit
  · exact run.touchedApart fresh

/-- A client whose index takes two contents. -/
private def forTwo : Client := { settings := { capacity := 2 }, cache := { capacity := 2 } }

private def answersWith (uid : UInt32) (byte : UInt8) : Section :=
  .reply
    { uid, namespaceId := 1, version := 1, checksum := [byte],
      nodes := [{ valueType := 4, int := 1 }] }

/-- Three documents get three contents, and the second one is read again. -/
private def holdingThree : List Section :=
  [.watch { root := "/srv" } { document := "a" } none,
    .watch { root := "/srv" } { document := "b" } none,
    .watch { root := "/srv" } { document := "c" } none,
    answersWith 0 1, answersWith 1 2, answersWith 2 3,
    .beginRead { root := "/srv" } { document := "b" } none]

private theorem forward_holdingThree : Forward (forTwo.occurrences holdingThree) := by
  intro occurrence member clock sets
  simp only [holdingThree, answersWith, Client.occurrences, List.mem_cons, List.not_mem_nil,
    or_false] at member
  rcases member with rfl | rfl | rfl | rfl | rfl | rfl | rfl <;> cases sets

private theorem ages_holdingThree :
    let cache := (forTwo.performAll holdingThree).cache
    cache.byChecksum.entries.map (fun entry => (entry.1, cache.contentTouch entry.2)) =
      [([1], 7), ([2], 16), ([3], 13)] := by
  decide +kernel

/-- One of the three contents is left by a sweep, the one that was read last. -/
theorem evicts_the_first_touched_of_three :
    let cache := (forTwo.performAll holdingThree).cache
    cache.TouchedApart ∧ cache.Evicts (cache.cleanup 0).2 ∧
      (cache.cleanup 0).2.byChecksum.size = 1 ∧
      ((cache.cleanup 0).2.byChecksum.get? [2]).isSome = true := by
  intro cache
  have run : Run forTwo (forTwo.occurrences holdingThree) (forTwo.performAll holdingThree) :=
    Run.start.performAll holdingThree
  obtain ⟨exactly, always⟩ := evicts_the_first_touched ⟨{ capacity := 2 }, {}, rfl⟩ run
  have apart := always forward_holdingThree
  have evicts := exactly cache 0 (by decide +kernel) apart
  have one : (cache.cleanup 0).2.byChecksum.size = 1 :=
    (evicts.left (by decide +kernel)).trans (by decide +kernel)
  refine ⟨apart, evicts, one, ?_⟩
  obtain ⟨⟨checksum, content⟩, left⟩ := List.length_eq_one_iff.mp one
  have stays : (cache.cleanup 0).2.byChecksum.get? checksum = some content := by
    rw [Table.get?_eq_some_iff, left]
    exact List.mem_singleton_self _
  have age : cache.contentTouch content ≤ 16 := by
    have member := List.mem_map_of_mem (f := fun entry => (entry.1, cache.contentTouch entry.2))
      (Table.get?_eq_some_iff.mp (evicts.kept checksum content stays))
    rw [ages_holdingThree] at member
    simp only [List.mem_cons, Prod.mk.injEq, List.not_mem_nil, or_false] at member
    rcases member with ⟨_, touch⟩ | ⟨_, touch⟩ | ⟨_, touch⟩ <;> rw [touch] <;> decide
  rw [← Option.ne_none_iff_isSome]
  intro gone
  obtain ⟨last, found, touched⟩ : ∃ last, cache.byChecksum.get? [2] = some last ∧
      cache.contentTouch last = 16 := ⟨_, rfl, by decide +kernel⟩
  have later := evicts.later checksum [2] content last stays found gone
  rw [touched] at later
  exact Int.not_lt.mpr age later

end ConfigWatch

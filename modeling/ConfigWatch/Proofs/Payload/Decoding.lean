import ConfigWatch.Proofs.Payload.Layouts

/-!
# Decoding layouts

A value that is laid out in a payload is what the payload decodes to, unless a node lies too
deep. Then the first such node in pre-order is what the error names.
-/

set_option autoImplicit false

namespace ConfigWatch

theorem Value.hasKey_insertEntry {α : Type} {key other : String} {value : α}
    {entries : List (String × α)} (fresh : hasKey key entries = false) :
    hasKey other (insertEntry key value entries) = (key == other || hasKey other entries) := by
  rw [hasKey, (Payload.insertEntry_perm fresh).any_eq, List.any_cons, hasKey]

namespace Payload

/-- How a reading that starts at an index ends: in what is expected as seen through a view, or
with an error when a node that lies too deep stands at a position after the index. -/
def EndsIn {α β : Type} (view : α → β) (index : Nat) (deep : Option Nat) (expected : β)
    (reading : Except DecodeError α) : Prop :=
  match deep with
  | some position => reading = .error (.tooDeep (index + position) maxDepth)
  | none => ∃ decoded, reading = .ok decoded ∧ view decoded = expected

namespace EndsIn

variable {α β γ δ : Type} {view : α → β} {index shift : Nat} {deep : Option Nat} {expected : β}
  {reading : Except DecodeError α}

theorem ok {decoded : α} (seen : view decoded = expected) :
    EndsIn view index none expected (.ok decoded) :=
  ⟨decoded, rfl, seen⟩

theorem moved (ends : EndsIn view (index + shift) deep expected reading) :
    EndsIn view index (deep.map (· + shift)) expected reading := by
  cases deep with
  | none => exact ends
  | some position =>
    have named : index + (position + shift) = index + shift + position := by omega
    show reading = .error (.tooDeep (index + (position + shift)) maxDepth)
    rw [named]
    exact ends

/-- Of two readings in a row the first that fails counts. -/
theorem bind {outer : γ → δ} {later : Option Nat} {whole : δ} {next : α → Except DecodeError γ}
    (ends : EndsIn view index deep expected reading)
    (goesOn : ∀ decoded, view decoded = expected → EndsIn outer index later whole (next decoded)) :
    EndsIn outer index (deep.or later) whole (reading >>= next) := by
  cases deep with
  | some position =>
    rw [EndsIn] at ends
    rw [ends]
    rfl
  | none =>
    obtain ⟨decoded, rfl, seen⟩ := ends
    exact goesOn decoded seen

theorem mapped (ends : EndsIn view index deep expected reading) :
    EndsIn id index deep expected (reading.map view) := by
  cases deep with
  | some position => exact congrArg (Except.map view) ends
  | none =>
    obtain ⟨decoded, rfl, seen⟩ := ends
    exact ok seen

theorem map {outer : γ → δ} {whole : δ} {finish : α → γ}
    (ends : EndsIn view index deep expected reading)
    (finished : ∀ decoded, view decoded = expected → outer (finish decoded) = whole) :
    EndsIn outer index deep whole (reading >>= fun decoded => .ok (finish decoded)) := by
  have done (decoded : α) (seen : view decoded = expected) :
      EndsIn outer index none whole (.ok (finish decoded)) := ok (finished decoded seen)
  have both := ends.bind done
  rwa [Option.or_none] at both

end EndsIn

/-! ## One step of a decoding -/

section Steps

variable {payload : Array Node} {positions : Bool} {index : Nat} {node : Node}

theorem declaredSize_eq (fits : index + node.size.toNat < payload.size) :
    declaredSize payload node index = .ok node.size.toNat := by
  rw [declaredSize, if_neg (by omega)]

theorem decodeNode_sequence {levels : Nat} (here : nodeAt payload index = .ok node)
    (typed : node.valueType = ValueType.sequence.code)
    (fits : index + node.size.toNat < payload.size) :
    decodeNode payload positions (levels + 1) index =
      decodeItems payload (decodeNode payload positions levels) node.size.toNat (index + 1) >>=
        fun items => .ok (sequenceOf positions node items) := by
  simp only [decodeNode, here, typed, bind, Except.bind, declaredSize_eq fits]
  rfl

theorem decodeNode_map {levels : Nat} (here : nodeAt payload index = .ok node)
    (typed : node.valueType = ValueType.map.code)
    (fits : index + node.size.toNat < payload.size) :
    decodeNode payload positions (levels + 1) index =
      decodeEntries payload (decodeNode payload positions levels) node.size.toNat (index + 1) [] >>=
        fun entries => .ok (mapOf positions node entries) := by
  simp only [decodeNode, here, typed, bind, Except.bind, declaredSize_eq fits]
  rfl

theorem decodeNode_leaf {levels : Nat} {value : Value} (leaf : IsLeaf value)
    (here : nodeAt payload index = .ok node) (carries : Carries node value) :
    decodeNode payload positions (levels + 1) index = .ok (Payload.leaf positions node value) := by
  simp only [decodeNode, here, bind, Except.bind]
  cases value with
  | undefined | null =>
    rw [show node.valueType = _ from carries]
    rfl
  | text | bytes | int | double | bool =>
    obtain ⟨typed, rfl⟩ := carries
    rw [typed]
    rfl
  | sequence | map => exact leaf.elim

variable {child : Nat → Except DecodeError Decoded} {remaining : Nat}

theorem decodeItems_step (here : nodeAt payload index = .ok node) :
    decodeItems payload child (remaining + 1) index =
      child index >>= fun item =>
        decodeItems payload child remaining (nextSibling node index) >>= fun rest =>
          .ok (item :: rest) := by
  rw [decodeItems, here]
  rfl

theorem entryKey_text (texted : node.keyType = KeyType.text.code) :
    entryKey node index = .ok node.key := by
  rw [entryKey, texted]
  rfl

theorem decodeEntries_step {found : List (String × Decoded)}
    (here : nodeAt payload index = .ok node) (texted : node.keyType = KeyType.text.code)
    (fresh : Value.hasKey node.key found = false) :
    decodeEntries payload child (remaining + 1) index found =
      child index >>= fun value =>
        decodeEntries payload child remaining (nextSibling node index)
          (Value.insertEntry node.key value found) := by
  simp only [decodeEntries, here, bind, Except.bind, entryKey_text texted, fresh]
  rfl

/-- Where no children remain, it does not matter where they would start. -/
theorem decodeItems_start {start other : Nat} (same : remaining ≠ 0 → start = other) :
    decodeItems payload child remaining start = decodeItems payload child remaining other := by
  cases remaining with
  | zero => rfl
  | succ => rw [same (by simp)]

theorem decodeEntries_start {start other : Nat} {found : List (String × Decoded)}
    (same : remaining ≠ 0 → start = other) :
    decodeEntries payload child remaining start found =
      decodeEntries payload child remaining other found := by
  cases remaining with
  | zero => rfl
  | succ => rw [same (by simp)]

theorem nextSibling_eq {α : Type} {rest : List α} {below : List Node}
    (linked : rest ≠ [] → node.siblingOffset.toNat = below.length) (more : rest.length ≠ 0) :
    nextSibling node index = index + (node :: below).length := by
  rw [nextSibling, linked (List.ne_nil_of_length_pos (Nat.pos_of_ne_zero more)),
    List.length_cons, Nat.add_assoc]

end Steps

/-! ## Whole decodings -/

variable {payload : Array Node}

mutual

theorem Layout.decodeNode (positions : Bool) {value : Value} {nodes : List Node} {index : Nat}
    (levels : Nat) :
    Layout value nodes → value.KeysDiffer → Stands payload index nodes →
      EndsIn Decoded.value index (value.firstAt? levels) value.arranged
        (decodeNode payload positions levels index)
  | layout, differ, stands =>
    match levels, layout with
    | 0, _ => by
      rw [Value.firstAt?_zero]
      rfl
    | levels + 1, .leaf childless carries => by
      rw [decodeNode_leaf childless stands.head carries]
      cases value with
      | sequence | map => exact childless.elim
      | _ => exact EndsIn.ok rfl
    | levels + 1, .sequence carries below => by
      obtain ⟨typed, size⟩ := carries
      have room := stands.fits
      have number := below.le_length
      rw [decodeNode_sequence stands.head typed (by omega), size, Value.firstAt?, Value.levels,
        Value.firstOf?_below]
      have ends := below.decodeItems positions levels differ stands.tail
      refine ends.moved.map (fun decoded seen => ?_)
      rw [sequenceOf, seen, Value.arranged]
    | levels + 1, .map carries below => by
      obtain ⟨typed, size⟩ := carries
      have room := stands.fits
      have number := below.le_length
      rw [decodeNode_map stands.head typed (by omega), size, Value.firstAt?, Value.levels,
        Value.firstOf?_below]
      have unused (key : String) : Value.hasKey key ([] : List (String × Decoded)) = false := rfl
      have ends := below.decodeEntries positions levels differ.2 differ.1
        (fun entry _ => unused entry.1) stands.tail
      refine ends.moved.map (fun decoded seen => ?_)
      rw [Value.arranged, Value.entriesOfList]
      exact congrArg Value.map seen

theorem ItemsLayout.decodeItems (positions : Bool) {items : List Value} {nodes : List Node}
    {index : Nat} (levels : Nat) :
    ItemsLayout items nodes → Value.KeysOfItemsDiffer items → Stands payload index nodes →
      EndsIn (List.map Decoded.value) index (Value.firstOf? levels (Value.levelsOfItems items))
        (Value.arrangedItems items)
        (decodeItems payload (decodeNode payload positions levels) items.length index)
  | .nil, _, _ => EndsIn.ok rfl
  | .cons first linked later, differ, stands => by
    rw [List.length_cons, decodeItems_step stands.left.head,
      decodeItems_start (nextSibling_eq linked), Value.levelsOfItems, Value.firstOf?_append,
      Value.length_levels, ← first.length]
    refine (first.decodeNode positions levels differ.1 stands.left).bind (fun decoded seen => ?_)
    have rest := later.decodeItems positions levels differ.2 stands.right
    refine rest.moved.map (fun others same => ?_)
    rw [List.map_cons, seen, same, Value.arrangedItems]

theorem EntriesLayout.decodeEntries (positions : Bool) {entries : List (String × Value)}
    {nodes : List Node} {index : Nat} {found : List (String × Decoded)} (levels : Nat) :
    EntriesLayout entries nodes → Value.KeysOfEntriesDiffer entries →
      (entries.map Prod.fst).Nodup → (∀ entry ∈ entries, Value.hasKey entry.1 found = false) →
      Stands payload index nodes →
      EndsIn (List.map (Prod.map id Decoded.value)) index
        (Value.firstOf? levels (Value.levelsOfEntries entries))
        ((Value.arrangedEntries entries).foldl
          (fun entries pair => Value.insertEntry pair.1 pair.2 entries)
          (found.map (Prod.map id Decoded.value)))
        (decodeEntries payload (decodeNode payload positions levels) entries.length index found)
  | .nil, _, _, _, _ => EndsIn.ok rfl
  | @EntriesLayout.cons _ _ rest head _ _ first texted keyed linked later, differ, distinct, fresh,
      stands => by
    subst keyed
    obtain ⟨freshHere, freshLater⟩ := List.forall_mem_cons.mp fresh
    rw [List.map_cons, List.nodup_cons] at distinct
    rw [List.length_cons, decodeEntries_step stands.left.head texted freshHere,
      Value.levelsOfEntries, Value.firstOf?_append, Value.length_levels, ← first.length]
    refine (first.decodeNode positions levels differ.1 stands.left).bind (fun decoded seen => ?_)
    have stillFresh : ∀ entry ∈ rest,
        Value.hasKey entry.1 (Value.insertEntry head.key decoded found) = false := by
      intro entry member
      rw [Value.hasKey_insertEntry freshHere, freshLater entry member, Bool.or_false,
        beq_eq_false_iff_ne]
      rintro same
      exact distinct.1 (same ▸ List.mem_map_of_mem member)
    rw [decodeEntries_start (nextSibling_eq linked), Value.arrangedEntries, List.foldl_cons, ← seen,
      ← Value.map_insertEntry Decoded.value]
    exact (later.decodeEntries positions levels differ.2 distinct.2 stillFresh stands.right).moved

end

end Payload

end ConfigWatch

import ConfigWatch.Payload.Flatten
import ConfigWatch.Proofs.Payload.Decoding

/-!
# Flattening and decoding

The flattening of a value is a layout of it. So a value that is flattened and decoded again is
the same, if all its parts lie within the limit; the first part beyond the limit is otherwise
what the decoding complains of.
-/

set_option autoImplicit false

namespace ConfigWatch.Payload

/-! ## A flattening is a layout -/

theorem Layout.carries {value : Value} {head : Node} {below : List Node} :
    Layout value (head :: below) → Carries head value
  | .leaf _ carries => carries
  | .sequence carries _ => carries
  | .map carries _ => carries

/-- The first node of a layout may be any that carries the value. -/
theorem Layout.withHead {value : Value} {head other : Node} {below : List Node}
    (carries : Carries other value) : Layout value (head :: below) → Layout value (other :: below)
  | .leaf childless _ => .leaf childless carries
  | .sequence _ items => .sequence carries items
  | .map _ entries => .map carries entries

theorem Layout.ne_nil {value : Value} {nodes : List Node} (layout : Layout value nodes) :
    nodes ≠ [] := by
  cases layout with
  | leaf | sequence | map => exact List.cons_ne_nil _ _

private theorem carries_item {head : Node} {value : Value} (offset : UInt32)
    (carries : Carries head value) : Carries { head with siblingOffset := offset } value := by
  cases value <;> exact carries

private theorem carries_entry {head : Node} {value : Value} (keyType : Int32) (key : String)
    (offset : UInt32) (carries : Carries head value) :
    Carries { head with keyType := keyType, key := key, siblingOffset := offset } value := by
  cases value <;> exact carries

theorem ItemsLayout.cons_item {item : Value} {rest : List Value} {nodes later : List Node}
    (first : Layout item nodes) (small : nodes.length < 2 ^ 32) (others : ItemsLayout rest later) :
    ItemsLayout (item :: rest) (asItem nodes ++ later) := by
  cases nodes with
  | nil => exact absurd rfl first.ne_nil
  | cons head below =>
    have offset := UInt32.toNat_ofNat_of_lt' (Nat.lt_of_succ_lt small)
    exact .cons (first.withHead (carries_item _ first.carries)) (fun _ => offset) others

theorem EntriesLayout.cons_entry {key : String} {value : Value} {rest : List (String × Value)}
    {nodes later : List Node} (first : Layout value nodes) (small : nodes.length < 2 ^ 32)
    (others : EntriesLayout rest later) :
    EntriesLayout ((key, value) :: rest) (asEntry key nodes ++ later) := by
  cases nodes with
  | nil => exact absurd rfl first.ne_nil
  | cons head below =>
    have offset := UInt32.toNat_ofNat_of_lt' (Nat.lt_of_succ_lt small)
    exact .cons (first.withHead (carries_entry _ _ _ first.carries)) rfl rfl (fun _ => offset)
      others

mutual

theorem flatten_layout : (value : Value) → value.count < 2 ^ 32 → Layout value (flatten value)
  | .sequence items, few => by
    rw [Value.count] at few
    have below := flattenItems_layout items (by omega)
    have number : items.length < 2 ^ 32 := by
      have le := below.le_length
      rw [below.length] at le
      omega
    exact .sequence ⟨rfl, UInt32.toNat_ofNat_of_lt' number⟩ below
  | .map entries, few => by
    rw [Value.count] at few
    have below := flattenEntries_layout entries (by omega)
    have number : entries.length < 2 ^ 32 := by
      have le := below.le_length
      rw [below.length] at le
      omega
    exact .map ⟨rfl, UInt32.toNat_ofNat_of_lt' number⟩ below
  | .undefined, _ | .null, _ => .leaf trivial rfl
  | .text _, _ | .bytes _, _ | .int _, _ | .double _, _ | .bool _, _ => .leaf trivial ⟨rfl, rfl⟩

theorem flattenItems_layout :
    (items : List Value) → Value.countItems items < 2 ^ 32 → ItemsLayout items (flattenItems items)
  | [], _ => .nil
  | item :: rest, few => by
    rw [Value.countItems] at few
    have first := flatten_layout item (by omega)
    have others := flattenItems_layout rest (by omega)
    exact .cons_item first (by rw [first.length]; omega) others

theorem flattenEntries_layout :
    (entries : List (String × Value)) → Value.countEntries entries < 2 ^ 32 →
      EntriesLayout entries (flattenEntries entries)
  | [], _ => .nil
  | (_, value) :: rest, few => by
    rw [Value.countEntries] at few
    have first := flatten_layout value (by omega)
    have others := flattenEntries_layout rest (by omega)
    exact .cons_entry first (by rw [first.length]; omega) others

end

/-! ## Back to the value -/

theorem Layout.decode {value : Value} {nodes : List Node} {payload : Array Node}
    (layout : Layout value nodes) (differ : value.KeysDiffer) (stands : Stands payload 0 nodes) :
    EndsIn id 0 (value.firstAt? (maxDepth + 1)) value.arranged (decode payload) := by
  have full : payload.isEmpty = false := by
    cases nodes with
    | nil => exact absurd rfl layout.ne_nil
    | cons head below =>
      have room := stands.fits
      simp only [Array.isEmpty, decide_eq_false_iff_not]
      omega
  have ends := layout.decodeNode false (maxDepth + 1) differ stands
  rw [Payload.decode, decodeWith, full]
  exact ends.mapped

/-- Decoding undoes flattening as long as nothing in a value lies deeper than `maxDepth`, and fails
at the first that lies just too deep otherwise. -/
theorem decode_flatten {value : Value} (ordered : value.Ordered) (few : value.count < 2 ^ 32) :
    ((∀ level ∈ value.levels, level ≤ maxDepth) → decode (flatten value).toArray = .ok value) ∧
      ((∃ level ∈ value.levels, maxDepth < level) →
        ∃ index, value.firstAt? (maxDepth + 1) = some index ∧
          decode (flatten value).toArray = .error (.tooDeep index maxDepth)) := by
  have stands : Stands (flatten value).toArray 0 (flatten value) := List.prefix_refl _
  have ends := (flatten_layout value few).decode ordered.keysDiffer stands
  rw [ordered.arranged] at ends
  constructor
  · intro shallow
    rw [Value.firstAt?_eq_none shallow] at ends
    obtain ⟨_, decoded, rfl⟩ := ends
    exact decoded
  · intro deep
    obtain ⟨index, first⟩ := Value.exists_firstAt? deep
    rw [first] at ends
    refine ⟨index, first, ?_⟩
    rw [ends, Nat.zero_add]

private def settings : Value :=
  .map [("hosts", .sequence [.text "a", .map [("port", .int 80)]]), ("ratio", .null)]

/-- A value below a number of sequences, one inside the other. -/
private def nested : Nat → Value
  | 0 => .null
  | depth + 1 => .sequence [nested depth]

private theorem nested_ordered (depth : Nat) : (nested depth).Ordered := by
  induction depth with
  | zero => trivial
  | succ depth ih => exact ⟨ih, trivial⟩

theorem decode_flatten_at_the_limit :
    (settings.Ordered ∧ settings.count < 2 ^ 32 ∧ (∀ level ∈ settings.levels, level ≤ maxDepth) ∧
      decode (flatten settings).toArray = .ok settings) ∧
    ((nested 129).Ordered ∧ (nested 129).count < 2 ^ 32 ∧
      decode (flatten (nested 129)).toArray = .error (.tooDeep 129 maxDepth)) := by
  have ordered : settings.Ordered := by
    simp only [settings, Value.Ordered, Value.EntriesOrdered, Value.ItemsOrdered, Value.KeysAscend,
      List.map_cons, List.map_nil, and_true, true_and]
    decide
  have shallow : ∀ level ∈ settings.levels, level ≤ maxDepth := by decide
  have few : settings.count < 2 ^ 32 := by decide
  have fewNested : (nested 129).count < 2 ^ 32 := by decide +kernel
  have deep : maxDepth + 1 ∈ (nested 129).levels := by decide +kernel
  have first : (nested 129).firstAt? (maxDepth + 1) = some 129 := by decide +kernel
  refine ⟨⟨ordered, few, shallow, (decode_flatten ordered few).1 shallow⟩,
    nested_ordered 129, fewNested, ?_⟩
  obtain ⟨index, named, failed⟩ :=
    (decode_flatten (nested_ordered 129) fewNested).2 ⟨_, deep, Nat.lt_succ_self _⟩
  cases first.symm.trans named
  exact failed

end ConfigWatch.Payload

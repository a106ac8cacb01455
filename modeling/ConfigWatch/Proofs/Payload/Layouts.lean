import ConfigWatch.Proofs.Payload.Readings
import ConfigWatch.Proofs.Value.Arrangement
import ConfigWatch.Proofs.Value.Levels

/-!
# Layouts

How a value may lie in a payload: a node that carries it, followed by layouts of its children.
Only the ways from a child to its next sibling and the keys of entries are fixed beyond that, so
much of what a node holds does not count. A layout decodes to its value, whatever follows it,
unless a node lies too deep, and then the first such node is what the error names.
-/

set_option autoImplicit false

namespace ConfigWatch.Payload

/-- A node has the type and the content of a value, and the number of its children. -/
def Carries (node : Node) : Value → Prop
  | .undefined => node.valueType = ValueType.undefined.code
  | .null => node.valueType = ValueType.null.code
  | .text content => node.valueType = ValueType.text.code ∧ node.text = content
  | .bytes content => node.valueType = ValueType.bytes.code ∧ node.bytes = content
  | .int number => node.valueType = ValueType.int.code ∧ node.int = number
  | .double number => node.valueType = ValueType.double.code ∧ node.double = number
  | .bool truth => node.valueType = ValueType.bool.code ∧ node.bool = truth
  | .sequence items =>
    node.valueType = ValueType.sequence.code ∧ node.size.toNat = items.length
  | .map entries => node.valueType = ValueType.map.code ∧ node.size.toNat = entries.length

mutual

/-- The nodes of a value in pre-order. -/
inductive Layout : Value → List Node → Prop where
  | leaf {value : Value} {head : Node} :
      IsLeaf value → Carries head value → Layout value [head]
  | sequence {items : List Value} {head : Node} {below : List Node} :
      Carries head (.sequence items) → ItemsLayout items below →
      Layout (.sequence items) (head :: below)
  | map {entries : List (String × Value)} {head : Node} {below : List Node} :
      Carries head (.map entries) → EntriesLayout entries below →
      Layout (.map entries) (head :: below)

/-- The nodes of some items, each but the last linked to the next. -/
inductive ItemsLayout : List Value → List Node → Prop where
  | nil : ItemsLayout [] []
  | cons {item : Value} {rest : List Value} {head : Node} {below later : List Node} :
      Layout item (head :: below) →
      (rest ≠ [] → head.siblingOffset.toNat = below.length) →
      ItemsLayout rest later → ItemsLayout (item :: rest) (head :: below ++ later)

/-- The nodes of some entries with their keys, each but the last linked to the next. -/
inductive EntriesLayout : List (String × Value) → List Node → Prop where
  | nil : EntriesLayout [] []
  | cons {key : String} {value : Value} {rest : List (String × Value)} {head : Node}
      {below later : List Node} :
      Layout value (head :: below) →
      head.keyType = KeyType.text.code → head.key = key →
      (rest ≠ [] → head.siblingOffset.toNat = below.length) →
      EntriesLayout rest later → EntriesLayout ((key, value) :: rest) (head :: below ++ later)

end

mutual

theorem Layout.length {value : Value} {nodes : List Node} :
    Layout value nodes → nodes.length = value.count
  | .leaf leaf _ => by cases value <;> first | rfl | exact leaf.elim
  | .sequence _ items => by simp [items.length, Value.count, Nat.add_comm]
  | .map _ entries => by simp [entries.length, Value.count, Nat.add_comm]

theorem ItemsLayout.length {items : List Value} {nodes : List Node} :
    ItemsLayout items nodes → nodes.length = Value.countItems items
  | .nil => rfl
  | .cons item _ rest => by rw [List.length_append, item.length, rest.length, Value.countItems]

theorem EntriesLayout.length {entries : List (String × Value)} {nodes : List Node} :
    EntriesLayout entries nodes → nodes.length = Value.countEntries entries
  | .nil => rfl
  | .cons value _ _ _ rest => by
    rw [List.length_append, value.length, rest.length, Value.countEntries]

end

theorem ItemsLayout.le_length {items : List Value} {nodes : List Node}
    (layout : ItemsLayout items nodes) : items.length ≤ nodes.length := by
  induction items generalizing nodes with
  | nil => exact Nat.zero_le _
  | cons item rest ih =>
    cases layout with
    | cons _ _ later =>
      have more := ih later
      simp only [List.length_append, List.length_cons]
      omega

theorem EntriesLayout.le_length {entries : List (String × Value)} {nodes : List Node}
    (layout : EntriesLayout entries nodes) : entries.length ≤ nodes.length := by
  induction entries generalizing nodes with
  | nil => exact Nat.zero_le _
  | cons entry rest ih =>
    cases layout with
    | cons _ _ _ _ later =>
      have more := ih later
      simp only [List.length_append, List.length_cons]
      omega

/-! ## Places in a payload -/

/-- Some nodes stand in a payload, the first of them at an index. -/
def Stands (payload : Array Node) (index : Nat) (nodes : List Node) : Prop :=
  nodes <+: payload.toList.drop index

namespace Stands

variable {payload : Array Node} {index : Nat}

theorem head {first : Node} {rest : List Node} (stands : Stands payload index (first :: rest)) :
    nodeAt payload index = .ok first := by
  have here := List.prefix_iff_getElem?.mp stands 0 (Nat.zero_lt_succ _)
  rw [List.getElem?_drop, Array.getElem?_toList] at here
  exact nodeAt_eq_ok_iff.mpr here

theorem left {nodes later : List Node} (stands : Stands payload index (nodes ++ later)) :
    Stands payload index nodes :=
  (List.prefix_append nodes later).trans stands

theorem right {nodes later : List Node} (stands : Stands payload index (nodes ++ later)) :
    Stands payload (index + nodes.length) later := by
  obtain ⟨after, whole⟩ := stands
  refine ⟨after, ?_⟩
  rw [← List.drop_drop, ← whole, List.append_assoc, List.drop_left]

theorem tail {first : Node} {rest : List Node} (stands : Stands payload index (first :: rest)) :
    Stands payload (index + 1) rest := by
  have apart : Stands payload index ([first] ++ rest) := stands
  exact apart.right

theorem fits {first : Node} {rest : List Node} (stands : Stands payload index (first :: rest)) :
    index + rest.length < payload.size := by
  have size : payload.toList.length = payload.size := rfl
  have room := List.IsPrefix.length_le stands
  rw [List.length_cons, List.length_drop, size] at room
  omega

end Stands

end ConfigWatch.Payload

import ConfigWatch.Proofs.Payload.Flattening
import ConfigWatch.Proofs.Protocol.Arrivals

/-!
# Values across the wire

A value that is flattened, sent in a response, received and decoded is the value that was sent,
but for the signs of its zeros: without them a layout of the value is a layout still.
-/

set_option autoImplicit false

namespace ConfigWatch

open Wire

namespace Value

mutual

/-- What arrives of a value: the zeros among its doubles are positive. -/
def unsignZeros : Value → Value
  | .double number => .double number.unsignZero
  | .sequence items => .sequence (unsignZerosOfItems items)
  | .map entries => .map (unsignZerosOfEntries entries)
  | value => value

def unsignZerosOfItems : List Value → List Value
  | [] => []
  | item :: rest => unsignZeros item :: unsignZerosOfItems rest

def unsignZerosOfEntries : List (String × Value) → List (String × Value)
  | [] => []
  | (key, value) :: rest => (key, unsignZeros value) :: unsignZerosOfEntries rest

end

theorem unsignZerosOfItems_eq_map (items : List Value) :
    unsignZerosOfItems items = items.map unsignZeros := by
  induction items with
  | nil => rfl
  | cons item rest ih => rw [unsignZerosOfItems, ih, List.map_cons]

theorem unsignZerosOfEntries_eq_map (entries : List (String × Value)) :
    unsignZerosOfEntries entries = entries.map (Prod.map id unsignZeros) := by
  induction entries with
  | nil => rfl
  | cons entry rest ih => rw [unsignZerosOfEntries, ih]; rfl

theorem keys_unsignZerosOfEntries (entries : List (String × Value)) :
    (unsignZerosOfEntries entries).map Prod.fst = entries.map Prod.fst := by
  rw [unsignZerosOfEntries_eq_map, List.map_map]
  rfl

mutual

theorem levels_unsignZeros : (value : Value) → value.unsignZeros.levels = value.levels
  | .sequence items => by rw [unsignZeros, levels, levelsOfItems_unsignZeros items, levels]
  | .map entries => by rw [unsignZeros, levels, levelsOfEntries_unsignZeros entries, levels]
  | .undefined | .null | .text _ | .bytes _ | .int _ | .double _ | .bool _ => rfl

theorem levelsOfItems_unsignZeros : (items : List Value) →
    levelsOfItems (unsignZerosOfItems items) = levelsOfItems items
  | [] => rfl
  | item :: rest => by
    rw [unsignZerosOfItems, levelsOfItems, levels_unsignZeros item, levelsOfItems_unsignZeros rest,
      levelsOfItems]

theorem levelsOfEntries_unsignZeros : (entries : List (String × Value)) →
    levelsOfEntries (unsignZerosOfEntries entries) = levelsOfEntries entries
  | [] => rfl
  | (_, value) :: rest => by
    rw [unsignZerosOfEntries, levelsOfEntries, levels_unsignZeros value,
      levelsOfEntries_unsignZeros rest, levelsOfEntries]

end

mutual

theorem Ordered.unsignZeros : {value : Value} → value.Ordered → value.unsignZeros.Ordered
  | .sequence _, ordered => ItemsOrdered.unsignZeros ordered
  | .map entries, ordered => by
    refine ⟨?_, EntriesOrdered.unsignZeros ordered.2⟩
    rw [KeysAscend, keys_unsignZerosOfEntries]
    exact ordered.1
  | .undefined, _ | .null, _ | .text _, _ | .bytes _, _ | .int _, _ | .double _, _
    | .bool _, _ => trivial

theorem ItemsOrdered.unsignZeros :
    {items : List Value} → ItemsOrdered items → ItemsOrdered (unsignZerosOfItems items)
  | [], _ => trivial
  | _ :: _, ordered => ⟨Ordered.unsignZeros ordered.1, ItemsOrdered.unsignZeros ordered.2⟩

theorem EntriesOrdered.unsignZeros : {entries : List (String × Value)} →
    EntriesOrdered entries → EntriesOrdered (unsignZerosOfEntries entries)
  | [], _ => trivial
  | (_, _) :: _, ordered =>
    ⟨Ordered.unsignZeros ordered.1, EntriesOrdered.unsignZeros ordered.2⟩

end

end Value

/-! ## Layouts without signs of zeros -/

namespace Payload

theorem IsLeaf.unsignZeros {value : Value} (childless : IsLeaf value) :
    IsLeaf value.unsignZeros := by
  cases value <;> exact childless

theorem Carries.unsignZeros {node : Node} {value : Value} (carries : Carries node value) :
    Carries node.unsignZero value.unsignZeros := by
  cases value with
  | double number => exact ⟨carries.1, congrArg Double.unsignZero carries.2⟩
  | sequence items =>
    refine ⟨carries.1, carries.2.trans ?_⟩
    rw [Value.unsignZerosOfItems_eq_map, List.length_map]
  | map entries =>
    refine ⟨carries.1, carries.2.trans ?_⟩
    rw [Value.unsignZerosOfEntries_eq_map, List.length_map]
  | _ => exact carries

mutual

theorem Layout.unsignZeros {value : Value} {nodes : List Node} :
    Layout value nodes → Layout value.unsignZeros (nodes.map Node.unsignZero)
  | .leaf childless carries => .leaf childless.unsignZeros carries.unsignZeros
  | .sequence carries items => .sequence carries.unsignZeros items.unsignZeros
  | .map carries entries => .map carries.unsignZeros entries.unsignZeros

theorem ItemsLayout.unsignZeros {items : List Value} {nodes : List Node} :
    ItemsLayout items nodes →
      ItemsLayout (Value.unsignZerosOfItems items) (nodes.map Node.unsignZero)
  | .nil => .nil
  | .cons first linked others => by
    rw [List.map_append]
    refine .cons first.unsignZeros (fun more => ?_) others.unsignZeros
    rw [List.length_map]
    exact linked (mt (congrArg Value.unsignZerosOfItems) more)

theorem EntriesLayout.unsignZeros {entries : List (String × Value)} {nodes : List Node} :
    EntriesLayout entries nodes →
      EntriesLayout (Value.unsignZerosOfEntries entries) (nodes.map Node.unsignZero)
  | .nil => .nil
  | .cons first texted keyed linked others => by
    rw [List.map_append]
    refine .cons first.unsignZeros texted keyed (fun more => ?_) others.unsignZeros
    rw [List.length_map]
    exact linked (mt (congrArg Value.unsignZerosOfEntries) more)

end

theorem Layout.decode_unsigned {value : Value} {nodes : List Node} (layout : Layout value nodes)
    (ordered : value.Ordered) (shallow : ∀ level ∈ value.levels, level ≤ maxDepth) :
    Payload.decode (nodes.map Node.unsignZero).toArray = .ok value.unsignZeros := by
  have stands : Stands (nodes.map Node.unsignZero).toArray 0 (nodes.map Node.unsignZero) :=
    List.prefix_refl _
  have ends := layout.unsignZeros.decode ordered.unsignZeros.keysDiffer stands
  rw [← Value.levels_unsignZeros] at shallow
  rw [Value.firstAt?_eq_none shallow, ordered.unsignZeros.arranged] at ends
  obtain ⟨_, decoded, rfl⟩ := ends
  exact decoded

end Payload

/-! ## Back to messages and values -/

/-- A message that is encoded and decoded is what arrives of it. Lengths travel as words of 64 bits,
and nothing that is encoded is longer. -/
def ComesBack {α : Type} [Message α] (arrives : α → α) : Prop :=
  ∀ message : α, (Message.encode message).length < 2 ^ 64 →
    Message.decode (Message.encode message) = some (arrives message)

/-- All messages come back, and with the responses the values whose flattenings they hold. Only the
zeros among the doubles come back without their signs. -/
theorem messages_and_values_come_back :
    (ComesBack (id : ReadRequest → ReadRequest) ∧ ComesBack ReadResponse.unsignZero ∧
      ComesBack (id : ReloadRequest → ReloadRequest) ∧
      ComesBack (id : ReloadResponse → ReloadResponse) ∧
      ComesBack (id : WatchRequest → WatchRequest) ∧ ComesBack WatchResponse.unsignZero ∧
      ComesBack (id : TraceRequest → TraceRequest) ∧
      ComesBack (id : TraceResponse → TraceResponse)) ∧
    ∀ value : Value, value.Ordered → value.count < 2 ^ 32 →
      (∀ level ∈ value.levels, level ≤ Payload.maxDepth) →
        (∀ response : ReadResponse, response.nodes = Payload.flatten value →
          (Message.encode response).length < 2 ^ 64 →
            ∃ received : ReadResponse, Message.decode (Message.encode response) = some received ∧
              Payload.decode received.nodes.toArray = .ok value.unsignZeros) ∧
        (∀ response : WatchResponse, response.nodes = Payload.flatten value →
          (Message.encode response).length < 2 ^ 64 →
            ∃ received : WatchResponse, Message.decode (Message.encode response) = some received ∧
              Payload.decode received.nodes.toArray = .ok value.unsignZeros) := by
  have read : ComesBack ReadResponse.unsignZero := readResponse_arrives
  have watched : ComesBack WatchResponse.unsignZero := watchResponse_arrives
  refine ⟨⟨readRequest_arrives, read, reloadRequest_arrives, reloadResponse_arrives,
    watchRequest_arrives, watched, traceRequest_arrives, traceResponse_arrives⟩, ?_⟩
  intro value ordered few shallow
  have decoded := (Payload.flatten_layout value few).decode_unsigned ordered shallow
  refine ⟨fun response holds short => ⟨_, read response short, ?_⟩,
    fun response holds short => ⟨_, watched response short, ?_⟩⟩
  · rw [ReadResponse.unsignZero, holds]
    exact decoded
  · rw [WatchResponse.unsignZero, holds]
    exact decoded

/-- A zero with a sign. -/
private def negativeZero : Double := ⟨9223372036854775808⟩

/-- News with a status, a level and a node of types that nobody knows. -/
private def unknown : WatchResponse where
  uid := 7
  status := -1
  nodes :=
    [{ valueType := 99, key := "clé", int := -3, double := negativeZero, position := some {} }]
  logs := [{ level := -5, message := "né", origin := some { line := 3 } }]
  sources := [{ path := "a.yaml" }]

private def ratios : Value :=
  .map [("name", .text "né"), ("ratios", .sequence [.double negativeZero, .null])]

private def answer : ReadResponse where
  status := 1
  nodes := Payload.flatten ratios

theorem messages_and_values_come_back_unsigned :
    ((Message.encode unknown).length < 2 ^ 64 ∧
      Message.decode (Message.encode unknown) = some unknown.unsignZero) ∧
    ratios.Ordered ∧ ratios.count < 2 ^ 32 ∧
    (∀ level ∈ ratios.levels, level ≤ Payload.maxDepth) ∧
    (Message.encode answer).length < 2 ^ 64 ∧
    ∃ received : ReadResponse, Message.decode (Message.encode answer) = some received ∧
      Payload.decode received.nodes.toArray = .ok
        (.map [("name", .text "né"), ("ratios", .sequence [.double Double.zero, .null])]) := by
  have ordered : ratios.Ordered := by
    simp only [ratios, Value.Ordered, Value.EntriesOrdered, Value.ItemsOrdered, Value.KeysAscend,
      List.map_cons, List.map_nil, and_true]
    decide
  have few : ratios.count < 2 ^ 32 := by decide
  have shallow : ∀ level ∈ ratios.levels, level ≤ Payload.maxDepth := by decide
  have shortNews : (Message.encode unknown).length < 2 ^ 64 := by decide +kernel
  have shortAnswer : (Message.encode answer).length < 2 ^ 64 := by decide +kernel
  obtain ⟨⟨-, -, -, -, -, watched, -, -⟩, values⟩ := messages_and_values_come_back
  exact ⟨⟨shortNews, watched unknown shortNews⟩, ordered, few, shallow, shortAnswer,
    (values ratios ordered few shallow).1 answer rfl shortAnswer⟩

end ConfigWatch

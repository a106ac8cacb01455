import ConfigWatch.Proofs.Payload.Decoding

/-!
# Decoding with and without places

The places of values come along with a decoding, and are not heard in it: whether they are asked
for or not, a payload decodes to the same value or fails with the same cause.
-/

set_option autoImplicit false

namespace ConfigWatch.Payload

/-- What a decoding comes to when places are left out. -/
def seen (reading : Except DecodeError Decoded) : Except DecodeError Value :=
  reading.map Decoded.value

section Bind

variable {α β γ δ : Type} {view : α → γ} {outer : β → δ}

/-- Two readings that look alike go on alike. -/
theorem map_bind_congr {left right : Except DecodeError α}
    {leftNext rightNext : α → Except DecodeError β}
    (same : left.map view = right.map view)
    (alike : ∀ first second, view first = view second →
      (leftNext first).map outer = (rightNext second).map outer) :
    (left >>= leftNext).map outer = (right >>= rightNext).map outer := by
  cases left with
  | error cause =>
    cases right with
    | error other =>
      cases same
      rfl
    | ok second => cases same
  | ok first =>
    cases right with
    | error other => cases same
    | ok second => exact alike first second (Except.ok.inj same)

end Bind

variable {payload : Array Node} {left right : Nat → Except DecodeError Decoded}

theorem decodeItems_seen (same : ∀ index, seen (left index) = seen (right index))
    (remaining index : Nat) :
    (decodeItems payload left remaining index).map (List.map Decoded.value) =
      (decodeItems payload right remaining index).map (List.map Decoded.value) := by
  induction remaining generalizing index with
  | zero => rfl
  | succ remaining ih =>
    cases here : nodeAt payload index with
    | error cause => simp only [decodeItems, here, bind, Except.bind]
    | ok node =>
      rw [decodeItems_step here, decodeItems_step here]
      refine map_bind_congr (same index) (fun first second alike => ?_)
      refine map_bind_congr (ih _) (fun rest others equal => ?_)
      exact congrArg Except.ok (congrArg₂ List.cons alike equal)

private theorem hasKey_congr {key : String} {found known : List (String × Decoded)}
    (alike : found.map (Prod.map id Decoded.value) = known.map (Prod.map id Decoded.value)) :
    Value.hasKey key found = Value.hasKey key known := by
  have viewed (entries : List (String × Decoded)) :
      Value.hasKey key (entries.map (Prod.map id Decoded.value)) = Value.hasKey key entries := by
    simp only [Value.hasKey, List.any_map]
    rfl
  rw [← viewed found, alike, viewed known]

theorem decodeEntries_seen (same : ∀ index, seen (left index) = seen (right index))
    (remaining index : Nat) {found known : List (String × Decoded)}
    (alike : found.map (Prod.map id Decoded.value) = known.map (Prod.map id Decoded.value)) :
    (decodeEntries payload left remaining index found).map
        (List.map (Prod.map id Decoded.value)) =
      (decodeEntries payload right remaining index known).map
        (List.map (Prod.map id Decoded.value)) := by
  induction remaining generalizing index found known with
  | zero => exact congrArg Except.ok alike
  | succ remaining ih =>
    cases here : nodeAt payload index with
    | error cause => simp only [decodeEntries, here, bind, Except.bind]
    | ok node =>
      cases keyed : entryKey node index with
      | error cause => simp only [decodeEntries, here, keyed, bind, Except.bind]
      | ok key =>
        simp only [decodeEntries, here, keyed, bind, Except.bind, hasKey_congr alike]
        refine map_bind_congr (same index) (fun first second equal => ?_)
        cases Value.hasKey key known with
        | true => rfl
        | false =>
          refine ih (nextSibling node index) ?_
          rw [Value.map_insertEntry, Value.map_insertEntry, equal, alike]

theorem decodeNode_seen (payload : Array Node) (left right : Bool) (levels index : Nat) :
    seen (decodeNode payload left levels index) = seen (decodeNode payload right levels index) := by
  induction levels generalizing index with
  | zero => rfl
  | succ levels ih =>
    cases here : nodeAt payload index with
    | error cause => simp only [decodeNode, here, bind, Except.bind]
    | ok node =>
      simp only [decodeNode, here, bind, Except.bind]
      cases ValueType.ofCode? node.valueType with
      | none => rfl
      | some kind =>
        cases kind with
        | map =>
          cases declaredSize payload node index with
          | error cause => rfl
          | ok size =>
            refine map_bind_congr (decodeEntries_seen ih size (index + 1) rfl) (fun _ _ equal => ?_)
            exact congrArg (fun entries => Except.ok (Value.map entries)) equal
        | sequence =>
          cases declaredSize payload node index with
          | error cause => rfl
          | ok size =>
            refine map_bind_congr (decodeItems_seen ih size (index + 1)) (fun _ _ equal => ?_)
            exact congrArg (fun items => Except.ok (Value.sequence items)) equal
        | _ => rfl

theorem decodeWith_seen (positions : Bool) (payload : Array Node) :
    seen (decodeWith positions payload) = decode payload := by
  unfold decode decodeWith
  split
  · rfl
  · exact decodeNode_seen payload positions false (maxDepth + 1) 0

end ConfigWatch.Payload

import ConfigWatch.Proofs.Payload.Readings

/-!
# Why a payload does not decode

An error names a node and says what is wrong with it. What it says is true of the payload: the node
has the code or the key that the error gives, an index that is out of range lies beyond the last
node, and a node that is too deep has more nodes before it than there are levels.

To see that no index goes astray on the way, the decoder is followed with the probes that it makes:
every index that it looks up, and every index whose following nodes it counts.
-/

set_option autoImplicit false

namespace ConfigWatch

theorem ValueType.ofCode?_code (type : ValueType) : ValueType.ofCode? type.code = some type := by
  cases type <;> rfl

theorem KeyType.ofCode?_code (type : KeyType) : KeyType.ofCode? type.code = some type := by
  cases type <;> rfl

theorem KeyType.code_of_ofCode? {code : Int32} {type : KeyType}
    (known : KeyType.ofCode? code = some type) : code = type.code := by
  unfold KeyType.ofCode? at known
  split at known
  · next same =>
    cases known
    exact same
  · split at known
    · next same =>
      cases known
      exact same
    · cases known

namespace Payload

/-- A node that carries a string key. -/
def Keyed (payload : Array Node) (index : Nat) (key : String) : Prop :=
  ∃ node, payload[index]? = some node ∧ node.keyType = KeyType.text.code ∧ node.key = key

end Payload

/-- What an error says of the payload it was found in. -/
def DecodeError.TrueOf (payload : Array Node) : DecodeError → Prop
  | .unknownValueType index code =>
    ∃ node, payload[index]? = some node ∧ node.valueType = code ∧
      ∀ type : ValueType, type.code ≠ code
  | .unknownKeyType index code =>
    ∃ node, payload[index]? = some node ∧ node.keyType = code ∧ ∀ type : KeyType, type.code ≠ code
  | .missingKey index => ∃ node, payload[index]? = some node ∧ node.keyType = KeyType.none.code
  | .duplicateKey index key =>
    Payload.Keyed payload index key ∧ ∃ earlier < index, Payload.Keyed payload earlier key
  | .outOfRange index length => length = payload.size ∧ length ≤ index
  | .tooDeep index limit => limit = 128 ∧ 129 ≤ index ∧ index < payload.size

namespace Payload

/-- What a decoding asks of its payload by an index. -/
inductive Probe where
  /-- The node at the index. -/
  | node (index : Nat)
  /-- The number of nodes after the index. -/
  | rest (index : Nat)

/-- The probes of a reading up to its end or its first error, and how it ended. -/
structure Probing (α : Type) where
  probes : List Probe
  outcome : Except DecodeError α

namespace Probing

variable {α β : Type}

instance : Monad Probing where
  pure result := ⟨[], .ok result⟩
  bind first next :=
    match first.outcome with
    | .error cause => ⟨first.probes, .error cause⟩
    | .ok result => ⟨first.probes ++ (next result).probes, (next result).outcome⟩

theorem outcome_bind (first : Probing α) (next : α → Probing β) :
    (first >>= next).outcome = first.outcome >>= fun result => (next result).outcome := by
  simp only [bind]
  cases first.outcome <;> rfl

/-- A step that asks nothing of the payload. -/
def unprobed (outcome : Except DecodeError α) : Probing α := ⟨[], outcome⟩

/-! ## The decoder with its probes -/

def nodeAt (payload : Array Node) (index : Nat) : Probing Node :=
  ⟨[.node index], Payload.nodeAt payload index⟩

def declaredSize (payload : Array Node) (node : Node) (index : Nat) : Probing Nat :=
  ⟨[.rest index], Payload.declaredSize payload node index⟩

def decodeItems (payload : Array Node) (child : Nat → Probing Decoded) :
    (remaining index : Nat) → Probing (List Decoded)
  | 0, _ => pure []
  | remaining + 1, index => do
    let entry ← nodeAt payload index
    let item ← child index
    let rest ← decodeItems payload child remaining (nextSibling entry index)
    return item :: rest

def decodeEntries (payload : Array Node) (child : Nat → Probing Decoded) :
    (remaining index : Nat) → List (String × Decoded) → Probing (List (String × Decoded))
  | 0, _, found => pure found
  | remaining + 1, index, found => do
    let entry ← nodeAt payload index
    let key ← unprobed (entryKey entry index)
    let value ← child index
    if Value.hasKey key found then unprobed (.error (.duplicateKey index key))
    else
      decodeEntries payload child remaining (nextSibling entry index)
        (Value.insertEntry key value found)

def decodeNode (payload : Array Node) (positions : Bool) :
    (levels index : Nat) → Probing Decoded
  | 0, index => unprobed (.error (.tooDeep index maxDepth))
  | levels + 1, index => do
    let node ← nodeAt payload index
    match ValueType.ofCode? node.valueType with
    | none => unprobed (.error (.unknownValueType index node.valueType))
    | some .undefined => return leaf positions node .undefined
    | some .null => return leaf positions node .null
    | some .text => return leaf positions node (.text node.text)
    | some .bytes => return leaf positions node (.bytes node.bytes)
    | some .int => return leaf positions node (.int node.int)
    | some .double => return leaf positions node (.double node.double)
    | some .bool => return leaf positions node (.bool node.bool)
    | some .map =>
      let size ← declaredSize payload node index
      let entries ← decodeEntries payload (decodeNode payload positions levels) size (index + 1) []
      return mapOf positions node entries
    | some .sequence =>
      let size ← declaredSize payload node index
      let items ← decodeItems payload (decodeNode payload positions levels) size (index + 1)
      return sequenceOf positions node items

def decodeWith (positions : Bool) (payload : Array Node) : Probing Decoded :=
  if payload.isEmpty then pure ⟨.undefined, .empty⟩
  else decodeNode payload positions (maxDepth + 1) 0

variable {payload : Array Node}

theorem outcome_decodeItems (child : Nat → Probing Decoded) (remaining index : Nat) :
    (decodeItems payload child remaining index).outcome =
      Payload.decodeItems payload (fun index => (child index).outcome) remaining index := by
  induction remaining generalizing index with
  | zero => rfl
  | succ remaining ih =>
    simp only [decodeItems, outcome_bind, ih, Payload.decodeItems]
    rfl

theorem outcome_decodeEntries (child : Nat → Probing Decoded) (remaining index : Nat)
    (found : List (String × Decoded)) :
    (decodeEntries payload child remaining index found).outcome =
      Payload.decodeEntries payload (fun index => (child index).outcome) remaining index found := by
  induction remaining generalizing index found with
  | zero => rfl
  | succ remaining ih =>
    simp only [decodeEntries, outcome_bind, Payload.decodeEntries]
    congr 1
    funext entry
    congr 1
    funext key
    congr 1
    funext value
    split
    · rfl
    · exact ih ..

theorem outcome_decodeNode (positions : Bool) (levels index : Nat) :
    (decodeNode payload positions levels index).outcome =
      Payload.decodeNode payload positions levels index := by
  induction levels generalizing index with
  | zero => rfl
  | succ levels ih =>
    simp only [decodeNode, outcome_bind, Payload.decodeNode]
    congr 1
    funext node
    cases ValueType.ofCode? node.valueType with
    | none => rfl
    | some kind =>
      cases kind with
      | map | sequence =>
        simp only [outcome_bind, outcome_decodeItems, outcome_decodeEntries, ih]
        rfl
      | _ => rfl

/-- Probes change nothing about how a decoding ends. -/
theorem outcome_decodeWith (positions : Bool) (payload : Array Node) :
    (decodeWith positions payload).outcome = Payload.decodeWith positions payload := by
  unfold decodeWith Payload.decodeWith
  split
  · rfl
  · exact outcome_decodeNode ..

/-! ## Soundness -/

/-- A reading whose probes stay inside the payload, but for a last one that the error names, whose
errors are true, and whose results are as expected. -/
structure Sound (payload : Array Node) (expected : α → Prop) (reading : Probing α) : Prop where
  lookups : ∀ index, .node index ∈ reading.probes →
    index < payload.size ∨ reading.outcome = .error (.outOfRange index payload.size)
  counts : ∀ index, .rest index ∈ reading.probes → index + 1 ≤ payload.size
  fails : ∀ cause, reading.outcome = .error cause → cause.TrueOf payload
  gives : ∀ result, reading.outcome = .ok result → expected result

theorem sound_unprobed {expected : α → Prop} {outcome : Except DecodeError α}
    (fails : ∀ cause, outcome = .error cause → cause.TrueOf payload)
    (gives : ∀ result, outcome = .ok result → expected result) :
    Sound payload expected (unprobed outcome) :=
  ⟨by simp [unprobed], by simp [unprobed], fails, gives⟩

theorem sound_pure {expected : α → Prop} {result : α} (given : expected result) :
    Sound payload expected (pure result) :=
  sound_unprobed (by simp) (by simpa using given)

theorem sound_error {expected : α → Prop} {cause : DecodeError} (truth : cause.TrueOf payload) :
    Sound payload expected (unprobed (.error cause)) :=
  sound_unprobed (by simpa using truth) (by simp)

theorem Sound.bind {expected : α → Prop} {wanted : β → Prop} {first : Probing α}
    {next : α → Probing β} (sound : Sound payload expected first)
    (later : ∀ result, expected result → Sound payload wanted (next result)) :
    Sound payload wanted (first >>= next) := by
  cases ended : first.outcome with
  | error cause =>
    have whole : first >>= next = ⟨first.probes, .error cause⟩ := by
      simp only [Bind.bind, ended]
    rw [whole]
    refine ⟨fun index probed => (sound.lookups index probed).imp_right (fun same => ?_),
      sound.counts, fun other same => ?_, fun result same => nomatch same⟩
    · exact congrArg Except.error (Except.error.inj (ended.symm.trans same))
    · cases same
      exact sound.fails cause ended
  | ok result =>
    have after := later result (sound.gives result ended)
    have whole : first >>= next =
        ⟨first.probes ++ (next result).probes, (next result).outcome⟩ := by
      simp only [Bind.bind, ended]
    rw [whole]
    refine ⟨fun index probed => ?_, fun index probed => ?_, after.fails, after.gives⟩
    · rcases List.mem_append.mp probed with earlier | afterwards
      · -- A probe that failed would have ended the first reading.
        exact .inl ((sound.lookups index earlier).resolve_right (by simp [ended]))
      · exact after.lookups index afterwards
    · rcases List.mem_append.mp probed with earlier | afterwards
      · exact sound.counts index earlier
      · exact after.counts index afterwards

/-! ## Every step is sound -/

theorem sound_nodeAt (payload : Array Node) (index : Nat) :
    Sound payload (fun node => payload[index]? = some node) (nodeAt payload index) := by
  cases found : payload[index]? with
  | none =>
    have beyond : payload.size ≤ index := Array.getElem?_eq_none_iff.mp found
    have ended : Payload.nodeAt payload index = .error (.outOfRange index payload.size) := by
      rw [Payload.nodeAt, found]
    refine ⟨fun other probed => ?_, by simp [nodeAt], ?_, ?_⟩
    · cases List.mem_singleton.mp probed
      exact .inr ended
    · rintro cause failed
      cases ended.symm.trans failed
      exact ⟨rfl, beyond⟩
    · rintro node given
      cases ended.symm.trans given
  | some node =>
    have ended : Payload.nodeAt payload index = .ok node := nodeAt_eq_ok_iff.mpr found
    refine ⟨fun other probed => ?_, by simp [nodeAt], ?_, ?_⟩
    · cases List.mem_singleton.mp probed
      exact .inl (Array.getElem?_eq_some_iff.mp found).1
    · rintro cause failed
      cases ended.symm.trans failed
    · rintro other given
      cases ended.symm.trans given
      rfl

theorem sound_declaredSize {index : Nat} (inside : index < payload.size) (node : Node) :
    Sound payload (fun _ => True) (declaredSize payload node index) := by
  refine ⟨by simp [declaredSize], fun other probed => ?_, fun cause failed => ?_,
    fun _ _ => trivial⟩
  · cases List.mem_singleton.mp probed
    exact inside
  · simp only [declaredSize, Payload.declaredSize] at failed
    split at failed
    · next short =>
      cases failed
      exact ⟨rfl, by omega⟩
    · cases failed

theorem sound_entryKey {index : Nat} {entry : Node} (found : payload[index]? = some entry) :
    Sound payload (fun key => Keyed payload index key) (unprobed (entryKey entry index)) := by
  cases known : KeyType.ofCode? entry.keyType with
  | none =>
    rw [entryKey, known]
    refine sound_error ⟨entry, found, rfl, fun type same => ?_⟩
    rw [← same, KeyType.ofCode?_code] at known
    cases known
  | some type =>
    have code := KeyType.code_of_ofCode? known
    rw [entryKey, known]
    cases type with
    | none => exact sound_error ⟨entry, found, code⟩
    | text => exact sound_pure ⟨entry, found, code, rfl⟩

theorem sound_decodeItems {child : Nat → Probing Decoded} (remaining : Nat) {start : Nat}
    (sound : ∀ index ≥ start, index < payload.size →
      Sound payload (fun _ => True) (child index)) :
    Sound payload (fun _ => True) (decodeItems payload child remaining start) := by
  induction remaining generalizing start with
  | zero => exact sound_pure trivial
  | succ remaining ih =>
    refine (sound_nodeAt payload start).bind (fun entry found => ?_)
    have inside := (Array.getElem?_eq_some_iff.mp found).1
    refine (sound start (Nat.le_refl _) inside).bind (fun item _ => ?_)
    have onwards : start ≤ nextSibling entry start := by
      unfold nextSibling
      omega
    have rest := ih (fun index le => sound index (Nat.le_trans onwards le))
    exact rest.bind (fun _ _ => sound_pure trivial)

theorem mem_of_hasKey {key : String} {found : List (String × Decoded)}
    (present : Value.hasKey key found = true) : ∃ value, (key, value) ∈ found := by
  obtain ⟨⟨other, value⟩, member, same⟩ := List.any_eq_true.mp present
  obtain rfl : other = key := by simpa using same
  exact ⟨value, member⟩

/-- The keys found before belong to earlier nodes, so a key that comes again has two. -/
theorem sound_decodeEntries {child : Nat → Probing Decoded} (remaining : Nat) {start : Nat}
    {found : List (String × Decoded)}
    (sound : ∀ index ≥ start, index < payload.size →
      Sound payload (fun _ => True) (child index))
    (before : ∀ entry ∈ found, ∃ earlier < start, Keyed payload earlier entry.1) :
    Sound payload (fun _ => True) (decodeEntries payload child remaining start found) := by
  induction remaining generalizing start found with
  | zero => exact sound_pure trivial
  | succ remaining ih =>
    refine (sound_nodeAt payload start).bind (fun entry here => ?_)
    have inside := (Array.getElem?_eq_some_iff.mp here).1
    refine (sound_entryKey here).bind (fun key keyed => ?_)
    refine (sound start (Nat.le_refl _) inside).bind (fun value _ => ?_)
    have onwards : start < nextSibling entry start := by
      unfold nextSibling
      omega
    cases present : Value.hasKey key found with
    | true =>
      obtain ⟨held, member⟩ := mem_of_hasKey present
      exact sound_error ⟨keyed, before _ member⟩
    | false =>
      refine ih (fun index le => sound index (Nat.le_trans (Nat.le_of_lt onwards) le))
        (fun other member => ?_)
      rcases List.mem_cons.mp ((insertEntry_perm present).mem_iff.mp member) with rfl | old
      · exact ⟨start, onwards, keyed⟩
      · obtain ⟨earlier, lt, carries⟩ := before other old
        exact ⟨earlier, Nat.lt_trans lt onwards, carries⟩

/-- A node has an ancestor for each level above it, and they all come before it. -/
theorem sound_decodeNode (positions : Bool) {levels index : Nat} (inside : index < payload.size)
    (deep : 129 ≤ levels + index) :
    Sound payload (fun _ => True) (decodeNode payload positions levels index) := by
  induction levels generalizing index with
  | zero => exact sound_error ⟨rfl, by omega, inside⟩
  | succ levels ih =>
    have below : ∀ child ≥ index + 1, child < payload.size →
        Sound payload (fun _ => True) (decodeNode payload positions levels child) :=
      fun child le there => ih there (by omega)
    refine (sound_nodeAt payload index).bind (fun node found => ?_)
    cases known : ValueType.ofCode? node.valueType with
    | none =>
      refine sound_error ⟨node, found, rfl, fun type same => ?_⟩
      rw [← same, ValueType.ofCode?_code] at known
      cases known
    | some kind =>
      cases kind with
      | map =>
        refine (sound_declaredSize inside node).bind (fun size _ => ?_)
        have entries := sound_decodeEntries size below (List.forall_mem_nil _)
        exact entries.bind (fun _ _ => sound_pure trivial)
      | sequence =>
        refine (sound_declaredSize inside node).bind (fun size _ => ?_)
        have items := sound_decodeItems size below
        exact items.bind (fun _ _ => sound_pure trivial)
      | undefined | null | text | bytes | int | double | bool => exact sound_pure trivial

theorem sound_decodeWith (positions : Bool) (payload : Array Node) :
    Sound payload (fun _ => True) (decodeWith positions payload) := by
  unfold decodeWith
  split
  · exact sound_pure trivial
  · next nonempty =>
    have inside : 0 < payload.size := by
      rw [Array.isEmpty_iff_size_eq_zero] at nonempty
      omega
    exact sound_decodeNode positions inside (Nat.le_refl _)

end Probing

/-- An error of a decoding is true of its payload. On the way every index is looked up inside the
payload, unless the error is that it lies outside, and the nodes that follow an index are counted
for nodes of the payload only, where taking the index and one from the number of nodes leaves a
number. -/
theorem decode_errors_are_true (positions : Bool) (payload : Array Node) :
    (∀ cause, decode payload = .error cause → cause.TrueOf payload) ∧
    (∀ cause, decodeWith positions payload = .error cause → cause.TrueOf payload) ∧
    (Probing.decodeWith positions payload).outcome = decodeWith positions payload ∧
    (∀ index, .rest index ∈ (Probing.decodeWith positions payload).probes →
      index + 1 ≤ payload.size) ∧
    (∀ index, .node index ∈ (Probing.decodeWith positions payload).probes →
      index < payload.size ∨
        decodeWith positions payload = .error (.outOfRange index payload.size)) := by
  have truth (positions : Bool) (cause : DecodeError)
      (failed : decodeWith positions payload = .error cause) : cause.TrueOf payload := by
    rw [← Probing.outcome_decodeWith] at failed
    exact (Probing.sound_decodeWith positions payload).fails cause failed
  have sound := Probing.sound_decodeWith positions payload
  refine ⟨fun cause failed => truth false cause ?_, truth positions,
    Probing.outcome_decodeWith positions payload, sound.counts, fun index probed => ?_⟩
  · unfold decode at failed
    cases ended : decodeWith false payload with
    | error other =>
      rw [ended] at failed
      cases failed
      rfl
    | ok decoded =>
      rw [ended] at failed
      cases failed
  · rw [← Probing.outcome_decodeWith]
    exact sound.lookups index probed

/-- A map with two entries of one key. The first is a sequence, whose item comes between them. -/
def repeated : Array Node :=
  #[{ valueType := 7, size := 2 },
    { valueType := 8, keyType := 1, key := "a", size := 1, siblingOffset := 1 }, { valueType := 1 },
    { valueType := 1, keyType := 1, key := "a" }]

theorem decode_errors_are_true_repeated :
    decode repeated = .error (.duplicateKey 3 "a") ∧
      (DecodeError.duplicateKey 3 "a").TrueOf repeated ∧
      (Probing.decodeWith true repeated).probes =
        [.node 0, .rest 0, .node 1, .node 1, .rest 1, .node 2, .node 2, .node 3, .node 3] ∧
      ∀ index ∈ [0, 1, 2, 3], index < repeated.size := by
  have failed : decode repeated = .error (.duplicateKey 3 "a") := rfl
  have probes : (Probing.decodeWith true repeated).probes =
      [.node 0, .rest 0, .node 1, .node 1, .rest 1, .node 2, .node 2, .node 3, .node 3] := rfl
  obtain ⟨truth, _, _, _, inside⟩ := decode_errors_are_true true repeated
  exact ⟨failed, truth _ failed, probes, by decide⟩

end Payload

end ConfigWatch

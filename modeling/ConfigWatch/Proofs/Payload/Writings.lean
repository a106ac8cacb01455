import ConfigWatch.Proofs.Payload.Flattening

/-!
# What writers may send

A writer lists the entries of a map in any order, and fills in what it likes where nothing is
read: the way from a last child onwards, the keys of nodes outside maps, contents of other types,
positions, and whatever follows the payload of the value. All such payloads of a value decode to
it, as far as the value does not reach below the limit.
-/

set_option autoImplicit false

namespace ConfigWatch.Payload

mutual

/-- The nodes of a value in pre-order, the entries of its maps in any order. -/
inductive Written : Value → List Node → Prop where
  | leaf {value : Value} {head : Node} :
      IsLeaf value → Carries head value → Written value [head]
  | sequence {items : List Value} {head : Node} {below : List Node} :
      Carries head (.sequence items) → ItemsWritten items below →
      Written (.sequence items) (head :: below)
  | map {entries listed : List (String × Value)} {head : Node} {below : List Node} :
      Carries head (.map entries) → listed.Perm entries → EntriesWritten listed below →
      Written (.map entries) (head :: below)

/-- The nodes of some items, each but the last linked to the next. -/
inductive ItemsWritten : List Value → List Node → Prop where
  | nil : ItemsWritten [] []
  | cons {item : Value} {rest : List Value} {head : Node} {below later : List Node} :
      Written item (head :: below) →
      (rest ≠ [] → head.siblingOffset.toNat = below.length) →
      ItemsWritten rest later → ItemsWritten (item :: rest) (head :: below ++ later)

/-- The nodes of some entries with their keys, each but the last linked to the next. -/
inductive EntriesWritten : List (String × Value) → List Node → Prop where
  | nil : EntriesWritten [] []
  | cons {key : String} {value : Value} {rest : List (String × Value)} {head : Node}
      {below later : List Node} :
      Written value (head :: below) →
      head.keyType = KeyType.text.code → head.key = key →
      (rest ≠ [] → head.siblingOffset.toNat = below.length) →
      EntriesWritten rest later → EntriesWritten ((key, value) :: rest) (head :: below ++ later)

end

/-- A value that lists the entries of the maps inside another in an order of its own. -/
structure Lists (listed value : Value) : Prop where
  differ : listed.KeysDiffer
  arranged : listed.arranged = value.arranged
  height : listed.height = value.height

structure ListsItems (listed items : List Value) : Prop where
  differ : Value.KeysOfItemsDiffer listed
  arranged : Value.arrangedItems listed = Value.arrangedItems items
  height : Value.heightItems listed = Value.heightItems items
  length : listed.length = items.length

structure ListsEntries (listed entries : List (String × Value)) : Prop where
  differ : Value.KeysOfEntriesDiffer listed
  arranged : Value.arrangedEntries listed = Value.arrangedEntries entries
  height : Value.heightEntries listed = Value.heightEntries entries
  keys : listed.map Prod.fst = entries.map Prod.fst

/-- Where the entries inside a map are listed in their own order, the entries of the map may be
listed in any order as well. -/
theorem ListsEntries.map {listed written entries : List (String × Value)}
    (lists : ListsEntries listed written) (same : written.Perm entries)
    (distinct : (entries.map Prod.fst).Nodup) : Lists (.map listed) (.map entries) := by
  have keysDistinct : (written.map Prod.fst).Nodup := (same.map Prod.fst).nodup_iff.mpr distinct
  refine ⟨⟨lists.keys ▸ keysDistinct, lists.differ⟩, ?_, ?_⟩
  · have arrangedKeys : ((Value.arrangedEntries written).map Prod.fst).Nodup := by
      simpa [Value.arrangedEntries_eq_map, Function.comp_def] using keysDistinct
    have moved : (Value.arrangedEntries written).Perm (Value.arrangedEntries entries) := by
      simpa only [Value.arrangedEntries_eq_map] using same.map (Prod.map id Value.arranged)
    rw [Value.arranged, lists.arranged, Value.entriesOfList_perm moved arrangedKeys, Value.arranged]
  · rw [Value.height, lists.height, Value.heightEntries_perm same, Value.height]

mutual

/-- What a writer sent is laid out in the order in which it listed the entries. -/
theorem Written.listed {value : Value} {nodes : List Node} :
    Written value nodes → value.KeysDiffer → ∃ listed, Layout listed nodes ∧ Lists listed value
  | .leaf childless carries, differ => ⟨value, .leaf childless carries, differ, rfl, rfl⟩
  | .sequence carries below, differ => by
    obtain ⟨listed, layout, lists⟩ := below.listed differ
    refine ⟨.sequence listed, .sequence ⟨carries.1, ?_⟩ layout, lists.differ, ?_, lists.height⟩
    · rw [carries.2, lists.length]
    · rw [Value.arranged, lists.arranged, Value.arranged]
  | .map carries same below, differ => by
    obtain ⟨distinct, inner⟩ := differ
    rw [Value.keysOfEntriesDiffer_iff] at inner
    have writtenInner : Value.KeysOfEntriesDiffer _ :=
      Value.keysOfEntriesDiffer_iff.mpr (fun entry member => inner entry (same.mem_iff.mp member))
    obtain ⟨listed, layout, lists⟩ := below.listed writtenInner
    refine ⟨.map listed, .map ⟨carries.1, ?_⟩ layout, lists.map same distinct⟩
    rw [carries.2, ← same.length_eq]
    simpa using (congrArg List.length lists.keys).symm

theorem ItemsWritten.listed {items : List Value} {nodes : List Node} :
    ItemsWritten items nodes → Value.KeysOfItemsDiffer items →
      ∃ listed, ItemsLayout listed nodes ∧ ListsItems listed items
  | .nil, _ => ⟨[], .nil, trivial, rfl, rfl, rfl⟩
  | .cons first linked later, differ => by
    obtain ⟨item, layout, lists⟩ := first.listed differ.1
    obtain ⟨rest, layouts, others⟩ := later.listed differ.2
    refine ⟨item :: rest, .cons layout (fun more => linked ?_) layouts,
      ⟨lists.differ, others.differ⟩, ?_, ?_, ?_⟩
    · rwa [← List.length_pos_iff, ← others.length, List.length_pos_iff]
    · rw [Value.arrangedItems, lists.arranged, others.arranged, Value.arrangedItems]
    · rw [Value.heightItems, lists.height, others.height, Value.heightItems]
    · rw [List.length_cons, others.length, List.length_cons]

theorem EntriesWritten.listed {entries : List (String × Value)} {nodes : List Node} :
    EntriesWritten entries nodes → Value.KeysOfEntriesDiffer entries →
      ∃ listed, EntriesLayout listed nodes ∧ ListsEntries listed entries
  | .nil, _ => ⟨[], .nil, trivial, rfl, rfl, rfl⟩
  | @EntriesWritten.cons key _ _ _ _ _ first texted keyed linked later, differ => by
    obtain ⟨value, layout, lists⟩ := first.listed differ.1
    obtain ⟨rest, layouts, others⟩ := later.listed differ.2
    have length := congrArg List.length others.keys
    simp only [List.length_map] at length
    refine ⟨(key, value) :: rest, .cons layout texted keyed (fun more => linked ?_) layouts,
      ⟨lists.differ, others.differ⟩, ?_, ?_, ?_⟩
    · rwa [← List.length_pos_iff, ← length, List.length_pos_iff]
    · rw [Value.arrangedEntries, lists.arranged, others.arranged, Value.arrangedEntries]
    · rw [Value.heightEntries, lists.height, others.height, Value.heightEntries]
    · rw [List.map_cons, others.keys, List.map_cons]

end

/-- Whatever a writer may send for a value, and whatever follows it, decodes to the value exactly
when nothing in it lies deeper than `maxDepth`. -/
theorem decode_written {value : Value} (ordered : value.Ordered) {nodes : List Node}
    (written : Written value nodes) (after : List Node) :
    decode (nodes ++ after).toArray = .ok value ↔ value.height ≤ maxDepth := by
  obtain ⟨listed, layout, lists⟩ := written.listed ordered.keysDiffer
  have stands : Stands (nodes ++ after).toArray 0 nodes := List.prefix_append nodes after
  have ends := layout.decode lists.differ stands
  rw [lists.arranged, ordered.arranged] at ends
  rw [← lists.height, ← Value.firstAt?_eq_none_iff]
  cases deep : listed.firstAt? (maxDepth + 1) with
  | none =>
    rw [deep] at ends
    obtain ⟨_, decoded, rfl⟩ := ends
    exact ⟨fun _ => rfl, fun _ => decoded⟩
  | some position =>
    rw [deep] at ends
    have failed : decode (nodes ++ after).toArray = .error _ := ends
    rw [failed]
    exact ⟨fun same => (nomatch same), fun none => (nomatch none)⟩

/-- Two hosts and a ratio. -/
private def hostsAndRatio : Value :=
  .map [("hosts", .sequence [.text "a", .map [("port", .int 80)]]), ("ratio", .null)]

/-- The host with a port, last of the hosts: its way leads nowhere. -/
private def secondHost : List Node :=
  [{ valueType := 7, size := 1, siblingOffset := 77, keyType := 5, key := "port" },
    { valueType := 4, int := 80, keyType := 1, key := "port", siblingOffset := 4294967295 }]

/-- The ratio comes before the hosts, and much is set that nobody reads. -/
private def untidy : List Node :=
  { valueType := 7, size := 2, siblingOffset := 3, keyType := -1, key := "root", bool := true } ::
    { valueType := 1, keyType := 1, key := "ratio", size := 9, text := "none" } ::
    { valueType := 8, size := 2, keyType := 1, key := "hosts", siblingOffset := 1 } ::
    { valueType := 2, text := "a", keyType := 1, key := "hosts", int := 7 } :: secondHost

private theorem untidy_written : Written hostsAndRatio untidy := by
  have port : EntriesWritten [("port", .int 80)] secondHost.tail :=
    @EntriesWritten.cons _ _ _ _ [] [] (.leaf trivial ⟨rfl, rfl⟩) rfl rfl
      (fun more => absurd rfl more) .nil
  have second : Written (.map [("port", .int 80)]) secondHost :=
    .map ⟨rfl, rfl⟩ (List.Perm.refl _) port
  have hosts : ItemsWritten [.text "a", .map [("port", .int 80)]] (untidy.drop 3) :=
    @ItemsWritten.cons _ _ _ [] secondHost (.leaf trivial ⟨rfl, rfl⟩) (fun _ => rfl)
      (@ItemsWritten.cons _ _ _ secondHost.tail [] second (fun more => absurd rfl more) .nil)
  have last : Written (.sequence [.text "a", .map [("port", .int 80)]]) (untidy.drop 2) :=
    .sequence ⟨rfl, rfl⟩ hosts
  have listed : EntriesWritten
      [("ratio", .null), ("hosts", .sequence [.text "a", .map [("port", .int 80)]])]
      (untidy.drop 1) :=
    @EntriesWritten.cons _ _ _ _ [] (untidy.drop 2) (.leaf trivial rfl) rfl rfl (fun _ => rfl)
      (@EntriesWritten.cons _ _ _ _ (untidy.drop 3) [] last rfl rfl
        (fun more => absurd rfl more) .nil)
  exact .map ⟨rfl, rfl⟩ (List.Perm.swap ..) listed

theorem decode_written_untidy :
    hostsAndRatio.Ordered ∧ Written hostsAndRatio untidy ∧
      decode (untidy ++ [({ valueType := 100 } : Node)]).toArray = .ok hostsAndRatio := by
  have ordered : hostsAndRatio.Ordered := by
    simp only [hostsAndRatio, Value.Ordered, Value.EntriesOrdered, Value.ItemsOrdered,
      Value.KeysAscend, List.map_cons, List.map_nil, and_true, true_and]
    decide
  exact ⟨ordered, untidy_written, (decode_written ordered untidy_written _).mpr (by decide)⟩

end ConfigWatch.Payload

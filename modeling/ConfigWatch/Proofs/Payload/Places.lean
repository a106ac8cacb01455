import ConfigWatch.Proofs.Payload.Positions

/-!
# The places of the parts of a value

The tree of places that comes with a decoded value has the shape of the value: a way into the
value is a way into the tree, and a way into the payload, to the node that was decoded there. What
the tree knows at the end of the way is the place that this node records.
-/

set_option autoImplicit false

namespace ConfigWatch

/-- One step into a value: to an item of a sequence, or to an entry of a map. -/
inductive Turn where
  | item (index : Nat)
  | entry (key : String)

namespace Value

def turn? (value : Value) : Turn → Option Value
  | .item index => value.sequence?.bind (fun items => items[index]?)
  | .entry key => value.get? key

/-- The value at the end of a way. -/
def along? (value : Value) (way : List Turn) : Option Value := way.foldlM turn? value

end Value

namespace PositionTree

def turn? (tree : PositionTree) : Turn → Option PositionTree
  | .item index => tree.item? index
  | .entry key => tree.entry? key

def along? (tree : PositionTree) (way : List Turn) : Option PositionTree := way.foldlM turn? tree

end PositionTree

namespace Payload

/-- The child of a node that an item or an entry is decoded from. -/
def turn? (payload : Array Node) (index : Nat) : Turn → Option Nat
  | .item place => (children payload index)[place]?
  | .entry key =>
    (children payload index).find? (fun child => payload[child]?.any (fun node => node.key == key))

/-- The index of the node at the end of a way that starts at another. -/
def along? (payload : Array Node) (index : Nat) (way : List Turn) : Option Nat :=
  way.foldlM (turn? payload) index

/-- A tree of places goes with the value at the end of a way: as many items, the same keys, and
the place of the node that was decoded there. -/
structure Places (payload : Array Node) (way : List Turn) (value : Value) (tree : PositionTree) :
    Prop where
  items : tree.items.length = (value.sequence?.getD []).length
  keys : tree.entries.map Prod.fst = (value.map?.getD []).map Prod.fst
  position : tree.position =
    ((along? payload 0 way).bind (fun index => payload[index]?)).bind Node.position

variable {payload : Array Node} {levels index : Nat}

/-! ## One turn -/

private theorem find?_viewed {α : Type} (view : Decoded → α) (entries : List (String × Decoded))
    (key : String) :
    ((entries.map (fun entry => (entry.1, view entry.2))).find?
        (fun entry => entry.1 == key)).map Prod.snd =
      (entries.find? (fun entry => entry.1 == key)).map (fun entry => view entry.2) := by
  rw [List.find?_map, Option.map_map]
  rfl

private theorem forall₂_at {α β : Type} {related : α → β → Prop} {lefts : List α} {rights : List β}
    (pairs : List.Forall₂ related lefts rights) {place : Nat} {right : β}
    (here : rights[place]? = some right) :
    ∃ left, lefts[place]? = some left ∧ related left right := by
  induction pairs generalizing place with
  | nil => cases here
  | @cons left _ _ _ pair _ ih =>
    cases place with
    | zero =>
      obtain rfl := Option.some.inj here
      exact ⟨left, rfl, pair⟩
    | succ place => exact ih here

/-- The child under a key is the one that the entry of the key was decoded from. -/
theorem child_of_entry {children : List Nat} {reading : Nat → Except DecodeError Decoded}
    {read : List (String × Decoded)} {entry : String × Decoded}
    (each : List.Forall₂ (fun child entry => reading child = .ok entry.2 ∧
      payload[child]?.map Node.key = some entry.1) children read)
    (distinct : (read.map Prod.fst).Nodup) (member : entry ∈ read) :
    ∃ child, children.find? (fun child => payload[child]?.any (fun node => node.key == entry.1)) =
        some child ∧ reading child = .ok entry.2 := by
  induction each with
  | nil => cases member
  | @cons child first children rest both _ ih =>
    obtain ⟨decoded, named⟩ := both
    obtain ⟨node, found, keyed⟩ := Option.map_eq_some_iff.mp named
    rw [List.map_cons, List.nodup_cons] at distinct
    rw [List.find?_cons, found]
    rcases List.mem_cons.mp member with rfl | later
    · refine ⟨child, ?_, decoded⟩
      simp [keyed]
    · have other : first.1 ≠ entry.1 := by
        intro same
        exact distinct.1 (same ▸ List.mem_map_of_mem later)
      simp only [Option.any_some, keyed, beq_eq_false_iff_ne.mpr other]
      exact ih distinct.2 later

/-- Whatever a turn leads to in a value, it leads to in the tree of places, and in the payload to
the child that both were decoded from. -/
theorem Builds.turn {value : Value} {tree : PositionTree}
    (builds : Builds payload true levels index ⟨value, tree⟩) (turn : Turn) :
    (value.turn? turn = none → tree.turn? turn = none) ∧
      ∀ inner, value.turn? turn = some inner → ∃ branch child, tree.turn? turn = some branch ∧
        turn? payload index turn = some child ∧
        decodeNode payload true levels child = .ok ⟨inner, branch⟩ := by
  generalize whole : (⟨value, tree⟩ : Decoded) = decoded at builds
  cases builds with
  | leaf _ childless =>
    cases whole
    cases value with
    | sequence | map => exact childless.elim
    | _ => cases turn <;> exact ⟨fun _ => rfl, fun _ found => nomatch found⟩
  | @sequence node items _ each =>
    cases whole
    cases turn with
    | entry key => exact ⟨fun _ => rfl, fun _ found => nomatch found⟩
    | item place =>
      simp only [Value.turn?, Value.sequence?, PositionTree.turn?, PositionTree.item?,
        PositionTree.items, Option.bind_some, List.getElem?_map, if_true, turn?]
      cases here : items[place]? with
      | none => exact ⟨fun _ => rfl, fun _ found => nomatch found⟩
      | some item =>
        refine ⟨fun none => (nomatch none), ?_⟩
        rintro inner found
        obtain rfl := Option.some.inj found
        obtain ⟨child, located, decoded⟩ := forall₂_at each here
        exact ⟨item.positions, child, rfl, located, decoded⟩
  | @map node read entries _ each shuffled distinct =>
    cases whole
    cases turn with
    | item place => exact ⟨fun _ => rfl, fun _ found => nomatch found⟩
    | entry key =>
      simp only [Value.turn?, Value.get?, PositionTree.turn?, PositionTree.entry?,
        PositionTree.entries, if_true, find?_viewed, turn?]
      cases here : entries.find? (fun entry => entry.1 == key) with
      | none => exact ⟨fun _ => rfl, fun _ found => nomatch found⟩
      | some entry =>
        refine ⟨fun none => (nomatch none), ?_⟩
        rintro inner found
        obtain rfl := Option.some.inj found
        have keyed : entry.1 = key := by simpa using List.find?_some here
        have member := shuffled.mem_iff.mp (List.mem_of_find?_eq_some here)
        have readDistinct := (shuffled.map Prod.fst).nodup_iff.mp distinct
        obtain ⟨child, located, decoded⟩ := child_of_entry each readDistinct member
        exact ⟨entry.2.positions, child, rfl, keyed ▸ located, decoded⟩

/-! ## All the way -/

theorem Builds.places {value : Value} {tree : PositionTree}
    (builds : Builds payload true levels index ⟨value, tree⟩) {way : List Turn}
    (ends : along? payload 0 way = some index) : Places payload way value tree := by
  generalize whole : (⟨value, tree⟩ : Decoded) = decoded at builds
  cases builds with
  | leaf found childless =>
    cases whole
    refine ⟨?_, ?_, by rw [ends, Option.bind_some, found]; rfl⟩
    all_goals
      cases value with
      | sequence | map => exact childless.elim
      | _ => rfl
  | sequence found =>
    cases whole
    refine ⟨?_, rfl, by rw [ends, Option.bind_some, found]; rfl⟩
    simp [PositionTree.items, Value.sequence?]
  | map found =>
    cases whole
    refine ⟨rfl, ?_, by rw [ends, Option.bind_some, found]; rfl⟩
    simp [PositionTree.entries, Value.map?]

/-- A way through a decoded value goes through its tree of places and through the payload alike,
and ends where a node was decoded to what the value and the tree hold there. -/
theorem along_decoded {way : List Turn} {value : Value} {tree : PositionTree}
    (accepted : decodeNode payload true levels index = .ok ⟨value, tree⟩) :
    (value.along? way = none → tree.along? way = none) ∧
      ∀ inner, value.along? way = some inner → ∃ branch last, tree.along? way = some branch ∧
        along? payload index way = some last ∧
        decodeNode payload true (levels - way.length) last = .ok ⟨inner, branch⟩ := by
  induction way generalizing levels index value tree with
  | nil =>
    refine ⟨fun none => (nomatch none), ?_⟩
    rintro inner found
    obtain rfl := Option.some.inj found
    exact ⟨tree, index, rfl, rfl, accepted⟩
  | cons turn way ih =>
    obtain ⟨levels, rfl⟩ := Accepts.level ⟨_, accepted⟩
    obtain ⟨leaves, enters⟩ := (decodeNode_builds accepted).turn turn
    simp only [Value.along?, PositionTree.along?, along?, List.foldlM_cons, List.length_cons,
      Nat.add_sub_add_right]
    cases entered : value.turn? turn with
    | none =>
      rw [leaves entered]
      exact ⟨fun _ => rfl, fun _ found => nomatch found⟩
    | some inner =>
      obtain ⟨branch, child, follows, located, decoded⟩ := enters inner entered
      rw [follows, located]
      exact ih decoded

/-- The value and the tree of an empty payload have nothing inside, and no node stands for them. -/
theorem along_empty {way : List Turn} {value : Value} {tree : PositionTree}
    (empty : payload.isEmpty = true) (decoded : decodeWith true payload = .ok ⟨value, tree⟩) :
    (value.along? way = none → tree.along? way = none) ∧
      ∀ inner, value.along? way = some inner → ∃ branch, tree.along? way = some branch ∧
        Places payload way inner branch ∧
        (true = false → ∃ index, along? payload 0 way = some index ∧
          decodeNode payload true (maxDepth + 1 - way.length) index = .ok ⟨inner, branch⟩) := by
  obtain rfl : payload = #[] := Array.isEmpty_iff.mp empty
  cases decoded
  cases way with
  | nil =>
    refine ⟨fun none => (nomatch none), ?_⟩
    rintro inner found
    obtain rfl := Option.some.inj found
    exact ⟨.empty, rfl, ⟨rfl, rfl, rfl⟩, fun impossible => nomatch impossible⟩
  | cons turn way => cases turn <;> exact ⟨fun _ => rfl, fun _ found => nomatch found⟩

/-- Asking for places changes neither the value nor the error that a payload decodes to. The tree
of places has the shape of the value, and knows for each of its parts the place of the node that
the part was decoded from. -/
theorem places_follow_value (payload : Array Node) :
    (∀ cause, decodeWith true payload = .error cause ↔ decode payload = .error cause) ∧
      ∀ value, decode payload = .ok value → ∃ tree, decodeWith true payload = .ok ⟨value, tree⟩ ∧
        ∀ way, (value.along? way = none → tree.along? way = none) ∧
          ∀ inner, value.along? way = some inner → ∃ branch, tree.along? way = some branch ∧
            Places payload way inner branch ∧
            (payload.isEmpty = false → ∃ index, along? payload 0 way = some index ∧
              decodeNode payload true (maxDepth + 1 - way.length) index = .ok ⟨inner, branch⟩) := by
  have same := decodeWith_seen true payload
  cases decoded : decodeWith true payload with
  | error cause =>
    rw [decoded] at same
    rw [← same]
    refine ⟨fun other => ?_, fun value accepted => nomatch accepted⟩
    constructor
    · intro equal
      exact congrArg (Except.map Decoded.value) equal
    · intro equal
      exact congrArg Except.error (Except.error.inj equal)
  | ok found =>
    obtain ⟨held, tree⟩ := found
    rw [decoded] at same
    rw [← same]
    refine ⟨fun other => ⟨fun wrong => (nomatch wrong), fun wrong => (nomatch wrong)⟩, ?_⟩
    intro value accepted
    obtain rfl := Except.ok.inj accepted
    refine ⟨tree, rfl, fun way => ?_⟩
    cases empty : payload.isEmpty with
    | true => exact along_empty empty decoded
    | false =>
      have root : decodeNode payload true (maxDepth + 1) 0 = .ok ⟨held, tree⟩ := by
        simpa [decodeWith, empty] using decoded
      obtain ⟨leaves, enters⟩ := along_decoded root
      refine ⟨leaves, fun inner found => ?_⟩
      obtain ⟨branch, last, follows, ends, reached⟩ := enters inner found
      refine ⟨branch, follows, ?_, fun _ => ⟨last, ends, reached⟩⟩
      obtain ⟨below, level⟩ := Accepts.level ⟨_, reached⟩
      rw [level] at reached
      exact (decodeNode_builds reached).places ends

end Payload

end ConfigWatch

import ConfigWatch.Payload.Decode
import Mathlib.Algebra.GroupWithZero.Nat
import Mathlib.Data.List.Dedup
import Mathlib.Data.List.Forall2
import Mathlib.Data.List.Nodup
import Mathlib.Data.List.Pairwise
import Mathlib.Data.List.Perm.Basic
import Mathlib.Logic.Relation

/-!
# Readings

Which nodes of a payload a decoding reads, in the order in which it reads them. A node that two
containers claim as a child is read once for each of them, so that a value may hold more nodes
than its payload.
-/

set_option autoImplicit false

namespace ConfigWatch

namespace Payload

/-! ## Children -/

/-- The indices of `remaining` siblings, the first at `index`, each linked to the next by its
offset. -/
def siblings (payload : Array Node) : (remaining index : Nat) → List Nat
  | 0, _ => []
  | remaining + 1, index =>
    index :: match payload[index]? with
      | none => []
      | some node => siblings payload remaining (nextSibling node index)

/-- The indices of the children that the node at an index declares. -/
def children (payload : Array Node) (index : Nat) : List Nat :=
  match payload[index]? with
  | none => []
  | some node =>
    match ValueType.ofCode? node.valueType with
    | some .map | some .sequence => siblings payload node.size.toNat (index + 1)
    | _ => []

/-- The indices read for the node at an index and its subtree, an index once for each time that
its node is decoded. -/
def readingsFrom (payload : Array Node) : (levels index : Nat) → List Nat
  | 0, _ => []
  | levels + 1, index => index :: (children payload index).flatMap (readingsFrom payload levels)

/-- The indices read when a payload is decoded. -/
def readings (payload : Array Node) : List Nat := readingsFrom payload (maxDepth + 1) 0

/-- A node leads to its children and on to theirs. -/
def Reaches (payload : Array Node) : Nat → Nat → Prop :=
  Relation.ReflTransGen (fun parent child => child ∈ children payload parent)

/-- No node is a child of two nodes that an index leads to. -/
def SoleParents (payload : Array Node) (start : Nat) : Prop :=
  ∀ parent other child, Reaches payload start parent → Reaches payload start other →
    child ∈ children payload parent → child ∈ children payload other → parent = other

theorem siblings_ge {payload : Array Node} {remaining index sibling : Nat}
    (member : sibling ∈ siblings payload remaining index) : index ≤ sibling := by
  induction remaining generalizing index with
  | zero => simp [siblings] at member
  | succ remaining ih =>
    rcases List.mem_cons.mp member with same | later
    · exact Nat.le_of_eq same.symm
    · cases found : payload[index]? with
      | none => simp [found] at later
      | some node =>
        simp only [found] at later
        have step : nextSibling node index ≤ sibling := ih later
        unfold nextSibling at step
        omega

theorem siblings_nodup (payload : Array Node) (remaining index : Nat) :
    (siblings payload remaining index).Nodup := by
  induction remaining generalizing index with
  | zero => exact List.nodup_nil
  | succ remaining ih =>
    rw [siblings, List.nodup_cons]
    cases found : payload[index]? with
    | none => simp
    | some node =>
      refine ⟨fun member => ?_, ih _⟩
      have later : nextSibling node index ≤ index := siblings_ge member
      exact absurd later (by unfold nextSibling; omega)

theorem lt_of_mem_children {payload : Array Node} {parent child : Nat}
    (member : child ∈ children payload parent) : parent < child := by
  unfold children at member
  split at member
  · simp at member
  · split at member
    · exact siblings_ge member
    · exact siblings_ge member
    · simp at member

theorem children_nodup (payload : Array Node) (index : Nat) :
    (children payload index).Nodup := by
  unfold children
  split
  · exact List.nodup_nil
  · split
    · exact siblings_nodup ..
    · exact siblings_nodup ..
    · exact List.nodup_nil

theorem Reaches.le {payload : Array Node} {start index : Nat}
    (reaches : Reaches payload start index) : start ≤ index := by
  induction reaches with
  | refl => exact Nat.le_refl _
  | tail _ child ih =>
    have below := lt_of_mem_children child
    omega

/-! ## What an accepted node holds -/

private theorem except_bind_ok {ε α β : Type} {computation : Except ε α} {next : α → Except ε β}
    {result : β} (accepted : computation >>= next = .ok result) :
    ∃ value, computation = .ok value ∧ next value = .ok result := by
  cases computation with
  | error cause => cases accepted
  | ok value => exact ⟨value, rfl, accepted⟩

theorem nodeAt_eq_ok_iff {payload : Array Node} {index : Nat} {node : Node} :
    nodeAt payload index = .ok node ↔ payload[index]? = some node := by
  unfold nodeAt
  cases payload[index]? <;> simp

theorem declaredSize_eq_ok {payload : Array Node} {node : Node} {index size : Nat}
    (accepted : declaredSize payload node index = .ok size) : size = node.size.toNat := by
  unfold declaredSize at accepted
  split at accepted
  · cases accepted
  · exact (Except.ok.inj accepted).symm

theorem insertEntry_perm {α : Type} {key : String} {value : α} {entries : List (String × α)}
    (absent : Value.hasKey key entries = false) :
    (Value.insertEntry key value entries).Perm ((key, value) :: entries) := by
  induction entries with
  | nil => exact List.Perm.refl _
  | cons entry rest ih =>
    obtain ⟨other, held⟩ := entry
    simp only [Value.hasKey, List.any_cons, Bool.or_eq_false_iff, beq_eq_false_iff_ne] at absent
    obtain ⟨different, absent⟩ := absent
    rw [Value.insertEntry, if_neg (Ne.symm different)]
    split
    · exact List.Perm.refl _
    · exact ((ih absent).cons (other, held)).trans (List.Perm.swap ..)

theorem decodeItems_ok {payload : Array Node} {child : Nat → Except DecodeError Decoded}
    {remaining index : Nat} {items : List Decoded}
    (accepted : decodeItems payload child remaining index = .ok items) :
    List.Forall₂ (fun index item => child index = .ok item)
      (siblings payload remaining index) items := by
  induction remaining generalizing index items with
  | zero =>
    cases accepted
    exact .nil
  | succ remaining ih =>
    obtain ⟨node, found, accepted⟩ := except_bind_ok accepted
    obtain ⟨item, read, accepted⟩ := except_bind_ok accepted
    obtain ⟨rest, others, accepted⟩ := except_bind_ok accepted
    cases accepted
    rw [siblings, nodeAt_eq_ok_iff.mp found]
    exact .cons read (ih others)

theorem entryKey_eq_ok {node : Node} {index : Nat} {key : String}
    (accepted : entryKey node index = .ok key) : node.key = key := by
  unfold entryKey at accepted
  split at accepted
  · exact Except.ok.inj accepted
  · cases accepted
  · cases accepted

/-- The entries of a map are those found before and one for each child, in some order. No key
comes twice. -/
theorem decodeEntries_ok {payload : Array Node} {child : Nat → Except DecodeError Decoded}
    {remaining index : Nat} {found entries : List (String × Decoded)}
    (distinct : (found.map Prod.fst).Nodup)
    (accepted : decodeEntries payload child remaining index found = .ok entries) :
    ∃ read : List (String × Decoded),
      List.Forall₂ (fun index entry =>
          child index = .ok entry.2 ∧ payload[index]?.map Node.key = some entry.1)
        (siblings payload remaining index) read ∧
      entries.Perm (read ++ found) ∧ (entries.map Prod.fst).Nodup := by
  induction remaining generalizing index found with
  | zero =>
    cases accepted
    exact ⟨[], .nil, List.Perm.refl _, distinct⟩
  | succ remaining ih =>
    obtain ⟨node, here, accepted⟩ := except_bind_ok accepted
    obtain ⟨key, keyed, accepted⟩ := except_bind_ok accepted
    obtain ⟨value, decoded, accepted⟩ := except_bind_ok accepted
    cases present : Value.hasKey key found with
    | true => simp [present, throw, throwThe, MonadExceptOf.throw, bind, Except.bind] at accepted
    | false =>
      simp only [present, Bool.false_eq_true, ↓reduceIte] at accepted
      have moved : (Value.insertEntry key value found).Perm ((key, value) :: found) :=
        insertEntry_perm present
      have fresh : key ∉ found.map Prod.fst := by
        intro member
        obtain ⟨entry, held, same⟩ := List.mem_map.mp member
        exact List.any_eq_false.mp present entry held (beq_iff_eq.mpr same)
      have stillDistinct : ((Value.insertEntry key value found).map Prod.fst).Nodup := by
        rw [(moved.map Prod.fst).nodup_iff, List.map_cons, List.nodup_cons]
        exact ⟨fresh, distinct⟩
      obtain ⟨read, each, shuffled, distinct⟩ := ih stillDistinct accepted
      have found := nodeAt_eq_ok_iff.mp here
      have named : payload[index]?.map Node.key = some key := by
        rw [found, Option.map_some, entryKey_eq_ok keyed]
      rw [siblings, found]
      refine ⟨(key, value) :: read, .cons ⟨decoded, named⟩ each, shuffled.trans ?_, distinct⟩
      exact (moved.append_left read).trans List.perm_middle

theorem countItems_eq_sum (items : List Value) :
    Value.countItems items = (items.map Value.count).sum := by
  induction items with
  | nil => rfl
  | cons item rest ih => simp [Value.countItems, ih]

theorem countEntries_eq_sum (entries : List (String × Value)) :
    Value.countEntries entries = (entries.map (fun entry => entry.2.count)).sum := by
  induction entries with
  | nil => rfl
  | cons entry rest ih => simp [Value.countEntries, ih]

theorem children_eq_nil {payload : Array Node} {index : Nat} {node : Node} {kind : ValueType}
    (found : payload[index]? = some node) (typed : ValueType.ofCode? node.valueType = some kind)
    (notMap : kind ≠ .map) (notSequence : kind ≠ .sequence) : children payload index = [] := by
  simp only [children, found, typed]
  cases kind <;> first | rfl | contradiction

theorem children_eq_siblings {payload : Array Node} {index : Nat} {node : Node} {kind : ValueType}
    (found : payload[index]? = some node) (typed : ValueType.ofCode? node.valueType = some kind)
    (container : kind = .map ∨ kind = .sequence) :
    children payload index = siblings payload node.size.toNat (index + 1) := by
  simp only [children, found, typed]
  rcases container with rfl | rfl <;> rfl

/-- A value without children of its own. -/
def IsLeaf : Value → Prop
  | .sequence _ | .map _ => False
  | _ => True

/-- What an accepted node decodes to, from what its children decode to. -/
inductive Builds (payload : Array Node) (positions : Bool) (levels index : Nat) :
    Decoded → Prop where
  | leaf {node : Node} {value : Value} :
      payload[index]? = some node → IsLeaf value → children payload index = [] →
      Builds payload positions levels index (leaf positions node value)
  | sequence {node : Node} {items : List Decoded} :
      payload[index]? = some node →
      List.Forall₂ (fun child item => decodeNode payload positions levels child = .ok item)
        (children payload index) items →
      Builds payload positions levels index (sequenceOf positions node items)
  | map {node : Node} {read entries : List (String × Decoded)} :
      payload[index]? = some node →
      List.Forall₂ (fun child entry => decodeNode payload positions levels child = .ok entry.2 ∧
          payload[child]?.map Node.key = some entry.1)
        (children payload index) read →
      entries.Perm read → (entries.map Prod.fst).Nodup →
      Builds payload positions levels index (mapOf positions node entries)

theorem decodeNode_builds {payload : Array Node} {positions : Bool} {levels index : Nat}
    {decoded : Decoded} (accepted : decodeNode payload positions (levels + 1) index = .ok decoded) :
    Builds payload positions levels index decoded := by
  obtain ⟨node, here, accepted⟩ := except_bind_ok accepted
  have found := nodeAt_eq_ok_iff.mp here
  cases typed : ValueType.ofCode? node.valueType with
  | none => simp [typed] at accepted
  | some kind =>
    simp only [typed] at accepted
    cases kind with
    | map =>
      obtain ⟨size, sized, accepted⟩ := except_bind_ok accepted
      obtain ⟨entries, decoded, accepted⟩ := except_bind_ok accepted
      cases accepted
      have none : (([] : List (String × Decoded)).map Prod.fst).Nodup := List.nodup_nil
      obtain ⟨read, each, shuffled, distinct⟩ := decodeEntries_ok none decoded
      rw [List.append_nil] at shuffled
      rw [declaredSize_eq_ok sized, ← children_eq_siblings found typed (.inl rfl)] at each
      exact .map found each shuffled distinct
    | sequence =>
      obtain ⟨size, sized, accepted⟩ := except_bind_ok accepted
      obtain ⟨items, decoded, accepted⟩ := except_bind_ok accepted
      cases accepted
      have each := decodeItems_ok decoded
      rw [declaredSize_eq_ok sized, ← children_eq_siblings found typed (.inr rfl)] at each
      exact .sequence found each
    | undefined | null | text | bytes | int | double | bool =>
      cases accepted
      exact .leaf found trivial (children_eq_nil found typed (by simp) (by simp))

/-- What an accepted node with its children decodes to: a part for each child, and a value that
holds itself and what the parts hold. -/
def Assembles (payload : Array Node) (positions : Bool) (levels index : Nat)
    (decoded : Decoded) : Prop :=
  ∃ parts : List Decoded,
    List.Forall₂ (fun child part => decodeNode payload positions levels child = .ok part)
      (children payload index) parts ∧
    decoded.value.count = 1 + (parts.map (fun part => part.value.count)).sum

theorem Builds.found {payload : Array Node} {positions : Bool} {levels index : Nat}
    {decoded : Decoded} (builds : Builds payload positions levels index decoded) :
    index < payload.size := by
  cases builds with
  | leaf found | sequence found | map found => exact (Array.getElem?_eq_some_iff.mp found).1

theorem Builds.assembles {payload : Array Node} {positions : Bool} {levels index : Nat}
    {decoded : Decoded} (builds : Builds payload positions levels index decoded) :
    Assembles payload positions levels index decoded := by
  cases builds with
  | @leaf node value _ childless none =>
    refine ⟨[], none ▸ .nil, ?_⟩
    cases value with
    | sequence | map => exact childless.elim
    | _ => rfl
  | @sequence node items _ each =>
    refine ⟨items, each, ?_⟩
    simp [sequenceOf, Value.count, countItems_eq_sum, Function.comp_def]
  | @map node read entries _ each shuffled =>
    refine ⟨read.map Prod.snd, ?_, ?_⟩
    · rw [List.forall₂_map_right_iff]
      exact each.imp (fun _ _ both => both.1)
    · have total := (shuffled.map (fun entry => entry.2.value.count)).sum_nat
      simpa [mapOf, Value.count, countEntries_eq_sum, Function.comp_def] using total

theorem decodeNode_assembles {payload : Array Node} {positions : Bool} {levels index : Nat}
    {decoded : Decoded} (accepted : decodeNode payload positions (levels + 1) index = .ok decoded) :
    index < payload.size ∧ Assembles payload positions levels index decoded :=
  ⟨(decodeNode_builds accepted).found, (decodeNode_builds accepted).assembles⟩

/-! ## Counting readings -/

/-- A node that decodes when some levels are allowed. -/
def Accepts (payload : Array Node) (positions : Bool) (levels index : Nat) : Prop :=
  ∃ decoded, decodeNode payload positions levels index = .ok decoded

theorem Accepts.level {payload : Array Node} {positions : Bool} {levels index : Nat}
    (accepts : Accepts payload positions levels index) : ∃ below, levels = below + 1 := by
  obtain ⟨decoded, accepted⟩ := accepts
  cases levels with
  | zero => cases accepted
  | succ below => exact ⟨below, rfl⟩

private theorem forall₂_exists {α β : Type} {related : α → β → Prop} {lefts : List α}
    {rights : List β} (pairs : List.Forall₂ related lefts rights) :
    ∀ left ∈ lefts, ∃ right, related left right := by
  induction pairs with
  | nil => simp
  | cons pair _ ih =>
    intro left member
    rcases List.mem_cons.mp member with rfl | later
    · exact ⟨_, pair⟩
    · exact ih left later

theorem Accepts.child {payload : Array Node} {positions : Bool} {levels index child : Nat}
    (accepts : Accepts payload positions (levels + 1) index)
    (member : child ∈ children payload index) : Accepts payload positions levels child := by
  obtain ⟨decoded, accepted⟩ := accepts
  obtain ⟨_, parts, each, _⟩ := decodeNode_assembles accepted
  exact forall₂_exists each child member

/-- A value holds one node for each reading. -/
theorem length_readingsFrom {payload : Array Node} {positions : Bool} {levels index : Nat}
    {decoded : Decoded} (accepted : decodeNode payload positions levels index = .ok decoded) :
    (readingsFrom payload levels index).length = decoded.value.count := by
  induction levels generalizing index decoded with
  | zero => cases accepted
  | succ levels ih =>
    obtain ⟨_, parts, each, total⟩ := decodeNode_assembles accepted
    have pairs : List.Forall₂ (· = ·)
        ((children payload index).map (fun child => (readingsFrom payload levels child).length))
        (parts.map (fun part => part.value.count)) := by
      rw [List.forall₂_map_left_iff, List.forall₂_map_right_iff]
      exact each.imp (fun _ _ part => ih part)
    have lengths := List.forall₂_eq_eq_eq ▸ pairs
    rw [readingsFrom, List.length_cons, List.length_flatMap, lengths, total, Nat.add_comm]

theorem mem_readingsFrom_lt {payload : Array Node} {positions : Bool} {levels index read : Nat}
    (accepts : Accepts payload positions levels index)
    (member : read ∈ readingsFrom payload levels index) : read < payload.size := by
  induction levels generalizing index with
  | zero => simp [readingsFrom] at member
  | succ levels ih =>
    rcases List.mem_cons.mp member with rfl | below
    · obtain ⟨decoded, accepted⟩ := accepts
      exact (decodeNode_assembles accepted).1
    · obtain ⟨child, declared, inside⟩ := List.mem_flatMap.mp below
      exact ih (accepts.child declared) inside

theorem mem_readingsFrom_iff {payload : Array Node} {positions : Bool} {levels index read : Nat}
    (accepts : Accepts payload positions levels index) :
    read ∈ readingsFrom payload levels index ↔ Reaches payload index read := by
  induction levels generalizing index with
  | zero =>
    obtain ⟨below, impossible⟩ := accepts.level
    cases impossible
  | succ levels ih =>
    rw [readingsFrom, List.mem_cons, List.mem_flatMap]
    constructor
    · rintro (rfl | ⟨child, declared, inside⟩)
      · exact .refl
      · exact .head declared ((ih (accepts.child declared)).mp inside)
    · intro reaches
      rcases reaches.cases_head with same | ⟨child, declared, below⟩
      · exact .inl same.symm
      · exact .inr ⟨child, declared, (ih (accepts.child declared)).mpr below⟩

/-! ## When a node is read twice -/

/-- With sole parents, two nodes with a common descendant stand on one path. -/
theorem SoleParents.comparable {payload : Array Node} {start left right below : Nat}
    (sole : SoleParents payload start) (toLeft : Reaches payload start left)
    (toRight : Reaches payload start right) (leftReaches : Reaches payload left below)
    (rightReaches : Reaches payload right below) :
    Reaches payload left right ∨ Reaches payload right left := by
  induction leftReaches with
  | refl => exact .inr rightReaches
  | @tail parent child leftPath declared ih =>
    rcases rightReaches.cases_tail with same | ⟨other, rightPath, claimed⟩
    · exact .inl (same ▸ leftPath.tail declared)
    · have same := sole parent other child (toLeft.trans leftPath) (toRight.trans rightPath)
        declared claimed
      exact ih (same ▸ rightPath)

theorem SoleParents.child {payload : Array Node} {start child : Nat}
    (sole : SoleParents payload start) (declared : child ∈ children payload start) :
    SoleParents payload child := fun parent other below toParent toOther =>
  sole parent other below (.head declared toParent) (.head declared toOther)

/-- With sole parents, the subtrees of two children share no node. -/
theorem SoleParents.disjoint {payload : Array Node} {start left right below : Nat}
    (sole : SoleParents payload start) (leftDeclared : left ∈ children payload start)
    (rightDeclared : right ∈ children payload start) (different : left ≠ right)
    (leftReaches : Reaches payload left below) : ¬ Reaches payload right below := by
  intro rightReaches
  -- The lower of two siblings on one path would have its elder sibling's subtree as parent.
  have noPath : ∀ {upper lower : Nat}, upper ∈ children payload start →
      lower ∈ children payload start → upper ≠ lower → ¬ Reaches payload upper lower := by
    intro upper lower upperDeclared lowerDeclared apart path
    rcases path.cases_tail with same | ⟨parent, toParent, declared⟩
    · exact apart same.symm
    · have same := sole start parent lower .refl (.head upperDeclared toParent) lowerDeclared
        declared
      have above := lt_of_mem_children upperDeclared
      have below := Reaches.le toParent
      omega
  rcases sole.comparable (.single leftDeclared) (.single rightDeclared) leftReaches rightReaches
    with path | path
  · exact noPath leftDeclared rightDeclared different path
  · exact noPath rightDeclared leftDeclared (Ne.symm different) path

theorem SoleParents.nodup {payload : Array Node} {positions : Bool} {levels start : Nat}
    (sole : SoleParents payload start) (accepts : Accepts payload positions levels start) :
    (readingsFrom payload levels start).Nodup := by
  induction levels generalizing start with
  | zero => exact List.nodup_nil
  | succ levels ih =>
    rw [readingsFrom, List.nodup_cons, List.nodup_flatMap]
    refine ⟨?_, fun child declared => ih (sole.child declared) (accepts.child declared), ?_⟩
    · intro member
      obtain ⟨child, declared, inside⟩ := List.mem_flatMap.mp member
      have path := (mem_readingsFrom_iff (accepts.child declared)).mp inside
      have above := lt_of_mem_children declared
      have below := path.le
      omega
    · refine (children_nodup payload start).pairwise_of_forall_ne ?_
      intro left leftDeclared right rightDeclared different read inLeft inRight
      exact sole.disjoint leftDeclared rightDeclared different
        ((mem_readingsFrom_iff (accepts.child leftDeclared)).mp inLeft)
        ((mem_readingsFrom_iff (accepts.child rightDeclared)).mp inRight)

theorem soleParents_of_nodup {payload : Array Node} {positions : Bool} {levels start : Nat}
    (accepts : Accepts payload positions levels start)
    (once : (readingsFrom payload levels start).Nodup) : SoleParents payload start := by
  induction levels generalizing start with
  | zero =>
    obtain ⟨below, impossible⟩ := accepts.level
    cases impossible
  | succ levels ih =>
    rw [readingsFrom, List.nodup_cons, List.nodup_flatMap] at once
    obtain ⟨_, each, apart⟩ := once
    -- A node below two children would be read for both of them.
    have sameChild : ∀ {left right below : Nat}, left ∈ children payload start →
        right ∈ children payload start → Reaches payload left below →
        Reaches payload right below → left = right := by
      intro left right below leftDeclared rightDeclared leftPath rightPath
      by_contra different
      have symmetric : Std.Symm (Function.onFun List.Disjoint (readingsFrom payload levels)) :=
        ⟨fun _ _ disjoint => disjoint.symm⟩
      exact apart.forall leftDeclared rightDeclared different
        ((mem_readingsFrom_iff (accepts.child leftDeclared)).mpr leftPath)
        ((mem_readingsFrom_iff (accepts.child rightDeclared)).mpr rightPath)
    -- A child of the start is read there, so nothing below another child claims it.
    have notClaimed : ∀ {child other below : Nat}, child ∈ children payload start →
        below ∈ children payload start → Reaches payload child other →
        below ∈ children payload other → False := by
      intro child other below declared belowDeclared path claimed
      have same := sameChild declared belowDeclared (path.tail claimed) .refl
      have deeper := lt_of_mem_children claimed
      have above := path.le
      omega
    intro parent other below toParent toOther declared claimed
    rcases toParent.cases_head with rfl | ⟨left, leftDeclared, leftPath⟩ <;>
      rcases toOther.cases_head with rfl | ⟨right, rightDeclared, rightPath⟩
    · rfl
    · exact (notClaimed rightDeclared declared rightPath claimed).elim
    · exact (notClaimed leftDeclared claimed leftPath declared).elim
    · have same := sameChild leftDeclared rightDeclared (leftPath.tail declared)
        (rightPath.tail claimed)
      subst same
      exact ih (accepts.child leftDeclared) (each left leftDeclared) parent other below leftPath
        rightPath declared claimed

/-! ## Nodes and elements -/

/-- How often a node is read that was read before. -/
def rereads (payload : Array Node) : Nat :=
  (readings payload).length - (readings payload).dedup.length

/-- The nodes that are never read. -/
def unread (payload : Array Node) : List Nat :=
  (List.range payload.size).filter (fun index => index ∉ readings payload)

theorem dedup_readings_add_unread {payload : Array Node} {positions : Bool}
    (accepts : Accepts payload positions (maxDepth + 1) 0) :
    (readings payload).dedup.length + (unread payload).length = payload.size := by
  have read : (readings payload).dedup.Perm
      ((List.range payload.size).filter (fun index => index ∈ readings payload)) := by
    rw [List.perm_ext_iff_of_nodup (List.nodup_dedup _) (List.nodup_range.filter _)]
    intro index
    simp only [List.mem_dedup, List.mem_filter, List.mem_range, decide_eq_true_eq]
    exact ⟨fun member => ⟨mem_readingsFrom_lt accepts member, member⟩, And.right⟩
  have split := List.length_eq_length_filter_add (l := List.range payload.size)
    (fun index => decide (index ∈ readings payload))
  rw [List.length_range] at split
  simpa only [read.length_eq, unread, decide_not] using split.symm

theorem count_le_size_iff {payload : Array Node} {positions : Bool} {decoded : Decoded}
    (accepted : decodeNode payload positions (maxDepth + 1) 0 = .ok decoded) :
    decoded.value.count ≤ payload.size ↔ rereads payload ≤ (unread payload).length := by
  have total : (readings payload).length = decoded.value.count := length_readingsFrom accepted
  have parted := dedup_readings_add_unread ⟨decoded, accepted⟩
  have fewer := (List.dedup_sublist (readings payload)).length_le
  unfold rereads
  omega

/-- A value holds one node for each reading. Every node of the payload is read at most once, and
the value then holds no more nodes than the payload, exactly when no node is a child of two nodes
that decoding comes to. The bound alone holds exactly when no fewer nodes go unread than are read
again. -/
theorem reads_once_iff_sole_parents {payload : Array Node} {positions : Bool} {decoded : Decoded}
    (nonempty : payload.isEmpty = false) (accepted : decodeWith positions payload = .ok decoded) :
    decoded.value.count = (readings payload).length ∧
      (∀ index ∈ readings payload, index < payload.size) ∧
      ((decoded.value.count ≤ payload.size ∧ (readings payload).Nodup) ↔ SoleParents payload 0) ∧
      (decoded.value.count ≤ payload.size ↔ rereads payload ≤ (unread payload).length) := by
  have root : decodeNode payload positions (maxDepth + 1) 0 = .ok decoded := by
    simpa [decodeWith, nonempty] using accepted
  have accepts : Accepts payload positions (maxDepth + 1) 0 := ⟨decoded, root⟩
  refine ⟨(length_readingsFrom root).symm, fun index => mem_readingsFrom_lt accepts, ?_,
    count_le_size_iff root⟩
  constructor
  · rintro ⟨_, once⟩
    exact soleParents_of_nodup accepts once
  · intro sole
    have once : (readings payload).Nodup := sole.nodup accepts
    refine ⟨(count_le_size_iff root).mpr ?_, once⟩
    simp [rereads, once.dedup]

/-- A root with two items. The first is a sequence of one item, but its offset leads to that very
item, which is the root's second item as well. -/
def overlapping : Array Node :=
  #[{ valueType := 8, size := 2 }, { valueType := 8, size := 1 }, {}]

theorem reads_once_iff_sole_parents_overlapping :
    overlapping.isEmpty = false ∧ ∃ decoded, decodeWith true overlapping = .ok decoded ∧
      ((decoded.value.count ≤ overlapping.size ∧ (readings overlapping).Nodup) ↔
        SoleParents overlapping 0) :=
  ⟨rfl, _, rfl, (reads_once_iff_sole_parents rfl rfl).2.2.1⟩

theorem decode_overlapping_rereads :
    ∃ value, decode overlapping = .ok value ∧ overlapping.size < value.count ∧
      readings overlapping = [0, 1, 2, 2] :=
  ⟨.sequence [.sequence [.undefined], .undefined], rfl, by decide, rfl⟩

end Payload

end ConfigWatch

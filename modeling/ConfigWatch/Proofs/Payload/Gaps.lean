import ConfigWatch.Proofs.Payload.Readings
import Mathlib.Data.List.Infix

/-!
# Gaps

The offset of a child leads to its next sibling, and nothing holds it against the extent of the
child's own subtree. What it leaps over is decoded only if some other container claims it; a node
that nobody claims is never looked at, so it goes missing without an error. No such gap can arise
where every offset is the number of nodes below its child, as writers are told.
-/

set_option autoImplicit false

namespace ConfigWatch.Payload

/-- Two children in a row: the offset of the first leads to the second. -/
def Links (payload : Array Node) (parent child next : Nat) : Prop :=
  [child, next] <:+: children payload parent

/-- An index between two children in a row, of a container that decoding comes to. -/
def LeaptOver (payload : Array Node) (index : Nat) : Prop :=
  ∃ parent child next, Reaches payload 0 parent ∧ Links payload parent child next ∧
    child < index ∧ index < next

/-- All nodes up to the last one that is read are read. -/
def SkipsNothing (payload : Array Node) : Prop :=
  ∀ read ∈ readings payload, ∀ index < read, index ∈ readings payload

/-- The nodes of a subtree, a node once for each time that it is decoded. -/
def subtree (payload : Array Node) (index : Nat) : List Nat :=
  readingsFrom payload (maxDepth + 1) index

/-- The offset of every child that has a next sibling is the number of nodes below the child. -/
def Measured (payload : Array Node) (start : Nat) : Prop :=
  ∀ parent child next node, Reaches payload start parent → Links payload parent child next →
    payload[child]? = some node → node.siblingOffset.toNat + 1 = (subtree payload child).length

variable {payload : Array Node}

/-! ## Siblings in a row -/

theorem siblings_step {remaining index : Nat} {node : Node} (found : payload[index]? = some node) :
    siblings payload (remaining + 1) index =
      index :: siblings payload remaining (nextSibling node index) := by
  rw [siblings, found]

theorem siblings_first {remaining start first : Nat} {rest : List Nat}
    (listed : siblings payload remaining start = first :: rest) : first = start := by
  cases remaining with
  | zero => cases listed
  | succ remaining =>
    rw [siblings] at listed
    exact (List.cons.inj listed).1.symm

/-- An index between the first and a later sibling is a sibling itself or stands between two. -/
theorem siblings_around {remaining start index later : Nat} (le : start ≤ index)
    (lt : index < later) (member : later ∈ siblings payload remaining start)
    (absent : index ∉ siblings payload remaining start) :
    ∃ child next, [child, next] <:+: siblings payload remaining start ∧
      child < index ∧ index < next := by
  induction remaining generalizing start with
  | zero => cases member
  | succ remaining ih =>
    cases found : payload[start]? with
    | none =>
      simp only [siblings, found, List.mem_singleton] at member
      omega
    | some node =>
      rw [siblings_step found] at member absent ⊢
      have other : index ≠ start := fun same => absent (same ▸ List.mem_cons_self)
      have beyond : later ∈ siblings payload remaining (nextSibling node start) := by
        rcases List.mem_cons.mp member with rfl | beyond
        · omega
        · exact beyond
      by_cases reached : nextSibling node start ≤ index
      · have stillAbsent := fun present => absent (List.mem_cons_of_mem _ present)
        obtain ⟨child, next, inside, between⟩ := ih reached beyond stillAbsent
        exact ⟨child, next, inside.trans (List.suffix_cons _ _).isInfix, between⟩
      · cases listed : siblings payload remaining (nextSibling node start) with
        | nil => simp [listed] at beyond
        | cons first rest =>
          obtain rfl := siblings_first listed
          refine ⟨start, nextSibling node start, ⟨[], rest, rfl⟩, ?_, ?_⟩
          · omega
          · omega

theorem siblings_linked {remaining start child next : Nat}
    (inside : [child, next] <:+: siblings payload remaining start) :
    ∃ node, payload[child]? = some node ∧ next = nextSibling node child := by
  induction remaining generalizing start with
  | zero => simp [siblings] at inside
  | succ remaining ih =>
    cases found : payload[start]? with
    | none =>
      simp only [siblings, found] at inside
      simpa using inside.length_le
    | some node =>
      rw [siblings_step found] at inside
      rcases List.infix_cons_iff.mp inside with first | later
      · obtain ⟨rfl, second⟩ := List.cons_prefix_cons.mp first
        cases listed : siblings payload remaining (nextSibling node child) with
        | nil => simp [listed] at second
        | cons head rest =>
          rw [listed] at second
          obtain ⟨rfl, _⟩ := List.cons_prefix_cons.mp second
          exact ⟨node, found, siblings_first listed⟩
      · exact ih later

/-- The children of a container start right after it. -/
theorem children_siblings {parent : Nat} (some : children payload parent ≠ []) :
    ∃ remaining, children payload parent = siblings payload remaining (parent + 1) := by
  cases found : payload[parent]? with
  | none => simp [children, found] at some
  | some node =>
    simp only [children, found] at some ⊢
    split at some
    · exact ⟨_, rfl⟩
    · exact ⟨_, rfl⟩
    · exact absurd rfl some

theorem Links.next {parent child next : Nat} (links : Links payload parent child next) :
    ∃ node, payload[child]? = some node ∧ next = nextSibling node child := by
  have some : children payload parent ≠ [] := by
    intro none
    rw [Links, none] at links
    simp at links
  obtain ⟨remaining, listed⟩ := children_siblings some
  rw [Links, listed] at links
  exact siblings_linked links

theorem Links.left {parent child next : Nat} (links : Links payload parent child next) :
    child ∈ children payload parent :=
  links.subset List.mem_cons_self

theorem Links.right {parent child next : Nat} (links : Links payload parent child next) :
    next ∈ children payload parent :=
  links.subset (List.mem_cons_of_mem _ List.mem_cons_self)

/-! ## What is leapt over -/

/-- On the way to a later node, decoding either comes by an index or leaps over it. -/
theorem reaches_or_leaps {start read index : Nat} (path : Reaches payload start read)
    (le : start ≤ index) (lt : index < read) :
    Reaches payload start index ∨ ∃ parent child next, Reaches payload start parent ∧
      Links payload parent child next ∧ child < index ∧ index < next := by
  induction path using Relation.ReflTransGen.head_induction_on with
  | refl => omega
  | @head parent child declared path ih =>
    by_cases same : index = parent
    · exact .inl (same ▸ .refl)
    rcases Nat.lt_or_ge index child with before | after
    · by_cases sibling : index ∈ children payload parent
      · exact .inl (.single sibling)
      · obtain ⟨remaining, listed⟩ := children_siblings (List.ne_nil_of_mem declared)
        rw [listed] at declared sibling
        obtain ⟨elder, younger, inside, between⟩ :=
          siblings_around (by omega) before declared sibling
        rw [← listed] at inside
        exact .inr ⟨parent, elder, younger, .refl, inside, between⟩
    · rcases ih after with reached | ⟨inner, elder, younger, way, leap⟩
      · exact .inl (.head declared reached)
      · exact .inr ⟨inner, elder, younger, .head declared way, leap⟩

theorem skipsNothing_iff {positions : Bool}
    (accepts : Accepts payload positions (maxDepth + 1) 0) :
    SkipsNothing payload ↔ ∀ index, LeaptOver payload index →
      ∃ parent ∈ readings payload, index ∈ children payload parent := by
  have reads (index : Nat) : index ∈ readings payload ↔ Reaches payload 0 index :=
    mem_readingsFrom_iff accepts
  constructor
  · rintro skips index ⟨parent, child, next, way, links, after, before⟩
    have next : Reaches payload 0 next := way.tail links.right
    have reached := (reads index).mp (skips _ ((reads _).mpr next) index before)
    rcases reached.cases_tail with same | ⟨claimer, way, declared⟩
    · omega
    · exact ⟨claimer, (reads claimer).mpr way, declared⟩
  · intro claimed read member index before
    rcases reaches_or_leaps ((reads read).mp member) (Nat.zero_le index) before with
      reached | leapt
    · exact (reads index).mpr reached
    · obtain ⟨claimer, way, declared⟩ := claimed index leapt
      exact (reads index).mpr (((reads claimer).mp way).tail declared)

/-! ## Reading in order -/

section Runs

variable {visits : Nat → List Nat}

theorem run_first {first start total : Nat} {rest : List Nat}
    (run : first :: rest = List.range' start total) : first = start := by
  cases total with
  | zero => cases run
  | succ total =>
    rw [List.range'_succ] at run
    exact (List.cons.inj run).1

theorem parts_of_run {left right : List Nat} {start total : Nat}
    (run : left ++ right = List.range' start total) :
    left = List.range' start left.length ∧
      right = List.range' (start + left.length) right.length := by
  have length : left.length + right.length = total := by
    simpa using congrArg List.length run
  rw [← length, ← List.range'_append_1] at run
  exact List.append_inj run (by simp)

/-- Runs of numbers, each beginning where the one before it ends, make up one run. -/
theorem flatMap_run {kids : List Nat} {start : Nat} (first : ∀ kid ∈ kids.head?, kid = start)
    (each : ∀ kid ∈ kids, visits kid = List.range' kid (visits kid).length)
    (linked : ∀ kid next, [kid, next] <:+: kids → next = kid + (visits kid).length) :
    kids.flatMap visits = List.range' start (kids.flatMap visits).length := by
  induction kids generalizing start with
  | nil => rfl
  | cons kid rest ih =>
    obtain rfl := first kid rfl
    have later : rest.flatMap visits =
        List.range' (kid + (visits kid).length) (rest.flatMap visits).length := by
      refine ih ?_ (fun other member => each other (List.mem_cons_of_mem _ member)) ?_
      · intro next head
        cases rest with
        | nil => cases head
        | cons other others =>
          obtain rfl := Option.some.inj head
          exact linked kid other ⟨[], others, rfl⟩
      · intro left right inside
        exact linked left right (inside.trans (List.suffix_cons _ _).isInfix)
    have here := each kid List.mem_cons_self
    rw [List.flatMap_cons, List.length_append, ← List.range'_append_1, ← here, ← later]

/-- Where visits that begin with their own number make up one run, each is a run that begins
where the one before it ends. -/
theorem runs_of_flatMap {kids : List Nat} {start total : Nat}
    (own : ∀ kid ∈ kids, ∃ below, visits kid = kid :: below)
    (run : kids.flatMap visits = List.range' start total) :
    (∀ kid ∈ kids, visits kid = List.range' kid (visits kid).length) ∧
      ∀ kid next, [kid, next] <:+: kids → next = kid + (visits kid).length := by
  induction kids generalizing start total with
  | nil => simp
  | cons kid rest ih =>
    rw [List.flatMap_cons] at run
    obtain ⟨here, later⟩ := parts_of_run run
    obtain ⟨⟨below, mine⟩, others⟩ := List.forall_mem_cons.mp own
    obtain rfl : kid = start := run_first (mine ▸ here)
    obtain ⟨each, linked⟩ := ih others later
    refine ⟨List.forall_mem_cons.mpr ⟨here, each⟩, ?_⟩
    intro left right inside
    rcases List.infix_cons_iff.mp inside with first | beyond
    · obtain ⟨rfl, second⟩ := List.cons_prefix_cons.mp first
      cases rest with
      | nil => simp at second
      | cons other others =>
        obtain ⟨rfl, _⟩ := List.cons_prefix_cons.mp second
        obtain ⟨tail, theirs⟩ := others right List.mem_cons_self
        rw [List.flatMap_cons, theirs, List.cons_append] at later
        exact run_first later
    · exact linked left right beyond

end Runs

/-- More levels than a node needs make no difference to what is read for it. -/
theorem readingsFrom_more {positions : Bool} {levels more index : Nat}
    (accepts : Accepts payload positions levels index) (le : levels ≤ more) :
    readingsFrom payload more index = readingsFrom payload levels index := by
  induction levels generalizing index more with
  | zero =>
    obtain ⟨below, impossible⟩ := accepts.level
    cases impossible
  | succ levels ih =>
    obtain ⟨further, rfl⟩ := Nat.exists_eq_add_of_le' le
    have same : ∀ child ∈ children payload index,
        readingsFrom payload (further + levels) child = readingsFrom payload levels child :=
      fun child declared => ih (accepts.child declared) (Nat.le_add_left ..)
    rw [← Nat.add_assoc, readingsFrom, readingsFrom, List.flatMap_congr same]

theorem Accepts.own {positions : Bool} {levels index : Nat}
    (accepts : Accepts payload positions levels index) :
    ∃ below, readingsFrom payload levels index = index :: below := by
  obtain ⟨levels, rfl⟩ := accepts.level
  exact ⟨_, rfl⟩

theorem Measured.child {start child : Nat} (measured : Measured payload start)
    (declared : child ∈ children payload start) : Measured payload child := by
  intro parent elder next node way links found
  exact measured parent elder next node (.head declared way) links found

/-- The nodes of a subtree are read one after the other, in their order, exactly when every offset
in it is the number of nodes below its child. -/
theorem readingsFrom_run_iff {positions : Bool} {levels index : Nat}
    (accepts : Accepts payload positions levels index) (le : levels ≤ maxDepth + 1) :
    readingsFrom payload levels index =
        List.range' index (readingsFrom payload levels index).length ↔
      Measured payload index := by
  induction levels generalizing index with
  | zero =>
    obtain ⟨below, impossible⟩ := accepts.level
    cases impossible
  | succ levels ih =>
    have within (child : Nat) (declared : child ∈ children payload index) :
        subtree payload child = readingsFrom payload levels child :=
      readingsFrom_more (accepts.child declared) (Nat.le_of_succ_le le)
    have inner (child : Nat) (declared : child ∈ children payload index) :=
      ih (accepts.child declared) (Nat.le_of_succ_le le)
    constructor
    · intro run
      have split : [index] ++ (children payload index).flatMap (readingsFrom payload levels) =
          List.range' index (readingsFrom payload (levels + 1) index).length := run
      obtain ⟨_, later⟩ := parts_of_run split
      obtain ⟨each, linked⟩ :=
        runs_of_flatMap (fun child declared => (accepts.child declared).own) later
      intro parent child next node way links found
      rcases way.cases_head with rfl | ⟨elder, declared, way⟩
      · have follows := linked child next links
        obtain ⟨linking, here, leads⟩ := links.next
        obtain rfl := Option.some.inj (found.symm.trans here)
        rw [within child links.left]
        unfold nextSibling at leads
        omega
      · exact (inner elder declared).mp (each elder declared) parent child next node way links found
    · intro measured
      have run : (children payload index).flatMap (readingsFrom payload levels) =
          List.range' (index + 1)
            ((children payload index).flatMap (readingsFrom payload levels)).length := by
        refine flatMap_run ?_ ?_ ?_
        · intro child head
          obtain ⟨rest, listed⟩ := List.head?_eq_some_iff.mp head
          obtain ⟨remaining, same⟩ := children_siblings (listed ▸ List.cons_ne_nil _ _)
          exact siblings_first (same.symm.trans listed)
        · intro child declared
          exact (inner child declared).mpr (measured.child declared)
        · intro child next inside
          have links : Links payload index child next := inside
          obtain ⟨node, found, leads⟩ := links.next
          have length := measured index child next node .refl links found
          rw [within child links.left] at length
          unfold nextSibling at leads
          omega
      rw [readingsFrom, List.length_cons, List.range'_succ, ← run]

/-! ## What is never read -/

section Elsewhere

variable {other : Array Node}

theorem nodeAt_congr {index : Nat} (size : other.size = payload.size)
    (same : other[index]? = payload[index]?) : nodeAt other index = nodeAt payload index := by
  rw [nodeAt, nodeAt, same, size]

theorem decodeItems_congr {left right : Nat → Except DecodeError Decoded} {remaining index : Nat}
    (size : other.size = payload.size)
    (alike : ∀ child ∈ siblings payload remaining index,
      other[child]? = payload[child]? ∧ left child = right child) :
    decodeItems other left remaining index = decodeItems payload right remaining index := by
  induction remaining generalizing index with
  | zero => rfl
  | succ remaining ih =>
    obtain ⟨same, equal⟩ := alike index List.mem_cons_self
    rw [decodeItems, decodeItems, nodeAt_congr size same, equal]
    cases found : payload[index]? with
    | none => simp only [nodeAt, found, bind, Except.bind]
    | some node =>
      rw [siblings_step found] at alike
      have later := ih (fun child member => alike child (List.mem_cons_of_mem _ member))
      simp only [nodeAt_eq_ok_iff.mpr found, bind, Except.bind, later]

theorem decodeEntries_congr {left right : Nat → Except DecodeError Decoded}
    {remaining index : Nat} {entries : List (String × Decoded)}
    (size : other.size = payload.size)
    (alike : ∀ child ∈ siblings payload remaining index,
      other[child]? = payload[child]? ∧ left child = right child) :
    decodeEntries other left remaining index entries =
      decodeEntries payload right remaining index entries := by
  induction remaining generalizing index entries with
  | zero => rfl
  | succ remaining ih =>
    obtain ⟨same, equal⟩ := alike index List.mem_cons_self
    rw [decodeEntries, decodeEntries, nodeAt_congr size same, equal]
    cases found : payload[index]? with
    | none => simp only [nodeAt, found, bind, Except.bind]
    | some node =>
      rw [siblings_step found] at alike
      have later (held : List (String × Decoded)) := @ih (nextSibling node index) held
        (fun child member => alike child (List.mem_cons_of_mem _ member))
      simp only [nodeAt_eq_ok_iff.mpr found, bind, Except.bind, later]

/-- A decoding that succeeds depends on the nodes that it reads and on the size of the payload
only. -/
theorem decodeNode_congr {positions : Bool} {levels index : Nat}
    (accepts : Accepts payload positions levels index) (size : other.size = payload.size)
    (same : ∀ read ∈ readingsFrom payload levels index, other[read]? = payload[read]?) :
    decodeNode other positions levels index = decodeNode payload positions levels index := by
  induction levels generalizing index with
  | zero => rfl
  | succ levels ih =>
    have alike : ∀ child ∈ children payload index, other[child]? = payload[child]? ∧
        decodeNode other positions levels child = decodeNode payload positions levels child := by
      intro child declared
      have inner : ∀ read ∈ readingsFrom payload levels child, other[read]? = payload[read]? :=
        fun read member =>
          same read (List.mem_cons_of_mem _ (List.mem_flatMap.mpr ⟨child, declared, member⟩))
      obtain ⟨below, own⟩ := (accepts.child declared).own
      exact ⟨inner child (own ▸ List.mem_cons_self), ih (accepts.child declared) inner⟩
    have here := nodeAt_congr size (same index List.mem_cons_self)
    rw [decodeNode, decodeNode, here]
    cases found : payload[index]? with
    | none => simp only [nodeAt, found, bind, Except.bind]
    | some node =>
      simp only [nodeAt_eq_ok_iff.mpr found, bind, Except.bind]
      cases typed : ValueType.ofCode? node.valueType with
      | none => rfl
      | some kind =>
        have sized : declaredSize other node index = declaredSize payload node index := by
          rw [declaredSize, declaredSize, size]
        cases kind with
        | map =>
          rw [children_eq_siblings found typed (.inl rfl)] at alike
          have entries := @decodeEntries_congr _ _ _ _ _ _ [] size alike
          simp only [sized]
          cases fits : declaredSize payload node index with
          | error cause => rfl
          | ok number =>
            obtain rfl := declaredSize_eq_ok fits
            simp only [entries]
        | sequence =>
          rw [children_eq_siblings found typed (.inr rfl)] at alike
          have items := decodeItems_congr size alike
          simp only [sized]
          cases fits : declaredSize payload node index with
          | error cause => rfl
          | ok number =>
            obtain rfl := declaredSize_eq_ok fits
            simp only [items]
        | _ => rfl

end Elsewhere

/-- A node is passed over without being read exactly when an offset that decoding follows leaps
over it and no container that decoding comes to claims it. Decoding reads the nodes in their
order, each once, exactly when every offset is the number of nodes below its child. A node that is
not read may be any node: the payload decodes to the same. -/
theorem skips_nothing_iff_claimed {positions : Bool} {decoded : Decoded}
    (nonempty : payload.isEmpty = false) (accepted : decodeWith positions payload = .ok decoded) :
    (SkipsNothing payload ↔ ∀ index, LeaptOver payload index →
        ∃ parent ∈ readings payload, index ∈ children payload parent) ∧
      (readings payload = List.range decoded.value.count ↔ Measured payload 0) ∧
      ∀ index, index ∉ readings payload → ∀ node,
        decodeWith positions (payload.setIfInBounds index node) = .ok decoded := by
  have root : decodeNode payload positions (maxDepth + 1) 0 = .ok decoded := by
    simpa [decodeWith, nonempty] using accepted
  have accepts : Accepts payload positions (maxDepth + 1) 0 := ⟨decoded, root⟩
  refine ⟨skipsNothing_iff accepts, ?_, ?_⟩
  · have number : (readings payload).length = decoded.value.count := length_readingsFrom root
    rw [← readingsFrom_run_iff accepts (Nat.le_refl _), List.range_eq_range', ← number]
    rfl
  · intro index unread node
    have size : (payload.setIfInBounds index node).size = payload.size := by simp
    have same : ∀ read ∈ readings payload,
        (payload.setIfInBounds index node)[read]? = payload[read]? := by
      intro read member
      have apart : index ≠ read := fun equal => unread (equal ▸ member)
      rw [Array.getElem?_setIfInBounds_ne apart]
    have full : (payload.setIfInBounds index node).isEmpty = false := by
      simpa [Array.isEmpty] using nonempty
    rw [decodeWith, full, ← root, ← decodeNode_congr accepts size same]
    rfl

/-- A root with two items. The offset of the first leads past a text to the second. -/
def leaping : Array Node :=
  #[{ valueType := 8, size := 2 }, { siblingOffset := 1 }, { valueType := 2, text := "lost" }, {}]

/-- The offsets of two items lead past nodes, each of which the other subtree claims. -/
private def crossing : Array Node :=
  #[{ valueType := 8, size := 2 }, { valueType := 8, size := 2, siblingOffset := 1 },
    { siblingOffset := 2 }, { valueType := 8, size := 1 }, {}, {}]

theorem skips_nothing_iff_claimed_crossing :
    (leaping.isEmpty = false ∧ ∃ decoded, decodeWith true leaping = .ok decoded ∧
      ∀ node, decodeWith true (leaping.setIfInBounds 2 node) = .ok decoded) ∧
    (crossing.isEmpty = false ∧ ∃ decoded, decodeWith true crossing = .ok decoded ∧
      SkipsNothing crossing ∧ ∀ index, LeaptOver crossing index →
        ∃ parent ∈ readings crossing, index ∈ children crossing parent) := by
  have accepted : decodeWith true crossing = .ok _ := rfl
  have unread : 2 ∉ readings leaping := by decide
  have skips : SkipsNothing crossing := by
    show ∀ read ∈ readings crossing, ∀ index < read, index ∈ readings crossing
    decide
  exact ⟨⟨rfl, _, rfl, (skips_nothing_iff_claimed rfl rfl).2.2 2 unread⟩,
    rfl, _, accepted, skips, (skips_nothing_iff_claimed rfl accepted).1.mp skips⟩

theorem decode_leaping_skips :
    decode leaping = .ok (.sequence [.undefined, .undefined]) ∧ readings leaping = [0, 1, 3] ∧
      ¬ SkipsNothing leaping := by
  refine ⟨rfl, rfl, fun skips => ?_⟩
  exact absurd (skips 3 (by decide) 2 (by decide)) (by decide)

end ConfigWatch.Payload

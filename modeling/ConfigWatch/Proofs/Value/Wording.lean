import ConfigWatch.Payload.Node
import ConfigWatch.Proofs.Text.Quoting
import ConfigWatch.Proofs.Value.Parts
import ConfigWatch.Value.Text

/-!
# The text of a value identifies it

A value without doubles is known from its text. What a text begins with tells the kind of the
value. A number or a string of bytes ends where a comma or a closing bracket follows, and all
other texts end by themselves, so that the parts of a sequence or a map are told apart however
they are nested. A double is written like the whole number that it may be equal to, and is left
out of account.
-/

set_option autoImplicit false

namespace ConfigWatch

/-! ## Digits -/

namespace Hex

private theorem digit_inj {left right : Nat} (leftSmall : left < 16) (rightSmall : right < 16)
    (same : digit left = digit right) : left = right := by
  have all : ∀ left < 16, ∀ right < 16, digit left = digit right → left = right := by decide
  exact all left leftSmall right rightSmall same

theorem chars_inj {left right : Bytes} (same : chars left = chars right) : left = right := by
  induction left generalizing right with
  | nil =>
    cases right with
    | nil => rfl
    | cons => cases same
  | cons byte rest ih =>
    cases right with
    | nil => cases same
    | cons other others =>
      obtain ⟨high, after⟩ := List.cons.inj same
      obtain ⟨low, later⟩ := List.cons.inj after
      have bounds (byte : UInt8) : byte.toNat / 16 < 16 ∧ byte.toNat % 16 < 16 := by
        have size := byte.toNat_lt
        omega
      have highs := digit_inj (bounds byte).1 (bounds other).1 high
      have lows := digit_inj (bounds byte).2 (bounds other).2 low
      rw [ih later, UInt8.toNat_inj.mp (by omega : byte.toNat = other.toNat)]

end Hex

namespace Value

/-- The characters that follow a value inside a sequence or a map. -/
def isDelimiter (c : Char) : Bool := c == ',' || c == ']' || c == '\x7d'

/-- Nothing follows a value, or a delimiter. -/
def Ends (rest : List Char) : Prop := ∀ c ∈ rest.head?, isDelimiter c = true

theorem ends_nil : Ends [] := by
  intro c here
  cases here

theorem ends_cons {c : Char} {rest : List Char} (delimiter : isDelimiter c = true) :
    Ends (c :: rest) := by
  intro first here
  obtain rfl := Option.some.inj here
  exact delimiter

/-- No part of the value is a double. -/
def DoubleFree (value : Value) : Prop := ∀ part ∈ value.parts, part.value.double? = none

instance : DecidablePred DoubleFree := fun value =>
  inferInstanceAs (Decidable (∀ part ∈ value.parts, part.value.double? = none))

theorem digit_not_delimiter {value : Nat} (small : value < 16) :
    isDelimiter (Hex.digit value) = false := by
  have all : ∀ value < 16, isDelimiter (Hex.digit value) = false := by decide
  exact all value small

theorem bytesChars_run {content : Bytes} {c : Char} (member : c ∈ bytesChars content) :
    isDelimiter c = false := by
  rw [bytesChars, List.mem_cons, List.mem_cons] at member
  rcases member with rfl | rfl | digits
  · rfl
  · rfl
  · obtain ⟨byte, _, here⟩ := List.mem_flatMap.mp digits
    have size := byte.toNat_lt
    rw [Hex.byteChars, List.mem_cons, List.mem_singleton] at here
    rcases here with rfl | rfl
    · exact digit_not_delimiter (by omega)
    · exact digit_not_delimiter (by omega)

/-- The text of a whole number: the digits of its size, after a sign if it is negative. -/
private theorem intChars_eq (number : Int64) :
    intChars number =
      if number.toInt < 0 then '-' :: Nat.toDigits 10 number.toInt.natAbs
      else Nat.toDigits 10 number.toInt.natAbs := by
  rw [intChars]
  cases number.toInt with
  | ofNat size =>
    rw [if_neg (show ¬ Int.ofNat size < 0 from Int.not_lt.mpr (Int.natCast_nonneg size))]
    show (Nat.repr size).toList = _
    rw [Nat.repr_eq_ofList_toDigits, String.toList_ofList]
    rfl
  | negSucc size =>
    rw [if_pos (Int.negSucc_lt_zero size)]
    show ("-" ++ Nat.repr (size + 1)).toList = _
    rw [Nat.repr_eq_ofList_toDigits, String.toList_append]
    exact congrArg (List.append ['-']) String.toList_ofList

private theorem isDigit_of_mem_digits {size : Nat} {c : Char} (member : c ∈ Nat.toDigits 10 size) :
    c.isDigit = true :=
  Nat.isDigit_of_mem_toDigits (by decide) (Nat.le_refl _) member

theorem intChars_mem {number : Int64} {c : Char} (member : c ∈ intChars number) :
    c = '-' ∨ c.isDigit = true := by
  rw [intChars_eq] at member
  split at member
  · cases List.mem_cons.mp member with
    | inl sign => exact .inl sign
    | inr digit => exact .inr (isDigit_of_mem_digits digit)
  · exact .inr (isDigit_of_mem_digits member)

theorem intChars_ne_nil (number : Int64) : intChars number ≠ [] := by
  rw [intChars_eq]
  split
  · exact List.cons_ne_nil _ _
  · exact Nat.toDigits_ne_nil

private theorem sign_ne_digits {rest : List Char} {size : Nat} :
    '-' :: rest ≠ Nat.toDigits 10 size := by
  intro same
  have digit : '-'.isDigit = true := isDigit_of_mem_digits (same ▸ List.mem_cons_self)
  exact absurd digit (by decide)

theorem intChars_inj {left right : Int64} (same : intChars left = intChars right) :
    left = right := by
  have sizes {left right : Nat} (same : Nat.toDigits 10 left = Nat.toDigits 10 right) :
      left = right := Hex.toDigits_inj (by decide) (by decide) same
  rw [intChars_eq, intChars_eq] at same
  apply Int64.toInt_inj.mp
  split at same
  · next leftNegative =>
    split at same
    · next rightNegative =>
      have size := sizes (List.cons.inj same).2
      omega
    · exact absurd same sign_ne_digits
  · next leftWhole =>
    split at same
    · exact absurd same.symm sign_ne_digits
    · have size := sizes same
      omega

private theorem intChars_differ {number : Int64} {c other : Char} (member : c ∈ intChars number)
    (odd : other ≠ '-' ∧ other.isDigit = false) : c ≠ other := by
  rintro rfl
  cases intChars_mem member with
  | inl sign => exact odd.1 sign
  | inr digit => exact Bool.false_ne_true (odd.2.symm.trans digit)

private theorem intChars_run {number : Int64} {c : Char} (member : c ∈ intChars number) :
    isDelimiter c = false := by
  have comma : c ≠ ',' := intChars_differ member (by decide)
  have bracket : c ≠ ']' := intChars_differ member (by decide)
  have brace : c ≠ '\x7d' := intChars_differ member (by decide)
  simp [isDelimiter, comma, bracket, brace]

/-! ## What a text begins with -/

/-- The kind of a value. -/
def kind : Value → ValueType
  | .undefined => .undefined
  | .null => .null
  | .text _ => .text
  | .bytes _ => .bytes
  | .int _ => .int
  | .double _ => .double
  | .bool _ => .bool
  | .sequence _ => .sequence
  | .map _ => .map

/-- The kind of the value that a text begins with. -/
def kindOf? : List Char → Option ValueType
  | [] => none
  | first :: rest =>
    if isDelimiter first then none
    else if first = 'u' then some .undefined
    else if first = 'n' then some .null
    else if first = '"' then some .text
    else if first = 't' ∨ first = 'f' then some .bool
    else if first = '[' then some .sequence
    else if first = '\x7b' then some .map
    else if rest.head? = some 'x' then some .bytes
    else some .int

private theorem kindOf?_intChars {number : Int64} {rest : List Char} (ends : Ends rest) :
    kindOf? (intChars number ++ rest) = some .int := by
  cases written : intChars number with
  | nil => exact absurd written (intChars_ne_nil number)
  | cons first later =>
    have starts (other : Char) (odd : other ≠ '-' ∧ other.isDigit = false) : first ≠ other :=
      intChars_differ (written ▸ List.mem_cons_self) odd
    have second : (later ++ rest).head? ≠ some 'x' := by
      intro here
      cases later with
      | nil => exact absurd (ends 'x' here) (by decide)
      | cons next others =>
        have inside : next ∈ intChars number :=
          written ▸ List.mem_cons_of_mem _ List.mem_cons_self
        exact intChars_differ inside (by decide) (Option.some.inj here)
    simp only [List.cons_append, kindOf?, isDelimiter, second, starts ',' (by decide),
      starts ']' (by decide), starts '\x7d' (by decide), starts 'u' (by decide),
      starts 'n' (by decide), starts '"' (by decide), starts 't' (by decide),
      starts 'f' (by decide), starts '[' (by decide), starts '\x7b' (by decide), beq_iff_eq,
      Bool.or_eq_true, or_self, if_false]

theorem kindOf?_chars {value : Value} {rest : List Char} (single : value.double? = none)
    (ends : Ends rest) : kindOf? (value.chars ++ rest) = some value.kind := by
  cases value with
  | undefined => rfl
  | null => rfl
  | text content => rfl
  | bytes content => rfl
  | int number => exact kindOf?_intChars ends
  | double number => cases single
  | bool truth => cases truth <;> rfl
  | sequence items => rfl
  | map entries => rfl

theorem not_ends_chars {value : Value} (single : value.double? = none) :
    ¬ Ends value.chars := by
  intro ends
  have known : kindOf? (value.chars ++ []) = some value.kind := kindOf?_chars single ends_nil
  rw [List.append_nil] at known
  cases written : value.chars with
  | nil =>
    rw [written] at known
    cases known
  | cons first later =>
    rw [written] at known ends
    rw [kindOf?, if_pos (ends first rfl)] at known
    cases known

/-! ## Parts in a row -/

section Parts

variable {α : Type} {text : α → List Char} {close : Char} {left right : List α}
  {rest other : List Char}

/-- Two texts that begin the same line are of one thing, wherever something follows a value. -/
def Apart (text : α → List Char) (item peer : α) : Prop :=
  ∀ rest other, Ends rest → Ends other → text item ++ rest = text peer ++ other →
    item = peer ∧ rest = other

/-- Texts without delimiters end where something follows a value. -/
private theorem apart_of_run (run : ∀ item, ∀ c ∈ text item, isDelimiter c = false)
    (inj : ∀ {item peer}, text item = text peer → item = peer) (item peer : α) :
    Apart text item peer := by
  intro rest other ends stops same
  have runs (item : α) : ∀ c ∈ text item, (!isDelimiter c) = true := by
    intro c member
    rw [run item c member, Bool.not_false]
  have ended {rest : List Char} (ends : Ends rest) :
      ∀ c ∈ rest.head?, (!isDelimiter c) = false := by
    intro c first
    rw [ends c first, Bool.not_true]
  obtain ⟨written, rests⟩ := run_append_inj (runs item) (runs peer) (ended ends) (ended stops) same
  exact ⟨inj written, rests⟩

/-- What follows the first of several parts: a comma, a blank and the next part, again and again. -/
def continued (parts : List (List Char)) : List Char :=
  parts.flatMap (fun part => ',' :: ' ' :: part)

private theorem separated_cons (part : List Char) (parts : List (List Char)) :
    separated (part :: parts) = part ++ continued parts := by
  induction parts generalizing part with
  | nil => exact (List.append_nil part).symm
  | cons next parts ih =>
    rw [separated, ih]
    · rfl
    · exact List.cons_ne_nil _ _

private theorem continued_cons (part : List Char) (parts : List (List Char)) :
    continued (part :: parts) = ',' :: ' ' :: separated (part :: parts) := by
  rw [separated_cons]
  rfl

private theorem ends_continued (closes : isDelimiter close = true) (parts : List (List Char)) :
    Ends (continued parts ++ close :: rest) := by
  cases parts with
  | nil => exact ends_cons closes
  | cons => exact ends_cons rfl

/-- Rows that go on the same way hold the same, if their parts can be told apart. -/
private theorem continued_append_inj (closes : isDelimiter close = true) (unlike : close ≠ ',')
    (each : ∀ item ∈ left, ∀ peer ∈ right, Apart text item peer)
    (same : continued (left.map text) ++ close :: rest =
      continued (right.map text) ++ close :: other) : left = right ∧ rest = other := by
  induction left generalizing right with
  | nil =>
    cases right with
    | nil => exact ⟨rfl, (List.cons.inj same).2⟩
    | cons => exact absurd (List.cons.inj same).1 unlike
  | cons item items ih =>
    cases right with
    | nil => exact absurd (List.cons.inj same).1.symm unlike
    | cons peer peers =>
      simp only [continued, List.map_cons, List.flatMap_cons, List.cons_append, List.append_assoc,
        List.cons.injEq, true_and] at same
      obtain ⟨rfl, onwards⟩ := each item List.mem_cons_self peer List.mem_cons_self _ _
        (ends_continued closes _) (ends_continued closes _) same
      obtain ⟨rfl, rests⟩ := ih (fun next inside later member =>
        each next (List.mem_cons_of_mem _ inside) later (List.mem_cons_of_mem _ member)) onwards
      exact ⟨rfl, rests⟩

private theorem opened {item : α} (starts : ¬ Ends (text item)) (closes : isDelimiter close = true)
    {more : List Char} : text item ++ more ++ rest ≠ close :: other := by
  intro same
  cases written : text item with
  | nil => exact starts (written ▸ ends_nil)
  | cons first later =>
    rw [written] at same starts
    exact starts (ends_cons ((List.cons.inj same).1 ▸ closes))

/-- Rows that are written the same hold the same, if no part begins like what closes the row. -/
theorem separated_append_inj (closes : isDelimiter close = true) (unlike : close ≠ ',')
    (starts : ∀ item ∈ left ++ right, ¬ Ends (text item))
    (each : ∀ item ∈ left, ∀ peer ∈ right, Apart text item peer)
    (same : separated (left.map text) ++ close :: rest =
      separated (right.map text) ++ close :: other) : left = right ∧ rest = other := by
  cases left with
  | nil =>
    cases right with
    | nil => exact ⟨rfl, (List.cons.inj same).2⟩
    | cons peer peers =>
      rw [List.map_cons, separated_cons] at same
      exact absurd same.symm (opened (starts peer (by simp)) closes)
  | cons item items =>
    cases right with
    | nil =>
      rw [List.map_cons, separated_cons] at same
      exact absurd same (opened (starts item (by simp)) closes)
    | cons peer peers =>
      apply continued_append_inj closes unlike each
      rw [List.map_cons, List.map_cons, continued_cons, continued_cons]
      exact congrArg (fun row => ',' :: ' ' :: row) same

end Parts

/-! ## Values -/

private theorem bytes_apart (left right : Bytes) : Apart bytesChars left right :=
  apart_of_run (fun _ _ => bytesChars_run)
    (fun same => Hex.chars_inj (List.cons.inj (List.cons.inj same).2).2) left right

private theorem int_apart (left right : Int64) : Apart intChars left right :=
  apart_of_run (fun _ _ => intChars_run) intChars_inj left right

private theorem text_apart (left right : String) : Apart Quoted.chars left right :=
  fun _ _ _ _ same => Quoted.chars_append_inj same

private theorem bool_apart (left right : Bool) : Apart boolChars left right := by
  intro rest other _ _ same
  by_cases alike : left = right
  · subst alike
    exact ⟨rfl, List.append_cancel_left same⟩
  · cases left with
    | false =>
      obtain rfl : right = true := by simpa using alike
      exact absurd (List.cons.inj same).1 (by decide)
    | true =>
      obtain rfl : right = false := by simpa using alike
      exact absurd (List.cons.inj same).1 (by decide)

private theorem chars_sequence (items : List Value) :
    chars (.sequence items) = '[' :: (separated (items.map chars) ++ [']']) := by
  have each : itemsChars items = items.map chars := by
    induction items with
    | nil => rfl
    | cons item rest ih => rw [itemsChars, ih, List.map_cons]
  rw [← each]
  rfl

/-- The text of an entry: the quoted key, a colon, a blank and the value. -/
def entryChars (entry : String × Value) : List Char :=
  Quoted.chars entry.1 ++ ':' :: ' ' :: chars entry.2

private theorem chars_map (entries : List (String × Value)) :
    chars (.map entries) = '\x7b' :: (separated (entries.map entryChars) ++ ['\x7d']) := by
  have each : entriesChars entries = entries.map entryChars := by
    induction entries with
    | nil => rfl
    | cons entry rest ih =>
      rw [entriesChars, ih, List.map_cons]
      rfl
  rw [← each]
  rfl

private theorem entry_starts (entry : String × Value) : ¬ Ends (entryChars entry) := by
  intro ends
  exact absurd (ends '"' rfl) (by decide)

private theorem entry_apart {entry peer : String × Value} (values : Apart chars entry.2 peer.2) :
    Apart entryChars entry peer := by
  intro rest other ends stops same
  rw [entryChars, entryChars, List.append_assoc, List.append_assoc] at same
  obtain ⟨keys, onwards⟩ := Quoted.chars_append_inj same
  obtain ⟨held, rests⟩ := values rest other ends stops (List.cons.inj (List.cons.inj onwards).2).2
  exact ⟨Prod.ext keys held, rests⟩

namespace DoubleFree

variable {value : Value}

theorem single (free : DoubleFree value) : value.double? = none := by
  apply free ⟨none, value⟩
  rw [parts, Part.all_eq]
  exact List.mem_cons_self

theorem child (free : DoubleFree value) {child : Part} (member : child ∈ value.children) :
    DoubleFree child.value := by
  intro part inside
  have nested {other : Part} (deeper : other ∈ child.all) : other ∈ value.parts := by
    rw [parts, Part.all_eq]
    exact List.mem_cons_of_mem _ (List.mem_flatMap.mpr ⟨child, member, deeper⟩)
  rw [Part.all_eq] at nested
  rw [parts, Part.all_eq] at inside
  cases List.mem_cons.mp inside with
  | inl same =>
    subst same
    exact free child (nested List.mem_cons_self)
  | inr deeper => exact free part (nested (List.mem_cons_of_mem _ deeper))

theorem item {items : List Value} (free : DoubleFree (.sequence items)) {item : Value}
    (member : item ∈ items) : DoubleFree item := by
  have nested : ⟨none, item⟩ ∈ children (.sequence items) :=
    List.mem_map.mpr ⟨item, member, rfl⟩
  exact free.child nested

theorem entry {entries : List (String × Value)} (free : DoubleFree (.map entries))
    {entry : String × Value} (member : entry ∈ entries) : DoubleFree entry.2 := by
  have nested : ⟨some entry.1, entry.2⟩ ∈ children (.map entries) :=
    List.mem_map.mpr ⟨entry, member, rfl⟩
  exact free.child nested

end DoubleFree

private theorem sequence_apart {items peers : List Value} (leftFree : DoubleFree (.sequence items))
    (rightFree : DoubleFree (.sequence peers))
    (each : ∀ item ∈ items, ∀ peer ∈ peers, Apart chars item peer) :
    Apart chars (.sequence items) (.sequence peers) := by
  intro rest other _ _ same
  have starts : ∀ item ∈ items ++ peers, ¬ Ends (chars item) := by
    intro item member
    cases List.mem_append.mp member with
    | inl here => exact not_ends_chars (leftFree.item here).single
    | inr here => exact not_ends_chars (rightFree.item here).single
  rw [chars_sequence, chars_sequence, List.cons_append, List.cons_append, List.append_assoc,
    List.append_assoc] at same
  have closes : isDelimiter ']' = true := rfl
  obtain ⟨rfl, rests⟩ :=
    separated_append_inj closes (by decide) starts each (List.cons.inj same).2
  exact ⟨rfl, rests⟩

private theorem map_apart {entries peers : List (String × Value)}
    (each : ∀ entry ∈ entries, ∀ peer ∈ peers, Apart chars entry.2 peer.2) :
    Apart chars (.map entries) (.map peers) := by
  intro rest other _ _ same
  rw [chars_map, chars_map, List.cons_append, List.cons_append, List.append_assoc,
    List.append_assoc] at same
  have closes : isDelimiter '\x7d' = true := rfl
  obtain ⟨rfl, rests⟩ := separated_append_inj closes (by decide) (fun entry _ => entry_starts entry)
    (fun entry member peer here => entry_apart (each entry member peer here))
    (List.cons.inj same).2
  exact ⟨rfl, rests⟩

/-- Two texts of values without doubles that begin the same line are of the same value. -/
theorem chars_apart {left right : Value} (leftFree : DoubleFree left)
    (rightFree : DoubleFree right) : Apart chars left right := by
  induction left using induction_on_children generalizing right with
  | step left ih =>
    intro rest other ends stops same
    have kinds : left.kind = right.kind := by
      have known := kindOf?_chars leftFree.single ends
      rw [same, kindOf?_chars rightFree.single stops] at known
      exact (Option.some.inj known).symm
    cases left with
    | undefined =>
      cases right with
      | undefined => exact ⟨rfl, List.append_cancel_left same⟩
      | _ => cases kinds
    | null =>
      cases right with
      | null => exact ⟨rfl, List.append_cancel_left same⟩
      | _ => cases kinds
    | text content =>
      cases right with
      | text peer =>
        obtain ⟨rfl, rests⟩ := text_apart content peer rest other ends stops same
        exact ⟨rfl, rests⟩
      | _ => cases kinds
    | bytes content =>
      cases right with
      | bytes peer =>
        obtain ⟨rfl, rests⟩ := bytes_apart content peer rest other ends stops same
        exact ⟨rfl, rests⟩
      | _ => cases kinds
    | int number =>
      cases right with
      | int peer =>
        obtain ⟨rfl, rests⟩ := int_apart number peer rest other ends stops same
        exact ⟨rfl, rests⟩
      | _ => cases kinds
    | double number => cases leftFree.single
    | bool truth =>
      cases right with
      | bool peer =>
        obtain ⟨rfl, rests⟩ := bool_apart truth peer rest other ends stops same
        exact ⟨rfl, rests⟩
      | _ => cases kinds
    | sequence items =>
      cases right with
      | sequence peers =>
        have each : ∀ item ∈ items, ∀ peer ∈ peers, Apart chars item peer := by
          intro item member peer here
          exact ih ⟨none, item⟩ (List.mem_map.mpr ⟨item, member, rfl⟩) (leftFree.item member)
            (rightFree.item here)
        exact sequence_apart leftFree rightFree each rest other ends stops same
      | _ => cases kinds
    | map entries =>
      cases right with
      | map peers =>
        have each : ∀ entry ∈ entries, ∀ peer ∈ peers, Apart chars entry.2 peer.2 := by
          intro entry member peer here
          exact ih ⟨some entry.1, entry.2⟩ (List.mem_map.mpr ⟨entry, member, rfl⟩)
            (leftFree.entry member) (rightFree.entry here)
        exact map_apart each rest other ends stops same
      | _ => cases kinds

/-! ## Equality -/

private theorem sameItems_iff {items peers : List Value}
    (each : ∀ item ∈ items, ∀ peer, item.sameValue peer = true ↔ item = peer) :
    sameItems items peers = true ↔ items = peers := by
  induction items generalizing peers with
  | nil => cases peers <;> simp [sameItems]
  | cons item items ih =>
    cases peers with
    | nil => simp [sameItems]
    | cons peer peers =>
      rw [List.forall_mem_cons] at each
      rw [sameItems, Bool.and_eq_true, each.1, ih each.2, List.cons.injEq]

private theorem sameEntries_iff {entries peers : List (String × Value)}
    (each : ∀ entry ∈ entries, ∀ peer, entry.2.sameValue peer = true ↔ entry.2 = peer) :
    sameEntries entries peers = true ↔ entries = peers := by
  induction entries generalizing peers with
  | nil => cases peers <;> simp [sameEntries]
  | cons entry entries ih =>
    cases peers with
    | nil => simp [sameEntries]
    | cons peer peers =>
      rw [List.forall_mem_cons] at each
      rw [sameEntries, Bool.and_eq_true, Bool.and_eq_true, beq_iff_eq, each.1, ih each.2,
        List.cons.injEq, Prod.ext_iff]

/-- A value without doubles counts as equal to itself only. -/
theorem DoubleFree.sameValue_iff {left right : Value} (free : DoubleFree left) :
    left.sameValue right = true ↔ left = right := by
  induction left using induction_on_children generalizing right with
  | step left ih =>
    cases left with
    | double number => cases free.single
    | sequence items =>
      cases right with
      | sequence peers =>
        rw [sameValue, Value.sequence.injEq]
        apply sameItems_iff
        intro item member peer
        exact ih ⟨none, item⟩ (List.mem_map.mpr ⟨item, member, rfl⟩) (free.item member)
      | _ => simp [sameValue]
    | map entries =>
      cases right with
      | map peers =>
        rw [sameValue, Value.map.injEq]
        apply sameEntries_iff
        intro entry member peer
        exact ih ⟨some entry.1, entry.2⟩ (List.mem_map.mpr ⟨entry, member, rfl⟩) (free.entry member)
      | _ => simp [sameValue]
    | _ => cases right <;> simp [sameValue]

/-- The text of a value without doubles identifies it: texts are equal only of values that are
equal, however strings, keys and nestings look like one another. -/
theorem text_identifies_value {left right : Value} (leftFree : DoubleFree left)
    (rightFree : DoubleFree right) :
    (left.toText = right.toText ↔ left = right) ∧
      (left.sameValue right = true ↔ left = right) := by
  refine ⟨⟨fun same => ?_, fun same => same ▸ rfl⟩, leftFree.sameValue_iff⟩
  have written : left.chars ++ [] = right.chars ++ [] :=
    congrArg (· ++ []) (String.ofList_injective same)
  exact (chars_apart leftFree rightFree [] [] ends_nil ends_nil written).1

/-- A quote inside a string does not end it, however much the rest looks like another item. -/
theorem text_identifies_value_quoted :
    let one : Value := .sequence [.text "a\", \"b", .map [("k\": [", .int (-1))]]
    let two : Value := .sequence [.text "a", .text "b", .map [("k\": [", .int (-1))]]
    DoubleFree one ∧ DoubleFree two ∧ one.toText ≠ two.toText ∧ one.sameValue two = false := by
  intro one two
  have oneFree : DoubleFree one := by decide
  have twoFree : DoubleFree two := by decide
  have differ : one ≠ two := by simp [one, two]
  obtain ⟨texts, values⟩ := text_identifies_value oneFree twoFree
  exact ⟨oneFree, twoFree, mt texts.mp differ, Bool.eq_false_iff.mpr (mt values.mp differ)⟩

-- A double may be written like the whole number that it is equal to.
example : (double Double.zero).toText = (int 0).toText := by decide

end Value

end ConfigWatch

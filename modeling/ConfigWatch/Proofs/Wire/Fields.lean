import ConfigWatch.Wire.Field
import Mathlib.Algebra.Group.Nat.Defs

/-!
# Fields there and back

A list of fields that is joined to a byte string is found again when the string is split, as long
as every field has a number that fits its key and a content that fits its length. What follows an
encoded number or field is left alone.
-/

set_option autoImplicit false

namespace ConfigWatch.Wire

/-! ## Numbers -/

private theorem toNat_byte {value : Nat} (small : value < 256) :
    (UInt8.ofNat value).toNat = value :=
  UInt8.toNat_ofNat_of_lt' small

namespace Varint

theorem readPlaces_encode {value places : Nat} (fits : value < 2 * 128 ^ places) (rest : Bytes) :
    readPlaces (places + 1) (encode value ++ rest) = some (value, rest) := by
  induction places generalizing value with
  | zero =>
    rw [Nat.pow_zero] at fits
    have byte : (UInt8.ofNat value).toNat = value := toNat_byte (by omega)
    rw [encode, if_pos (by omega), List.cons_append, readPlaces, byte, if_pos (by omega),
      if_neg (by omega)]
    rfl
  | succ places ih =>
    rw [encode]
    split
    · have byte : (UInt8.ofNat value).toNat = value := toNat_byte (by omega)
      rw [List.cons_append, readPlaces, byte, if_pos (by omega), if_neg (by omega)]
      rfl
    · have byte : (UInt8.ofNat (value % 128 + 128)).toNat = value % 128 + 128 :=
        toNat_byte (by omega)
      have high : value / 128 < 2 * 128 ^ places := by
        rw [Nat.pow_succ] at fits
        omega
      rw [List.cons_append, readPlaces, byte, if_neg (by omega), ih high]
      have whole : (value % 128 + 128) % 128 + 128 * (value / 128) = value := by omega
      simp only [bind, Option.bind, pure, whole]

theorem read_encode {value : Nat} (fits : value < 2 ^ 64) (rest : Bytes) :
    read (encode value ++ rest) = some (value, rest) :=
  readPlaces_encode (by omega) rest

theorem encode_ne_nil (value : Nat) : encode value ≠ [] := by
  rw [encode]
  split
  · exact List.cons_ne_nil _ _
  · exact List.cons_ne_nil _ _

end Varint

theorem length_littleEndian (length value : Nat) : (littleEndian length value).length = length := by
  induction length generalizing value with
  | zero => rfl
  | succ length ih => rw [littleEndian, List.length_cons, ih]

theorem ofLittleEndian_littleEndian {length value : Nat} (fits : value < 256 ^ length) :
    ofLittleEndian (littleEndian length value) = value := by
  induction length generalizing value with
  | zero =>
    rw [Nat.pow_zero] at fits
    exact (Nat.lt_one_iff.mp fits).symm
  | succ length ih =>
    have high : value / 256 < 256 ^ length := by
      rw [Nat.pow_succ] at fits
      omega
    have byte : (UInt8.ofNat (value % 256)).toNat = value % 256 :=
      toNat_byte (by omega)
    rw [littleEndian, ofLittleEndian, ih high, byte]
    omega

namespace Field

theorem takeExactly_append (content rest : Bytes) :
    takeExactly content.length (content ++ rest) = some (content, rest) := by
  induction content with
  | nil => rfl
  | cons byte content ih => rw [List.cons_append, List.length_cons, takeExactly, ih]; rfl

/-! ## Single fields -/

/-- A field that a key can announce: its number fits, and it is no group. -/
structure Numbered (field : Field) : Prop where
  positive : field.number ≠ 0
  small : field.number < 2 ^ 29
  plain : field.value ≠ .group

/-- The length of the content of a field fits the bytes that it is written with. -/
def Short (field : Field) : Prop :=
  ∀ content, field.value = .bytes content → content.length < 2 ^ 64

theorem readKey_keyBytes {number wireType : Nat} (positive : number ≠ 0)
    (small : number < 2 ^ 29) (plain : wireType < 8) (rest : Bytes) :
    readKey (keyBytes number wireType ++ rest) = some (number, wireType, rest) := by
  have key : number * 8 + wireType < 2 ^ 64 := by omega
  have fits : ¬ Nat.pow 2 32 ≤ number * 8 + wireType := by
    show ¬ 2 ^ 32 ≤ number * 8 + wireType
    omega
  have quotient : (number * 8 + wireType) / 8 = number := by omega
  have remainder : (number * 8 + wireType) % 8 = wireType := by omega
  simp only [readKey, keyBytes, Varint.read_encode key, bind, Option.bind, if_neg fits, quotient,
    remainder, if_neg positive, pure]

/-- A field is written as a key and a body, from which its value is read. -/
theorem encode_parts {field : Field} (numbered : field.Numbered) (short : field.Short) :
    ∃ wireType body, field.encode = keyBytes field.number wireType ++ body ∧ wireType < 8 ∧
      wireType ≠ 3 ∧ ∀ rest, readPlain wireType (body ++ rest) = some (field.value, rest) := by
  obtain ⟨number, value⟩ := field
  cases value with
  | varint word =>
    refine ⟨0, Varint.encode word.toNat, rfl, by decide, by decide, fun rest => ?_⟩
    simp [readPlain, Varint.read_encode word.toNat_lt]
  | fixed64 word =>
    refine ⟨1, littleEndian 8 word.toNat, rfl, by decide, by decide, fun rest => ?_⟩
    have taken := takeExactly_append (littleEndian 8 word.toNat) rest
    rw [length_littleEndian] at taken
    have whole : ofLittleEndian (littleEndian 8 word.toNat) = word.toNat :=
      ofLittleEndian_littleEndian word.toNat_lt
    simp [readPlain, taken, whole]
  | bytes content =>
    refine ⟨2, Varint.encode content.length ++ content, rfl, by decide, by decide, fun rest => ?_⟩
    simp [readPlain, Varint.read_encode (short content rfl), takeExactly_append]
  | group => exact absurd rfl numbered.plain
  | fixed32 word =>
    refine ⟨5, littleEndian 4 word.toNat, rfl, by decide, by decide, fun rest => ?_⟩
    have taken := takeExactly_append (littleEndian 4 word.toNat) rest
    rw [length_littleEndian] at taken
    have whole : ofLittleEndian (littleEndian 4 word.toNat) = word.toNat :=
      ofLittleEndian_littleEndian word.toNat_lt
    simp [readPlain, taken, whole]

/-! ## Lists of fields -/

theorem keyBytes_ne_nil (number wireType : Nat) : keyBytes number wireType ≠ [] :=
  Varint.encode_ne_nil _

theorem readAll_step {nesting fuel : Nat} {bytes : Bytes} (more : bytes ≠ []) :
    readAll nesting (fuel + 1) bytes = (do
      let (number, wireType, rest) ← readKey bytes
      let (value, rest) ← readValue nesting number wireType rest
      let fields ← readAll nesting fuel rest
      return ⟨number, value⟩ :: fields) := by
  cases bytes with
  | nil => exact absurd rfl more
  | cons byte rest => rfl

theorem readAll_encodeFields {nesting fuel : Nat} {fields : List Field}
    (numbered : ∀ field ∈ fields, field.Numbered) (short : ∀ field ∈ fields, field.Short)
    (enough : fields.length ≤ fuel) :
    readAll nesting fuel (encodeFields fields) = some fields := by
  induction fields generalizing fuel with
  | nil => cases fuel <;> rfl
  | cons field fields ih =>
    obtain ⟨here, others⟩ := List.forall_mem_cons.mp numbered
    obtain ⟨shortHere, shortOthers⟩ := List.forall_mem_cons.mp short
    obtain ⟨fuel, rfl⟩ := Nat.exists_eq_add_of_le' (Nat.one_le_of_lt enough)
    obtain ⟨wireType, body, parts, plain, noGroup, reads⟩ := encode_parts here shortHere
    have bytes : encodeFields (field :: fields) =
        keyBytes field.number wireType ++ (body ++ encodeFields fields) := by
      rw [encodeFields, List.flatMap_cons, parts, List.append_assoc]
      rfl
    have more : encodeFields (field :: fields) ≠ [] := by
      rw [bytes]
      exact List.append_ne_nil_of_left_ne_nil (keyBytes_ne_nil _ _) _
    rw [readAll_step more, bytes, readKey_keyBytes here.positive here.small plain]
    simp only [readValue, if_neg noGroup, reads,
      ih others shortOthers (Nat.le_of_succ_le_succ enough),
      bind, Option.bind, pure]

theorem content_le {field : Field} {content : Bytes} (value : field.value = .bytes content) :
    content.length ≤ field.encode.length := by
  simp only [encode, value, List.length_append]
  omega

theorem encode_pos {field : Field} (numbered : field.Numbered) : 1 ≤ field.encode.length := by
  have key (wireType : Nat) := List.length_pos_iff.mpr (keyBytes_ne_nil field.number wireType)
  unfold encode
  cases value : field.value with
  | group => exact absurd value numbered.plain
  | varint | fixed64 | bytes | fixed32 =>
    simp only [List.length_append]
    exact Nat.le_add_right_of_le (key _)

theorem encode_le {field : Field} {fields : List Field} (member : field ∈ fields) :
    field.encode.length ≤ (encodeFields fields).length := by
  obtain ⟨before, after, rfl⟩ := List.append_of_mem member
  simp only [encodeFields, List.flatMap_append, List.flatMap_cons, List.length_append]
  omega

theorem length_le {fields : List Field} (numbered : ∀ field ∈ fields, field.Numbered) :
    fields.length ≤ (encodeFields fields).length := by
  induction fields with
  | nil => exact Nat.zero_le _
  | cons field fields ih =>
    obtain ⟨here, others⟩ := List.forall_mem_cons.mp numbered
    have one := encode_pos here
    have rest := ih others
    rw [encodeFields] at rest ⊢
    rw [List.flatMap_cons, List.length_append, List.length_cons]
    omega

theorem short_of_encodeFields {fields : List Field}
    (short : (encodeFields fields).length < 2 ^ 64) : ∀ field ∈ fields, field.Short := by
  intro field member content value
  exact Nat.lt_of_le_of_lt (Nat.le_trans (content_le value) (encode_le member)) short

/-- Fields that are joined and split again are the same, when all of them together take fewer
bytes than a length can tell. -/
theorem parse_encodeFields {nesting : Nat} {fields : List Field}
    (numbered : ∀ field ∈ fields, field.Numbered) (short : (encodeFields fields).length < 2 ^ 64) :
    parse nesting (encodeFields fields) = some fields :=
  readAll_encodeFields numbered (short_of_encodeFields short) (length_le numbered)

end Field

end ConfigWatch.Wire

import ConfigWatch.Proofs.Wire.Fields
import ConfigWatch.Wire.Message
import Mathlib.Data.List.Basic

/-!
# Messages there and back

What a message is written to is read part by part: each part that was left out is the one that the
initial message has, and each part that was sent replaces it. So a message arrives as it was sent,
but for a double that is zero, which has lost its sign.
-/

set_option autoImplicit false

namespace ConfigWatch

/-- What arrives of a double: a zero is positive. -/
def Double.unsignZero (double : Double) : Double := if double.isZero then zero else double

namespace Wire

/-! ## Scalars -/

/-- How the scalars of a type travel: one that is left out is the default, and every other is read
from the field that it was written to. -/
def Travels {β : Type} (write : Nat → β → List Field) (read? : FieldValue → Option β)
    (default : β) (arrives : β → β) : Prop :=
  ∀ number content, (write number content = [] ∧ arrives content = default) ∨
    ∃ value, write number content = [⟨number, value⟩] ∧ value ≠ .group ∧
      read? value = some (arrives content)

theorem uint32_travels : Travels Field.ofUInt32 FieldValue.uint32? 0 id := by
  intro number word
  by_cases zero : word = 0
  · exact .inl ⟨if_pos zero, zero⟩
  · refine .inr ⟨_, if_neg zero, by simp, ?_⟩
    simp [FieldValue.uint32?, FieldValue.word?]

theorem uint64_travels : Travels Field.ofUInt64 FieldValue.uint64? 0 id := by
  intro number word
  by_cases zero : word = 0
  · exact .inl ⟨if_pos zero, zero⟩
  · exact .inr ⟨_, if_neg zero, by simp, rfl⟩

/-- The low half of a word is kept when its sign is spread over the high half. -/
theorem int32_extended (word : Int32) : word.toInt64.toUInt64.toUInt32.toInt32 = word := by
  apply Int32.toBitVec_inj.mp
  show (word.toBitVec.signExtend 64).setWidth 32 = word.toBitVec
  apply BitVec.eq_of_getLsbD_eq
  intro place low
  simp only [BitVec.getLsbD_setWidth, BitVec.getLsbD_signExtend, low, decide_true, Bool.true_and,
    if_true]
  have wide : place < 64 := by omega
  simp [wide]

theorem int32_travels : Travels Field.ofInt32 FieldValue.int32? 0 id := by
  intro number word
  by_cases zero : word = 0
  · exact .inl ⟨if_pos zero, zero⟩
  · refine .inr ⟨_, if_neg zero, by simp, ?_⟩
    exact congrArg some (int32_extended word)

theorem int64_travels : Travels Field.ofInt64 FieldValue.int64? 0 id := by
  intro number word
  by_cases zero : word = 0
  · exact .inl ⟨if_pos zero, zero⟩
  · refine .inr ⟨_, if_neg zero, by simp, ?_⟩
    exact congrArg some (Int64.toInt64_toUInt64 word)

theorem bool_travels : Travels Field.ofBool FieldValue.bool? false id := by
  intro number truth
  cases truth with
  | false => exact .inl ⟨rfl, rfl⟩
  | true => exact .inr ⟨_, rfl, by simp, rfl⟩

theorem double_travels :
    Travels Field.ofDouble FieldValue.double? Double.zero Double.unsignZero := by
  intro number double
  by_cases zero : double.isZero = true
  · exact .inl ⟨if_pos zero, if_pos zero⟩
  · refine .inr ⟨_, if_neg zero, by simp, ?_⟩
    rw [Double.unsignZero, if_neg zero]
    rfl

theorem bytes_travel : Travels Field.ofBytes FieldValue.bytes? [] id := by
  intro number content
  by_cases empty : content = []
  · exact .inl ⟨if_pos empty, empty⟩
  · exact .inr ⟨_, if_neg empty, by simp, rfl⟩

theorem text?_encode (text : String) : (FieldValue.bytes (Utf8.encode text)).text? = some text :=
  dif_pos text.isValidUTF8

theorem encode_eq_nil {text : String} (empty : Utf8.encode text = []) : text = "" := by
  have read := text?_encode text
  rw [empty] at read
  exact (Option.some.inj ((text?_encode "").symm.trans read)).symm

theorem text_travels : Travels Field.ofText FieldValue.text? "" id := by
  intro number text
  by_cases empty : Utf8.encode text = []
  · exact .inl ⟨if_pos empty, encode_eq_nil empty⟩
  · exact .inr ⟨_, if_neg empty, by simp, text?_encode text⟩

/-! ## Messages -/

section Parts

variable {α β : Type}

/-- A message with one part replaced. By its name the message is mentioned once only, while the
parts that stay would mention it once each. -/
def put (set : α → β → α) (message : α) (content : β) : α := set message content

/-- A part of a message that has its default so far, with what its number does to a message. -/
structure Part (number : Nat) (get : α → β) (set : α → β → α) (before : α) (default : β)
    (merges : Prop) : Prop where
  room : decide (number ≠ 0 ∧ number < 2 ^ 29) = true
  kept : ∀ read, put set read (get read) = read
  fresh : get before = default
  merges : merges

variable {number : Nat} {get : α → β} {set : α → β → α} {before : α} {default : β} {merges : Prop}

theorem Part.absent (part : Part number get set before default merges) :
    put set before default = before := by
  rw [← part.fresh, part.kept]

theorem Part.numbered (part : Part number get set before default merges) {value : FieldValue}
    (plain : value ≠ .group) : Field.Numbered ⟨number, value⟩ := by
  obtain ⟨positive, small⟩ := of_decide_eq_true part.room
  exact ⟨positive, small, plain⟩

end Parts

section Messages

variable {α : Type} [Message α] {nesting : Nat}

/-- A message that is encoded and read again is what arrives of it. -/
def Arrives (nesting : Nat) (arrives : α → α) : Prop :=
  ∀ message : α, (Message.encode message).length < 2 ^ 64 →
    Message.mergeBytes nesting Message.initial (Message.encode message) = some (arrives message)

/-- Fields that can be written, and that lead from a message read so far to another. -/
structure Leads (nesting : Nat) (fields : List Field) (before after : α) : Prop where
  numbered : ∀ field ∈ fields, field.Numbered
  merged : (∀ field ∈ fields, field.Short) →
    fields.foldlM (Message.merge nesting) before = some after

theorem Arrives.of_leads {arrives : α → α}
    (leads : ∀ message, Leads nesting (Message.fields message) Message.initial (arrives message)) :
    Arrives nesting arrives := by
  intro message short
  obtain ⟨numbered, merged⟩ := leads message
  have parsed : Field.parse nesting (Message.encode message) = some (Message.fields message) :=
    Field.parse_encodeFields numbered short
  rw [Message.mergeBytes, parsed]
  exact merged (Field.short_of_encodeFields short)

namespace Leads

variable {fields : List Field} {origin before : α}

theorem none : Leads nesting [] origin origin :=
  ⟨by simp, fun _ => rfl⟩

variable (α nesting) in
/-- Nothing is read so far. -/
theorem start : Leads nesting [] (Message.initial : α) Message.initial := none

theorem one {field : Field} {after : α} (numbered : field.Numbered)
    (merged : field.Short → Message.merge nesting before field = some after) :
    Leads nesting [field] before after := by
  refine ⟨by simpa using numbered, fun short => ?_⟩
  rw [List.foldlM_cons, merged (short field List.mem_cons_self)]
  rfl

theorem append {later : List Field} {after : α} (first : Leads nesting fields origin before)
    (second : Leads nesting later before after) : Leads nesting (fields ++ later) origin after := by
  constructor
  case numbered =>
    intro field member
    rcases List.mem_append.mp member with here | there
    · exact first.numbered field here
    · exact second.numbered field there
  case merged =>
    intro short
    obtain ⟨shortFirst, shortLater⟩ := List.forall_mem_append.mp short
    rw [List.foldlM_append, first.merged shortFirst]
    exact second.merged shortLater

theorem reaches {after : α} (leads : Leads nesting fields origin before) (same : before = after) :
    Leads nesting fields origin after :=
  same ▸ leads

/-- A scalar part arrives, when its number sets it and the message read so far has its default. -/
theorem scalar {β : Type} {write : Nat → β → List Field} {read? : FieldValue → Option β}
    {default : β} {arrives : β → β} (sofar : Leads nesting fields origin before)
    (travels : Travels write read? default arrives) (number : Nat) (message : α) (get : α → β)
    (set : α → β → α) (part : Part number get set before default
      (∀ read value, Message.merge nesting read ⟨number, value⟩ =
        (read? value).map (put set read))) :
    Leads nesting (fields ++ write number (get message)) origin
      (put set before (arrives (get message))) := by
  refine sofar.append ?_
  rcases travels number (get message) with ⟨left, same⟩ | ⟨value, sent, plain, read⟩
  · rw [left, same, part.absent]
    exact none
  · rw [sent]
    refine one (part.numbered plain) (fun _ => ?_)
    rw [part.merges, read]
    rfl

/-- The contents of a repeated part arrive one after the other. -/
theorem repeated {β γ : Type} {write : γ → Field} {arrives : γ → β}
    (sofar : Leads nesting fields origin before) (set : α → List β → α) {contents : List γ}
    (numbered : ∀ content, (write content).Numbered) (absent : put set before [] = before)
    (merges : ∀ held content, (write content).Short →
      Message.merge nesting (put set before held) (write content) =
        some (put set before (held ++ [arrives content]))) :
    Leads nesting (fields ++ contents.map write) origin
      (put set before (contents.map arrives)) := by
  refine sofar.append ?_
  have onwards (held : List β) :
      Leads nesting (contents.map write) (put set before held)
        (put set before (held ++ contents.map arrives)) := by
    induction contents generalizing held with
    | nil =>
      rw [List.map_nil, List.map_nil, List.append_nil]
      exact none
    | cons content contents ih =>
      have here := one (numbered content) (merges held content)
      have later := ih (held ++ [arrives content])
      rw [List.append_assoc] at later
      exact here.append later
  have all := onwards []
  rwa [absent] at all

theorem texts (sofar : Leads nesting fields origin before) (number : Nat) (message : α)
    (get : α → List String) (set : α → List String → α)
    (part : Part number get set before []
      (∀ read held value, Message.merge nesting (put set read held) ⟨number, value⟩ =
        value.text?.map (fun text => put set read (held ++ [text])))) :
    Leads nesting (fields ++ Field.ofTexts number (get message)) origin
      (put set before (get message)) := by
  have merged (held : List String) (text : String) : Message.merge nesting (put set before held)
      ⟨number, .bytes (Utf8.encode text)⟩ = some (put set before (held ++ [id text])) := by
    rw [part.merges, text?_encode]
    rfl
  have all : Leads nesting (fields ++ Field.ofTexts number (get message)) origin
      (put set before ((get message).map id)) :=
    sofar.repeated set (fun _ => part.numbered (by simp)) part.absent
      (fun held text _ => merged held text)
  rwa [List.map_id] at all

section Embedded

variable {β : Type} [Message β] {arrives : β → β}

theorem message?_encode (whole : Arrives nesting arrives) {number : Nat} (message : β)
    (short : Field.Short (Field.ofMessage number message)) :
    (FieldValue.bytes (Message.encode message)).message? (nesting + 1) Option.none =
      some (arrives message) := by
  rw [FieldValue.message?, if_neg (Nat.succ_ne_zero nesting)]
  exact whole message (short _ rfl)

theorem messages (sofar : Leads (nesting + 1) fields origin before)
    (whole : Arrives nesting arrives) (number : Nat) (message : α) (get : α → List β)
    (set : α → List β → α) (part : Part number get set before []
      (∀ read held value, Message.merge (nesting + 1) (put set read held) ⟨number, value⟩ =
        (value.message? (nesting + 1) Option.none).map
          (fun content => put set read (held ++ [content])))) :
    Leads (nesting + 1) (fields ++ (get message).map (Field.ofMessage number)) origin
      (put set before ((get message).map arrives)) := by
  refine sofar.repeated set (fun content => part.numbered (by simp)) part.absent ?_
  intro held content short
  rw [Field.ofMessage, part.merges, message?_encode whole content short]
  rfl

theorem message (sofar : Leads (nesting + 1) fields origin before)
    (whole : Arrives nesting arrives) (number : Nat) (message : α) (get : α → Option β)
    (set : α → Option β → α) (part : Part number get set before Option.none
      (∀ read value, Message.merge (nesting + 1) (put set read Option.none) ⟨number, value⟩ =
        (value.message? (nesting + 1) Option.none).map
          (fun content => put set read (some content)))) :
    Leads (nesting + 1) (fields ++ (get message).toList.map (Field.ofMessage number)) origin
      (put set before ((get message).map arrives)) := by
  refine sofar.append ?_
  cases get message with
  | none =>
    show Leads (nesting + 1) [] before (put set before Option.none)
    rw [part.absent]
    exact none
  | some content =>
    refine one (part.numbered (by simp)) (fun short => ?_)
    have merged := part.merges before (.bytes (Message.encode content))
    rw [part.absent, message?_encode whole content short] at merged
    exact merged

end Embedded

end Leads

end Messages

end Wire

end ConfigWatch

import ConfigWatch.Text.Quoted
import Mathlib.Data.List.Basic

/-!
# Quoted text ends by itself

What quoted text says does not depend on what follows it: two quoted texts that begin the same
line quote the same string and leave the same rest. No part of an escape can be taken for the
closing quote, and no escape for the start of another.
-/

set_option autoImplicit false

namespace ConfigWatch

/-- A run of characters of some kind ends at the first that is of another. -/
theorem run_append_inj {belongs : Char → Bool} {left right rest other : List Char}
    (leftRun : ∀ c ∈ left, belongs c = true) (rightRun : ∀ c ∈ right, belongs c = true)
    (restEnds : ∀ c ∈ rest.head?, belongs c = false)
    (otherEnds : ∀ c ∈ other.head?, belongs c = false)
    (same : left ++ rest = right ++ other) : left = right ∧ rest = other := by
  have ended (list : List Char) (ends : ∀ c ∈ list.head?, belongs c = false) :
      list.takeWhile belongs = [] := by
    cases list with
    | nil => rfl
    | cons first later => rw [List.takeWhile_cons, if_neg (by simp [ends first rfl])]
  have runs := congrArg (List.takeWhile belongs) same
  rw [List.takeWhile_append_of_pos leftRun, List.takeWhile_append_of_pos rightRun,
    ended rest restEnds, ended other otherEnds, List.append_nil, List.append_nil] at runs
  subst runs
  exact ⟨rfl, List.append_cancel_left same⟩

/-! ## Numerals -/

namespace Hex

private theorem digitChar_inj {left right : Nat} (leftSmall : left < 16) (rightSmall : right < 16)
    (same : left.digitChar = right.digitChar) : left = right := by
  have all : ∀ left < 16, ∀ right < 16, left.digitChar = right.digitChar → left = right := by
    decide
  exact all left leftSmall right rightSmall same

private theorem digits_ne_single {base number : Nat} {last only : Char} :
    Nat.toDigits base number ++ [last] ≠ [only] := by
  intro same
  have lengths := congrArg List.length same
  rw [List.length_append] at lengths
  exact Nat.toDigits_ne_nil (List.length_eq_zero_iff.mp (Nat.succ.inj lengths))

/-- Different numbers have different digits. -/
theorem toDigits_inj {base left right : Nat} (several : 1 < base) (known : base ≤ 16)
    (same : Nat.toDigits base left = Nat.toDigits base right) : left = right := by
  induction left using Nat.strongRecOn generalizing right with
  | ind left ih =>
    have last (number : Nat) : number % base < 16 :=
      Nat.lt_of_lt_of_le (Nat.mod_lt _ (Nat.lt_trans Nat.one_pos several)) known
    rw [Nat.toDigits_eq_if (n := left) several, Nat.toDigits_eq_if (n := right) several] at same
    split at same
    · next leftSmall =>
      split at same
      · next rightSmall =>
        exact digitChar_inj (Nat.lt_of_lt_of_le leftSmall known)
          (Nat.lt_of_lt_of_le rightSmall known) (List.cons.inj same).1
      · exact absurd same.symm digits_ne_single
    · next leftLarge =>
      split at same
      · exact absurd same digits_ne_single
      · obtain ⟨high, low⟩ := List.append_inj' same rfl
        have smaller : left / base < left := Nat.div_lt_self (by omega) several
        have quotients := ih (left / base) smaller high
        have rests := digitChar_inj (last left) (last right) (List.cons.inj low).1
        rw [← Nat.div_add_mod left base, quotients, rests, Nat.div_add_mod]

theorem ne_brace_of_mem_numeral {number : Nat} {c : Char} (member : c ∈ numeral number) :
    c ≠ '\x7d' := by
  induction number using Nat.strongRecOn with
  | ind number ih =>
    rw [numeral, Nat.toDigits_eq_if (by decide)] at member
    split at member
    · exact List.mem_singleton.mp member ▸ Nat.digitChar_ne '\x7d' (by decide)
    · cases List.mem_append.mp member with
      | inl high => exact ih (number / 16) (by omega) high
      | inr low => exact List.mem_singleton.mp low ▸ Nat.digitChar_ne '\x7d' (by decide)

end Hex

/-! ## Escapes -/

namespace Quoted

/-- The character that a letter after a backslash means. -/
def meaning (letter : Char) : Char :=
  if letter = 't' then '\t'
  else if letter = 'n' then '\n'
  else if letter = 'r' then '\r'
  else if letter = '0' then '\x00'
  else letter

/-- The three ways to write a character: as it is, as a letter after a backslash, or by its code. -/
inductive Writes (c : Char) : List Char → Prop where
  | plain : c ≠ '\\' → c ≠ '"' → Writes c [c]
  | short {letter : Char} : letter ≠ 'u' → meaning letter = c → Writes c ['\\', letter]
  | code : Writes c ('\\' :: 'u' :: '\x7b' :: (Hex.numeral c.toNat ++ ['\x7d']))

theorem writes_escape (c : Char) : Writes c (escape c) := by
  unfold escape
  split
  · next same => exact .short (by decide) same.symm
  · next unquoted =>
    split
    · next same => exact .short (by decide) same.symm
    · next unslashed =>
      split
      · next same => exact .short (by decide) same.symm
      · split
        · next same => exact .short (by decide) same.symm
        · split
          · next same => exact .short (by decide) same.symm
          · split
            · next same => exact .short (by decide) same.symm
            · split
              · exact .code
              · exact .plain unslashed unquoted

variable {left right : Char} {leftChars rightChars rest other : List Char}

/-- Of two ways to write characters neither is the beginning of the other. -/
theorem Writes.unique (first : Writes left leftChars) (second : Writes right rightChars)
    (same : leftChars ++ rest = rightChars ++ other) : left = right ∧ rest = other := by
  cases first with
  | plain leftSlash leftQuote =>
    cases second with
    | plain => exact List.cons.inj same
    | short | code => exact absurd (List.cons.inj same).1 leftSlash
  | short leftLong leftMeans =>
    cases second with
    | plain rightSlash => exact absurd (List.cons.inj same).1.symm rightSlash
    | short _ rightMeans =>
      obtain ⟨letters, rests⟩ := List.cons.inj (List.cons.inj same).2
      exact ⟨by rw [← leftMeans, ← rightMeans, letters], rests⟩
    | code => exact absurd (List.cons.inj (List.cons.inj same).2).1 leftLong
  | code =>
    cases second with
    | plain rightSlash => exact absurd (List.cons.inj same).1.symm rightSlash
    | short rightLong => exact absurd (List.cons.inj (List.cons.inj same).2).1.symm rightLong
    | code =>
      simp only [List.cons_append, List.append_assoc, List.nil_append, List.cons.injEq,
        true_and] at same
      have digits (number : Nat) : ∀ c ∈ Hex.numeral number, (c != '\x7d') = true := by
        intro c member
        exact bne_iff_ne.mpr (Hex.ne_brace_of_mem_numeral member)
      have closes (later : List Char) : ∀ c ∈ ('\x7d' :: later).head?, (c != '\x7d') = false := by
        intro c first
        obtain rfl := Option.some.inj first
        rfl
      obtain ⟨codes, rests⟩ :=
        run_append_inj (digits _) (digits _) (closes _) (closes _) same
      have numbers := Hex.toDigits_inj (by decide) (by decide) codes
      exact ⟨Char.toNat_inj.mp numbers, (List.cons.inj rests).2⟩

/-- The closing quote begins no escape. -/
theorem Writes.open (written : Writes left leftChars) : leftChars ++ rest ≠ '"' :: other := by
  intro same
  cases written with
  | plain _ unquoted => exact unquoted (List.cons.inj same).1
  | short | code => exact absurd (List.cons.inj same).1 (by decide)

/-- Two quoted texts that begin the same line quote the same string and leave the same rest. -/
theorem chars_append_inj {left right : String}
    (same : chars left ++ rest = chars right ++ other) : left = right ∧ rest = other := by
  have inside (left right : List Char)
      (same : left.flatMap escape ++ '"' :: rest = right.flatMap escape ++ '"' :: other) :
      left = right ∧ rest = other := by
    induction left generalizing right with
    | nil =>
      cases right with
      | nil => exact ⟨rfl, (List.cons.inj same).2⟩
      | cons c later =>
        rw [List.flatMap_cons, List.append_assoc] at same
        exact absurd same.symm (writes_escape c).open
    | cons c earlier ih =>
      rw [List.flatMap_cons, List.append_assoc] at same
      cases right with
      | nil => exact absurd same (writes_escape c).open
      | cons d later =>
        rw [List.flatMap_cons, List.append_assoc] at same
        obtain ⟨rfl, onwards⟩ := (writes_escape c).unique (writes_escape d) same
        obtain ⟨rfl, rests⟩ := ih later onwards
        exact ⟨rfl, rests⟩
  simp only [chars, List.cons_append, List.append_assoc, List.nil_append, List.cons.injEq,
    true_and] at same
  obtain ⟨letters, rests⟩ := inside left.toList right.toList same
  exact ⟨String.toList_inj.mp letters, rests⟩

end Quoted

end ConfigWatch

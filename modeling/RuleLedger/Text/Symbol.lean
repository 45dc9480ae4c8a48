/-! The symbols that texts are made of. Beside the characters, a document may name half of a pair of
16-bit units without the other half. Such a half has a number of its own, which no character has,
so that a symbol is told by its number. -/
namespace RuleLedger

/-- Half of a pair of 16-bit units. -/
structure Surrogate where
  number : Nat
  isHalf : 0xD800 ≤ number ∧ number < 0xE000
deriving Repr, DecidableEq

inductive Symbol where
  | char (c : Char)
  /-- A half that stands alone. -/
  | half (s : Surrogate)
deriving Repr, DecidableEq

instance : Inhabited Symbol := ⟨.char ' '⟩

instance : Coe Char Symbol := ⟨.char⟩

namespace Symbol

/-- The number of a symbol. -/
def code : Symbol → Nat
  | char c => c.toNat
  | half s => s.number

/-- The symbol of a number. -/
def ofCode (n : Nat) : Symbol :=
  if h : 0xD800 ≤ n ∧ n < 0xE000 then .half ⟨n, h⟩ else .char (Char.ofNat n)

/-- The character that a symbol is. -/
def char? : Symbol → Option Char
  | char c => some c
  | half _ => none

/-- Whether a symbol is a character of a class. -/
def isIn (p : Char → Bool) : Symbol → Bool
  | char c => p c
  | half _ => false

theorem code_ofCode {n : Nat} (h : n < 0x110000) : (ofCode n).code = n := by
  unfold ofCode
  split
  · rfl
  · have hv : n.isValidChar := by
      unfold Nat.isValidChar
      omega
    rw [code, Char.ofNat, dif_pos hv]
    rfl

theorem not_isHalf_toNat (c : Char) : ¬(0xD800 ≤ c.toNat ∧ c.toNat < 0xE000) := by
  have h : c.toNat.isValidChar := c.valid
  unfold Nat.isValidChar at h
  omega

@[simp] theorem ofCode_code (s : Symbol) : ofCode s.code = s := by
  cases s with
  | char c => simp [ofCode, code, not_isHalf_toNat]
  | half s => simp [ofCode, code, s.isHalf]

/-- Symbols are told apart by their numbers. -/
theorem code_injective {a b : Symbol} (h : a.code = b.code) : a = b := by
  rw [← ofCode_code a, h, ofCode_code]

end Symbol
end RuleLedger

import PackedScript.Numeral.Positional

/-!
# Numerals in the bases of a packer

A packer writes the place of a word in the symbol table as a numeral. The base decides what the
digits are:

* up to 36, the ten digits and then the letters without regard to case, and one leading `+` is
  ignored;
* from 37 to 62, the ten digits, the small letters and the capital letters, in this order;
* from 63 to 95, the printable characters from the space on.

A declared radix of 0 means 36, and 1 or anything above 95 is no base.
-/

namespace PackedScript

/-- Which characters are digits, and in what order. -/
inductive DigitOrder where
  /-- The digits `0` to `9` and the letters, small or capital. -/
  | caseless
  /-- The digits `0` to `9`, then the small letters, then the capital ones. -/
  | alphanumeric
  /-- The characters from the space to the tilde. -/
  | printable
  deriving DecidableEq, Repr

namespace DigitOrder

/-- The place of a character in the order. -/
def value? : DigitOrder → Char → Option Nat
  | .caseless, c =>
    if '0' ≤ c ∧ c ≤ '9' then some (c.toNat - '0'.toNat)
    else if 'a' ≤ c ∧ c ≤ 'z' then some (c.toNat - 'a'.toNat + 10)
    else if 'A' ≤ c ∧ c ≤ 'Z' then some (c.toNat - 'A'.toNat + 10)
    else none
  | .alphanumeric, c =>
    if '0' ≤ c ∧ c ≤ '9' then some (c.toNat - '0'.toNat)
    else if 'a' ≤ c ∧ c ≤ 'z' then some (c.toNat - 'a'.toNat + 10)
    else if 'A' ≤ c ∧ c ≤ 'Z' then some (c.toNat - 'A'.toNat + 36)
    else none
  | .printable, c =>
    if ' ' ≤ c ∧ c ≤ '~' then some (c.toNat - ' '.toNat) else none

end DigitOrder

/-- A base between 2 and 95 (`Unbaser`). -/
structure Radix where
  base : Nat
  two_le_base : 2 ≤ base := by decide
  base_le : base ≤ 95 := by decide

namespace Radix

/-- The base that a declared radix stands for. -/
def ofDeclared? (declared : Nat) : Option Radix :=
  if declared = 0 then some ⟨36, by decide, by decide⟩
  else if h : 2 ≤ declared ∧ declared ≤ 95 then some ⟨declared, h.1, h.2⟩
  else none

/-- The digits of the base. -/
def order (r : Radix) : DigitOrder :=
  if r.base ≤ 36 then .caseless else if r.base ≤ 62 then .alphanumeric else .printable

/-- The value of a digit of the base. -/
def digit? (r : Radix) (c : Char) : Option Nat := (r.order.value? c).filter (· < r.base)

/-- The numeral without the `+` that bases up to 36 allow in front of it. -/
def unsigned (r : Radix) : Text → Text
  | '+' :: c :: rest => if r.base ≤ 36 then c :: rest else '+' :: c :: rest
  | t => t

/-- The number that a numeral of the base stands for (`unbase`). -/
def decode (r : Radix) (t : Text) : Except NumeralError Nat :=
  Numeral.positional Numeral.sizeLimit r.base r.digit? (r.unsigned t)

theorem ofDeclared?_eq_none_iff {declared : Nat} :
    ofDeclared? declared = none ↔ declared = 1 ∨ 95 < declared := by
  unfold ofDeclared?
  split
  · simp_all
  · split <;> simp <;> omega

theorem base_of_ofDeclared? {declared : Nat} {r : Radix} (h : ofDeclared? declared = some r) :
    r.base = if declared = 0 then 36 else declared := by
  unfold ofDeclared? at h
  split at h
  · cases h; simp_all
  · split at h
    · cases h; simp_all
    · simp at h

/-- A base is declared by itself. -/
theorem ofDeclared?_base (r : Radix) : ofDeclared? r.base = some r := by
  have htwo := r.two_le_base
  rw [ofDeclared?, if_neg (by omega), dif_pos ⟨htwo, r.base_le⟩]

end Radix

end PackedScript

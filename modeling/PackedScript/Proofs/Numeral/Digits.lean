import PackedScript.Proofs.Numeral.Written

/-!
# The digits of a base in a row

The digits of a base are the first characters of a row: up to 62 the row is `alphabet`, from 63 on
it is `printable`. The value of a digit is its place in the row, where the bases up to 36 look up
capital letters as small ones (`digit?_eq_place?`). A row gives each of its characters its own place
back, so a base reads its digits as it writes them (`place?_digit`), and characters beyond the first
128 are no digits of any base (`digit?_eq_none`).
-/

namespace PackedScript

/-! ## Characters beyond the first 128 -/

theorem not_le_of_toNat {c d : Char} (hc : 128 ≤ c.toNat) (hd : d.toNat < 128) : ¬c ≤ d := by
  intro hle
  have hnat : c.toNat ≤ d.toNat := UInt32.le_iff_toNat_le.mp hle
  omega

theorem toLower_of_toNat {c : Char} (hc : 128 ≤ c.toNat) : c.toLower = c := by
  unfold Char.toLower
  split
  · next h =>
    have hle : c ≤ 'Z' := h.2
    exact absurd hle (not_le_of_toNat hc (by decide))
  · rfl

namespace DigitOrder

theorem value?_eq_none (order : DigitOrder) {c : Char} (hc : 128 ≤ c.toNat) :
    order.value? c = none := by
  have h9 := not_le_of_toNat hc (by decide : '9'.toNat < 128)
  have hz := not_le_of_toNat hc (by decide : 'z'.toNat < 128)
  have hZ := not_le_of_toNat hc (by decide : 'Z'.toNat < 128)
  have htilde := not_le_of_toNat hc (by decide : '~'.toNat < 128)
  cases order with
  | caseless => simp [value?, h9, hz, hZ]
  | alphanumeric => simp [value?, h9, hz, hZ]
  | printable => simp [value?, htilde]

end DigitOrder

namespace Numeral

/-! ## Rows -/

/-- The printable characters among the first 128: from the space to the tilde. -/
def printable : Text := (List.range 95).map fun d => Char.ofNat (' '.toNat + d)

/-- An order whose values are the places in a row, as far as the first 128 characters go, looks up
characters in the row. -/
theorem value?_eq_idxOf? (order : DigitOrder) (row : Text)
    (hread : ∀ d < row.length, order.value? (row.getD d '0') = some d)
    (hwrite : ∀ n < 128, ∀ d ∈ order.value? (Char.ofNat n), row[d]? = some (Char.ofNat n))
    (c : Char) : order.value? c = row.idxOf? c := by
  have hplace : ∀ (d : Nat) (hd : d < row.length), order.value? row[d] = some d := by
    intro d hd
    simpa [hd] using hread d hd
  symm
  cases hc : order.value? c with
  | none =>
    rw [List.idxOf?_eq_none_iff]
    intro hmem
    obtain ⟨d, hd, rfl⟩ := List.getElem_of_mem hmem
    rw [hplace d hd] at hc
    cases hc
  | some d =>
    have hlow : c.toNat < 128 := by
      by_contra hge
      rw [order.value?_eq_none (by omega)] at hc
      cases hc
    have hrow := hwrite c.toNat hlow d
    rw [Char.ofNat_toNat] at hrow
    obtain ⟨hd, rfl⟩ := List.getElem?_eq_some_iff.mp (hrow hc)
    rw [List.idxOf?_eq_some_iff]
    refine ⟨hd, rfl, ?_⟩
    intro j hj heq
    -- the same character at an earlier place would have that place for its value
    have hearlier := hplace j (by omega)
    rw [heq, hc] at hearlier
    have hdj := Option.some.inj hearlier
    omega

theorem value?_alphanumeric (c : Char) :
    DigitOrder.alphanumeric.value? c = alphabet.idxOf? c := by
  refine value?_eq_idxOf? .alphanumeric alphabet (fun d hd => ?_) ?_ c
  · rw [length_alphabet] at hd
    exact value?_alphanumeric_symbol d hd
  · rw [alphabet_eq]
    decide +kernel

theorem length_printable : printable.length = 95 := by
  rw [printable, List.length_map, List.length_range]

theorem value?_printable_getD :
    ∀ d < 95, DigitOrder.printable.value? (printable.getD d '0') = some d := by
  decide +kernel

theorem value?_printable (c : Char) : DigitOrder.printable.value? c = printable.idxOf? c := by
  refine value?_eq_idxOf? .printable printable (fun d hd => ?_) (by decide +kernel) c
  rw [length_printable] at hd
  exact value?_printable_getD d hd

/-- Without regard to case, a capital letter has the value of the small one. -/
theorem value?_caseless (c : Char) : DigitOrder.caseless.value? c = alphabet.idxOf? c.toLower := by
  rw [← value?_alphanumeric]
  rcases Nat.lt_or_ge c.toNat 128 with hlow | hhigh
  · have hfirst : ∀ n < 128, DigitOrder.caseless.value? (Char.ofNat n)
        = DigitOrder.alphanumeric.value? (Char.ofNat n).toLower := by
      decide +kernel
    have hc := hfirst c.toNat hlow
    rwa [Char.ofNat_toNat] at hc
  · rw [toLower_of_toNat hhigh, DigitOrder.value?_eq_none _ hhigh,
      DigitOrder.value?_eq_none _ hhigh]

/-- A place in the front part of a row is a place in the row that lies there. -/
theorem idxOf?_take (row : Text) (length : Nat) (c : Char) :
    (row.take length).idxOf? c = (row.idxOf? c).filter (· < length) := by
  unfold List.idxOf?
  rw [List.findIdx?_take]
  cases row.findIdx? (· == c) with
  | none => rfl
  | some i =>
    show Option.guard (· < length) i = (some i).filter (· < length)
    rw [Option.guard_eq_filter]

end Numeral

namespace Radix

open Numeral

/-! ## The digits of a base -/

/-- The row that the digits of the base are taken from. -/
def row (r : Radix) : Text := if r.base ≤ 62 then alphabet else printable

/-- The digits of the base by value. -/
def digits (r : Radix) : Text := r.row.take r.base

/-- A character as the base looks it up: up to 36, capital letters are looked up as small ones. -/
def plain (r : Radix) (c : Char) : Char := if r.base ≤ 36 then c.toLower else c

/-- The place of a character among the digits of the base. -/
def place? (r : Radix) (c : Char) : Option Nat := r.digits.idxOf? (r.plain c)

/-- The character of a digit of the base. -/
def digit (r : Radix) (d : Nat) : Char := r.digits.getD d '0'

/-- The value of a digit is its place. -/
theorem digit?_eq_place? (r : Radix) : r.digit? = r.place? := by
  funext c
  unfold digit? place? digits plain order row
  rw [idxOf?_take]
  by_cases hsmall : r.base ≤ 36
  · have hle : r.base ≤ 62 := by omega
    simp only [if_pos hsmall, if_pos hle, value?_caseless]
  · by_cases hle : r.base ≤ 62
    · simp only [if_neg hsmall, if_pos hle, value?_alphanumeric]
    · simp only [if_neg hsmall, if_neg hle, value?_printable]

theorem digit?_eq_none (r : Radix) {c : Char} (hc : 128 ≤ c.toNat) : r.digit? c = none := by
  rw [digit?, DigitOrder.value?_eq_none _ hc]
  rfl

section

variable (r : Radix) {d : Nat}

theorem length_digits : r.digits.length = r.base := by
  have hle := r.base_le
  have hrow : r.base ≤ r.row.length := by
    unfold row
    split
    · next h62 => rwa [length_alphabet]
    · rwa [length_printable]
  rw [digits, List.length_take]
  omega

theorem digit_eq_getD (hd : d < r.base) : r.digit d = r.row.getD d '0' := by
  rw [digit, digits, List.getD_eq_getElem?_getD, List.getElem?_take_of_lt hd,
    List.getD_eq_getElem?_getD]

/-- A row gives each of its characters its own place back. -/
theorem idxOf?_row (hd : d < r.base) : r.row.idxOf? (r.row.getD d '0') = some d := by
  have hle := r.base_le
  unfold row
  by_cases h62 : r.base ≤ 62
  · rw [if_pos h62, ← value?_alphanumeric]
    exact value?_alphanumeric_symbol d (by omega)
  · rw [if_neg h62, ← value?_printable]
    exact value?_printable_getD d (by omega)

/-- The digits of a base are looked up as they are: up to 36 no capital letter is among them. -/
theorem plain_digit (hd : d < r.base) : r.plain (r.digit d) = r.digit d := by
  rw [digit_eq_getD r hd]
  unfold plain row
  by_cases h36 : r.base ≤ 36
  · have hlower : ∀ d < 36, (Char.ofNat (symbolCode d)).toLower = Char.ofNat (symbolCode d) := by
      decide
    rw [if_pos h36, if_pos (by omega), ← symbol, symbol_eq (by omega)]
    exact hlower d (by omega)
  · rw [if_neg h36]

/-- A base reads each of its digits back. -/
theorem place?_digit (hd : d < r.base) : r.place? (r.digit d) = some d := by
  rw [place?, plain_digit r hd, digits, idxOf?_take, digit_eq_getD r hd, idxOf?_row r hd]
  simpa using hd

end

end Radix

end PackedScript

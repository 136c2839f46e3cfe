import Mathlib.Data.Nat.Digits.Lemmas
import PackedScript.Numeral.Radix
import PackedScript.Payload
import PackedScript.Proofs.Numeral.Positional

/-!
# Numerals as a packer writes them

`written base n` is the shortest numeral of `n`: its digits (`places`) with the characters `0` to
`9`, `a` to `z` and `A` to `Z` in this order. Each base up to 62 reads its own digits back
(`digit?_symbol`), whichever of the two orders it uses, so what is written is read
(`decode_written`), and what is written is a word. In decimal the written numerals are the runs of
digits without a zero in front, and zero (`exists_eq_written_ten_iff`).
-/

namespace PackedScript

namespace Numeral

/-- The digits of the bases up to 62 in order. -/
def alphabet : Text := "0123456789abcdefghijklmnopqrstuvwxyzABCDEFGHIJKLMNOPQRSTUVWXYZ".toList

/-- The character of a digit below 62. -/
def symbol (d : Nat) : Char := alphabet.getD d '0'

/-- The digits of a number from the most significant on. Zero has the digit 0. -/
def places (base n : Nat) : List Nat := if n = 0 then [0] else (Nat.digits base n).reverse

/-- The numeral of a number, without zeros in front except for zero itself. -/
def written (base n : Nat) : Text :=
  if n = 0 then ['0'] else (Nat.digits base n).reverse.map symbol

/-- The code point of a digit below 62. -/
def symbolCode (d : Nat) : Nat := if d < 10 then 48 + d else if d < 36 then 87 + d else 29 + d

theorem alphabet_eq : alphabet = (List.range 62).map fun d => Char.ofNat (symbolCode d) :=
  String.toList_ofList

theorem length_alphabet : alphabet.length = 62 := by
  rw [alphabet_eq, List.length_map, List.length_range]

theorem symbol_eq {d : Nat} (hd : d < 62) : symbol d = Char.ofNat (symbolCode d) := by
  rw [symbol, alphabet_eq, List.getD_eq_getElem?_getD]
  simp [hd]

theorem symbol_zero : symbol 0 = '0' :=
  symbol_eq (by decide)

theorem decimalDigit?_symbol : ∀ d < 10, decimalDigit? (symbol d) = some d := by
  have hcode : ∀ d < 10, decimalDigit? (Char.ofNat (symbolCode d)) = some d := by
    decide
  intro d hd
  rw [symbol_eq (by omega), hcode d hd]

theorem value?_caseless_symbol : ∀ d < 36, DigitOrder.caseless.value? (symbol d) = some d := by
  have hcode : ∀ d < 36, DigitOrder.caseless.value? (Char.ofNat (symbolCode d)) = some d := by
    decide
  intro d hd
  rw [symbol_eq (by omega), hcode d hd]

theorem value?_alphanumeric_symbol :
    ∀ d < 62, DigitOrder.alphanumeric.value? (symbol d) = some d := by
  have hcode : ∀ d < 62, DigitOrder.alphanumeric.value? (Char.ofNat (symbolCode d)) = some d := by
    decide
  intro d hd
  rw [symbol_eq (by omega), hcode d hd]

theorem isWordChar_symbol : ∀ d < 62, Payload.isWordChar (symbol d) = true := by
  have hcode : ∀ d < 62, Payload.isWordChar (Char.ofNat (symbolCode d)) = true := by
    decide
  intro d hd
  rw [symbol_eq (by omega), hcode d hd]

/-! ## The digits of a number -/

section

variable {base n : Nat}

theorem places_ne_nil (base n : Nat) : places base n ≠ [] := by
  unfold places
  split
  · simp
  · next hn => simpa [Nat.digits_eq_nil_iff_eq_zero] using hn

theorem lt_of_mem_places (hbase : 2 ≤ base) {d : Nat} (hd : d ∈ places base n) : d < base := by
  unfold places at hd
  split at hd
  · rw [List.mem_singleton.mp hd]
    omega
  · exact Nat.digits_lt_base hbase (List.mem_reverse.mp hd)

theorem ofDigits_places (base n : Nat) : Nat.ofDigits base (places base n).reverse = n := by
  unfold places
  split
  · next hn => simp [hn]
  · rw [List.reverse_reverse, Nat.ofDigits_digits]

/-- Digits of which the first is not zero are the digits of their sum. -/
theorem places_ofDigits (hbase : 2 ≤ base) {d : Nat} {ds : List Nat} (hd : d ≠ 0)
    (hlt : ∀ e ∈ d :: ds, e < base) :
    places base (Nat.ofDigits base (d :: ds).reverse) = d :: ds := by
  have hdigits : Nat.digits base (Nat.ofDigits base (d :: ds).reverse) = (d :: ds).reverse := by
    refine Nat.digits_ofDigits base hbase _ (fun e he => hlt e (List.mem_reverse.mp he)) ?_
    intro hne
    rw [List.getLast_reverse]
    exact hd
  have hne : Nat.ofDigits base (d :: ds).reverse ≠ 0 := by
    intro hzero
    rw [hzero] at hdigits
    simp at hdigits
  rw [places, if_neg hne, hdigits, List.reverse_reverse]

/-! ## Written numerals -/

/-- A number is written with its digits. -/
theorem written_eq_map_places (base n : Nat) : written base n = (places base n).map symbol := by
  unfold written places
  split
  · rw [List.map_singleton, symbol_zero]
  · rfl

/-- Where a base reads its digits as they are written, it reads its numerals so. -/
theorem denotes_written {digit? : Char → Option Nat} (hbase : 2 ≤ base)
    (hdigit : ∀ d < base, digit? (symbol d) = some d) (n : Nat) :
    Denotes base digit? (written base n) n := by
  have hdenotes : Denotes base digit? ((places base n).map symbol) _ :=
    denotes_map (places_ne_nil base n) fun d hd => hdigit d (lt_of_mem_places hbase hd)
  rwa [ofDigits_places, ← written_eq_map_places] at hdenotes

theorem decimal_written (n : Nat) : Decimal (written 10 n) n :=
  denotes_written (by decide) decimalDigit?_symbol n

/-- A written numeral is a word. -/
theorem written_ne_nil (base n : Nat) : written base n ≠ [] := by
  rw [written_eq_map_places]
  simpa using places_ne_nil base n

theorem isWordChar_of_mem_written (hbase : 2 ≤ base) (hle : base ≤ 62) {c : Char}
    (hc : c ∈ written base n) : Payload.isWordChar c = true := by
  rw [written_eq_map_places] at hc
  obtain ⟨d, hd, rfl⟩ := List.mem_map.mp hc
  exact isWordChar_symbol d (by have := lt_of_mem_places hbase hd; omega)

end

/-! ## Decimal numerals -/

theorem isDigit_symbol : ∀ d < 10, (symbol d).isDigit = true := by
  have hcode : ∀ d < 10, (Char.ofNat (symbolCode d)).isDigit = true := by
    decide
  intro d hd
  rw [symbol_eq (by omega), hcode d hd]

/-- A decimal digit is written for its value. -/
theorem exists_symbol_of_isDigit {c : Char} (hc : c.isDigit = true) :
    ∃ d < 10, symbol d = c := by
  have hrange : 48 ≤ c.toNat ∧ c.toNat ≤ 57 := by
    unfold Char.isDigit at hc
    simp only [Bool.and_eq_true, decide_eq_true_eq, UInt32.le_iff_toNat_le] at hc
    exact hc
  refine ⟨c.toNat - 48, by omega, ?_⟩
  rw [symbol_eq (by omega), symbolCode, if_pos (by omega), Nat.add_sub_cancel' hrange.1,
    Char.ofNat_toNat]

theorem isDigit_of_mem_written_ten {n : Nat} {c : Char} (hc : c ∈ written 10 n) :
    c.isDigit = true := by
  rw [written_eq_map_places] at hc
  obtain ⟨d, hd, rfl⟩ := List.mem_map.mp hc
  exact isDigit_symbol d (lt_of_mem_places (by decide) hd)

theorem notMem_written_ten {c : Char} (hc : c.isDigit = false) (n : Nat) : c ∉ written 10 n := by
  intro hmem
  rw [isDigit_of_mem_written_ten hmem] at hc
  cases hc

theorem decimal?_written {bound : Nat} (hbound : 0 < bound) (n : Nat) :
    decimal? bound (written 10 n) = if n < bound then some n else none := by
  split
  · next hlt => exact (decimal?_eq_some_iff hbound).mpr ⟨decimal_written n, hlt⟩
  · next hge =>
    rw [Option.eq_none_iff_forall_ne_some]
    intro m hm
    obtain ⟨hdenotes, hlt⟩ := (decimal?_eq_some_iff hbound).mp hm
    rw [hdenotes.unique (decimal_written n)] at hlt
    exact hge hlt

/-- Digits of which the first is not zero are the numeral of their sum. -/
theorem written_ten_of_head_ne_zero {d : Nat} {ds : List Nat} (hd : d ≠ 0)
    (hlt : ∀ e ∈ d :: ds, e < 10) :
    written 10 (Nat.ofDigits 10 (d :: ds).reverse) = (d :: ds).map symbol := by
  rw [written_eq_map_places, places_ofDigits (by decide) hd hlt]

theorem head?_written_ten {n : Nat} (hn : n ≠ 0) : (written 10 n).head? ≠ some '0' := by
  have hsymbol : ∀ d < 10, d ≠ 0 → symbol d ≠ '0' := by
    have hcode : ∀ d < 10, d ≠ 0 → Char.ofNat (symbolCode d) ≠ '0' := by
      decide
    intro d hd
    rw [symbol_eq (by omega)]
    exact hcode d hd
  have hne : Nat.digits 10 n ≠ [] := by simpa [Nat.digits_eq_nil_iff_eq_zero] using hn
  rw [written, if_neg hn, List.head?_map, List.head?_reverse, List.getLast?_eq_some_getLast hne,
    Option.map_some]
  intro hzero
  exact hsymbol _ (Nat.digits_lt_base (by decide) (List.getLast_mem hne))
    (Nat.getLast_digit_ne_zero 10 hn) (Option.some.inj hzero)

/-- The decimal numerals are zero and the digits without a zero in front. -/
theorem exists_eq_written_ten_iff {t : Text} :
    (∃ n, t = written 10 n) ↔
      t = ['0'] ∨ (t ≠ [] ∧ (∀ c ∈ t, c.isDigit = true) ∧ t.head? ≠ some '0') := by
  constructor
  · intro h
    obtain ⟨n, rfl⟩ := h
    by_cases hn : n = 0
    · left
      rw [written, if_pos hn]
    · exact .inr ⟨written_ne_nil 10 n, fun c => isDigit_of_mem_written_ten,
        head?_written_ten hn⟩
  · intro h
    rcases h with rfl | ⟨hne, hdigits, hhead⟩
    · exact ⟨0, rfl⟩
    · obtain ⟨ds, hlt, rfl⟩ : ∃ ds : List Nat, (∀ d ∈ ds, d < 10) ∧ t = ds.map symbol := by
        clear hne hhead
        induction t with
        | nil => exact ⟨[], by simp, rfl⟩
        | cons c t ih =>
          obtain ⟨d, hd, rfl⟩ := exists_symbol_of_isDigit (hdigits c List.mem_cons_self)
          obtain ⟨ds, hlt, rfl⟩ := ih fun c' hc' => hdigits c' (List.mem_cons_of_mem _ hc')
          exact ⟨d :: ds, List.forall_mem_cons.mpr ⟨hd, hlt⟩, rfl⟩
      cases ds with
      | nil => exact absurd rfl hne
      | cons d ds =>
        have hd : d ≠ 0 := by
          rintro rfl
          refine hhead ?_
          rw [List.map_cons, List.head?_cons, symbol_zero]
        exact ⟨_, (written_ten_of_head_ne_zero hd hlt).symm⟩

end Numeral

namespace Radix

theorem base_pos (r : Radix) : 0 < r.base := by
  have := r.two_le_base
  omega

/-- A base up to 62 reads its own digits as they are written. -/
theorem digit?_symbol {r : Radix} (hr : r.base ≤ 62) {d : Nat} (hd : d < r.base) :
    r.digit? (Numeral.symbol d) = some d := by
  have hvalue : r.order.value? (Numeral.symbol d) = some d := by
    unfold order
    by_cases hsmall : r.base ≤ 36
    · rw [if_pos hsmall]
      exact Numeral.value?_caseless_symbol d (by omega)
    · rw [if_neg hsmall, if_pos hr]
      exact Numeral.value?_alphanumeric_symbol d (by omega)
  rw [digit?, hvalue]
  simpa using hd

/-- A written numeral has no sign that could be left out. -/
theorem unsigned_written {r : Radix} (hr : r.base ≤ 62) (n : Nat) :
    r.unsigned (Numeral.written r.base n) = Numeral.written r.base n := by
  have hplus : '+' ∉ Numeral.written r.base n := fun hmem =>
    absurd (Numeral.isWordChar_of_mem_written r.two_le_base hr hmem) (by decide)
  unfold unsigned
  split
  · next heq =>
    rw [heq] at hplus
    simp at hplus
  · rfl

/-- A base up to 62 reads a number below the size limit as it is written. -/
theorem decode_written {r : Radix} (hr : r.base ≤ 62) {n : Nat} (hn : n < Numeral.sizeLimit) :
    r.decode (Numeral.written r.base n) = .ok n := by
  rw [decode, unsigned_written hr, Numeral.positional_eq_ok_iff r.base_pos (by decide)]
  exact ⟨Numeral.denotes_written r.two_le_base (fun d hd => digit?_symbol hr hd) n, hn⟩

end Radix

end PackedScript

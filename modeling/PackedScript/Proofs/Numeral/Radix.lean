import PackedScript.Proofs.Numeral.Digits

/-!
# Reading numerals is exact

What a text is read as in a base is settled by its digits alone (`Reads`): it has a value exactly
when all its characters are digits and their sum is a size, and otherwise the first fault from the
left decides. A leading `+` is no part of the digits where the base allows it
(`ofDeclared?_decode_exact`).
-/

namespace PackedScript

open Numeral

namespace Radix

/-! ## The sign -/

/-- `t` has a sign that the base ignores: a `+` with something behind it. -/
def Signed (r : Radix) (t : Text) : Prop := r.base ≤ 36 ∧ ∃ rest, rest ≠ [] ∧ t = '+' :: rest

theorem unsigned_plus {r : Radix} (hr : r.base ≤ 36) {t : Text} (hne : t ≠ []) :
    r.unsigned ('+' :: t) = t := by
  cases t with
  | nil => exact absurd rfl hne
  | cons c t =>
    show (if r.base ≤ 36 then c :: t else '+' :: c :: t) = c :: t
    rw [if_pos hr]

theorem unsigned_of_not_signed {r : Radix} {t : Text} (h : ¬r.Signed t) : r.unsigned t = t := by
  unfold unsigned
  split
  · next c rest =>
    have hbase : ¬r.base ≤ 36 := fun hr => h ⟨hr, c :: rest, by simp, rfl⟩
    rw [if_neg hbase]
  · rfl

theorem not_signed_of_head?_ne {r : Radix} {t : Text} (h : t.head? ≠ some '+') : ¬r.Signed t := by
  intro hsigned
  obtain ⟨-, rest, -, rfl⟩ := hsigned
  exact h rfl

/-! ## Values and faults -/

/-- The outcome of reading `t` as a numeral of the base, sign apart. -/
structure Reads (r : Radix) (t : Text) (outcome : Except NumeralError Nat) : Prop where
  /-- All characters are digits, and their sum is a size. -/
  ok_iff (n : Nat) : outcome = .ok n ↔ Denotes r.base r.place? t n ∧ n < sizeLimit
  /-- Some prefix has digits only, and their sum is no size. -/
  overflow_iff : outcome = .error .overflow ↔ Overflows sizeLimit r.base r.place? t
  /-- There is no character, or one that is no digit comes before any prefix of that kind. -/
  invalidDigit_iff : outcome = .error .invalidDigit ↔
    t = [] ∨ ∃ front c rest, t = front ++ c :: rest ∧ r.place? c = none ∧
      ¬Overflows sizeLimit r.base r.place? front

theorem reads_decode (r : Radix) (t : Text) : r.Reads (r.unsigned t) (r.decode t) := by
  have hbound : 0 < sizeLimit := by decide
  unfold decode
  rw [digit?_eq_place?]
  exact ⟨fun n => positional_eq_ok_iff r.base_pos hbound, positional_eq_overflow_iff hbound,
    positional_eq_invalidDigit_iff r.base_pos hbound⟩

/-! ## Numbers in digits -/

/-- A number in the digits of the base, with zeros in front. -/
def padded (r : Radix) (zeros n : Nat) : Text :=
  (List.replicate zeros 0 ++ (Nat.digits r.base n).reverse).map r.digit

/-- Digits are read as what they are, however many zeros stand in front. -/
theorem denotes_padded (r : Radix) {zeros n : Nat} (hne : 0 < zeros ∨ 0 < n) :
    Denotes r.base r.place? (r.padded zeros n) n := by
  have hnil : List.replicate zeros 0 ++ (Nat.digits r.base n).reverse ≠ [] := by
    intro hnil
    obtain ⟨hzeros, hdigits⟩ := List.append_eq_nil_iff.mp hnil
    have hn := Nat.digits_eq_nil_iff_eq_zero.mp (List.reverse_eq_nil_iff.mp hdigits)
    have hlength := congrArg List.length hzeros
    rw [List.length_replicate, List.length_nil] at hlength
    omega
  have hlt : ∀ d ∈ List.replicate zeros 0 ++ (Nat.digits r.base n).reverse, d < r.base := by
    intro d hd
    rcases List.mem_append.mp hd with hzero | hdigit
    · rw [List.eq_of_mem_replicate hzero]
      exact r.base_pos
    · exact Nat.digits_lt_base r.two_le_base (List.mem_reverse.mp hdigit)
  have hsum : Nat.ofDigits r.base
      (List.replicate zeros 0 ++ (Nat.digits r.base n).reverse).reverse = n := by
    rw [List.reverse_append, List.reverse_reverse, List.reverse_replicate,
      Nat.ofDigits_append_replicate_zero, Nat.ofDigits_digits]
  have hdenotes : Denotes r.base r.place? (r.padded zeros n) _ :=
    denotes_map hnil fun d hd => r.place?_digit (hlt d hd)
  rwa [hsum] at hdenotes

/-- Where `+` is a sign it is no digit, so digits have none in front. -/
theorem not_signed_of_denotes {r : Radix} {t : Text} {n : Nat} (h : Denotes r.base r.place? t n) :
    ¬r.Signed t := by
  intro hsigned
  obtain ⟨hr, rest, -, rfl⟩ := hsigned
  have hplus : r.place? '+' = none := by
    rw [place?, List.idxOf?_eq_none_iff]
    intro hmem
    unfold digits row plain at hmem
    rw [if_pos hr, if_pos (show r.base ≤ 62 by omega)] at hmem
    have hplus : '+' ∉ alphabet := by
      rw [alphabet_eq]
      decide
    exact absurd (List.mem_of_mem_take hmem) hplus
  exact h.digit?_ne_none List.mem_cons_self hplus

/-- Each declared radix that is 0 or from 2 to 95 has a base, and its texts are read exactly: the
value is the sum of the digits, and the first fault from the left is the one that is told. The bases
up to 36 do not look at one `+` in front of the digits. So every size is read from its digits, with
any number of zeros in front. -/
theorem ofDeclared?_decode_exact {declared : Nat}
    (h : declared = 0 ∨ 2 ≤ declared ∧ declared ≤ 95) :
    ∃ r, ofDeclared? declared = some r ∧ r.base = (if declared = 0 then 36 else declared) ∧
      (∀ t, ¬r.Signed t → r.Reads t (r.decode t)) ∧
      (∀ t, t ≠ [] → r.base ≤ 36 → r.Reads t (r.decode ('+' :: t))) ∧
      ∀ zeros n, 0 < zeros ∨ 0 < n → n < sizeLimit → r.decode (r.padded zeros n) = .ok n := by
  cases hr : ofDeclared? declared with
  | none =>
    have hnone := ofDeclared?_eq_none_iff.mp hr
    omega
  | some r =>
    refine ⟨r, rfl, base_of_ofDeclared? hr, ?_, ?_, ?_⟩
    · intro t ht
      have hreads := r.reads_decode t
      rwa [unsigned_of_not_signed ht] at hreads
    · intro t hne hbase
      have hreads := r.reads_decode ('+' :: t)
      rwa [unsigned_plus hbase hne] at hreads
    · intro zeros n hne hn
      have hdenotes := r.denotes_padded hne
      have hreads := r.reads_decode (r.padded zeros n)
      rw [unsigned_of_not_signed (not_signed_of_denotes hdenotes)] at hreads
      exact (hreads.ok_iff n).mpr ⟨hdenotes, hn⟩

/-- The radix 0: a sign, a capital letter among the digits, and a text that is too large before it
comes to a character that is no digit. -/
theorem ofDeclared?_decode_exact_placeholder :
    ∃ r, ofDeclared? 0 = some r ∧ r.decode "+00Z".toList = .ok 35 ∧
      r.decode "zzzzzzzzzzzzz-".toList = .error .overflow := by
  obtain ⟨r, hr, -, hunsigned, hsigned, -⟩ := @ofDeclared?_decode_exact 0 (.inl rfl)
  obtain rfl : (⟨36, by decide, by decide⟩ : Radix) = r := Option.some.inj hr
  refine ⟨_, rfl, ?_, ?_⟩
  · have hvalue : Denotes 36 (place? ⟨36, by decide, by decide⟩) "00Z".toList 35 :=
      ⟨by decide, [0, 0, 35], by decide +kernel, by decide +kernel⟩
    exact ((hsigned "00Z".toList (by decide) (by decide)).ok_iff 35).mpr ⟨hvalue, by decide⟩
  · refine (hunsigned _ (not_signed_of_head?_ne (by decide))).overflow_iff.mpr ?_
    exact ⟨"zzzzzzzzzzzzz".toList, 36 ^ 13 - 1, by decide +kernel,
      ⟨by decide, List.replicate 13 35, by decide +kernel, by decide +kernel⟩, by decide +kernel⟩

end Radix

end PackedScript

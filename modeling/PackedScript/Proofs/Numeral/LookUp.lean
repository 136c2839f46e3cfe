import PackedScript.Proofs.Bytes.Utf8
import PackedScript.Proofs.Numeral.Radix

/-!
# Other ways to read a numeral

The bases from 37 on look up their digits in a row (`lookUp`). The bases up to 36 could do the same,
and they could read the bytes of a text for its characters: the answers would not change, faults
included, for texts without a sign and without capital letters (`decode_eq_lookUp`). Bytes are no
matter because a character of more than one byte starts with a byte that is no digit either, so the
loop stops at the same place with the same value (`positionalFrom_byteText`).
-/

namespace PackedScript

open Numeral

namespace Numeral

/-- Reads a numeral whose digits are looked up in a row, in the base that is the length of the row.
-/
def lookUp (row t : Text) : Except NumeralError Nat :=
  positional sizeLimit row.length (fun c => row.idxOf? c) t

end Numeral

/-! ## Bytes for characters -/

namespace Utf8

/-- The text that comes out where each byte is taken for the character of its number. -/
def byteText (bytes : List UInt8) : Text := bytes.map fun b => Char.ofNat b.toNat

section

variable {c : Char}

theorem byteText_encode_cons_of_lt (hc : c.toNat < 128) (t : Text) :
    byteText (encode (c :: t)) = c :: byteText (encode t) := by
  rw [encode_cons, utf8EncodeChar_of_lt hc]
  show Char.ofNat (UInt8.ofNat c.toNat).toNat :: byteText (encode t) = c :: byteText (encode t)
  rw [toNat_ofNat_of_byte (by omega), Char.ofNat_toNat]

theorem exists_byteText_encode_cons (hc : 128 ≤ c.toNat) (t : Text) :
    ∃ d rest, byteText (encode (c :: t)) = d :: rest ∧ 128 ≤ d.toNat := by
  obtain ⟨b, bytes, hencode, hb⟩ := exists_utf8EncodeChar_of_le hc
  have hlt := b.toNat_lt
  refine ⟨Char.ofNat b.toNat, byteText (bytes ++ encode t), ?_, ?_⟩
  · rw [encode_cons, hencode]
    rfl
  · rw [toNat_ofNat_of_valid (by omega)]
    exact hb

end

theorem byteText_encode_ne_nil {t : Text} (h : t ≠ []) : byteText (encode t) ≠ [] := by
  cases t with
  | nil => exact absurd rfl h
  | cons c t =>
    rcases Nat.lt_or_ge c.toNat 128 with hlow | hhigh
    · rw [byteText_encode_cons_of_lt hlow]
      exact List.cons_ne_nil _ _
    · obtain ⟨d, rest, htext, -⟩ := exists_byteText_encode_cons hhigh t
      rw [htext]
      exact List.cons_ne_nil _ _

end Utf8

namespace Radix

/-- Reads the bytes of a numeral in UTF-8 for its characters. -/
def decodeBytes (r : Radix) (bytes : List UInt8) : Except NumeralError Nat :=
  r.decode (Utf8.byteText bytes)

/-- The first byte of a character beyond the first 128 is as little a digit as the character, so
the loop stops at the same place, and with the same fault. -/
theorem positionalFrom_byteText (r : Radix) (t : Text) (value : Nat) :
    positionalFrom sizeLimit r.base r.digit? value (Utf8.byteText (Utf8.encode t))
      = positionalFrom sizeLimit r.base r.digit? value t := by
  induction t generalizing value with
  | nil => rfl
  | cons c t ih =>
    rcases Nat.lt_or_ge c.toNat 128 with hlow | hhigh
    · rw [Utf8.byteText_encode_cons_of_lt hlow]
      simp only [positionalFrom, ih]
    · obtain ⟨d, rest, htext, hd⟩ := Utf8.exists_byteText_encode_cons hhigh t
      rw [htext, positionalFrom_cons_of_none (r.digit?_eq_none hd),
        positionalFrom_cons_of_none (r.digit?_eq_none hhigh)]

theorem positional_byteText (r : Radix) (t : Text) :
    positional sizeLimit r.base r.digit? (Utf8.byteText (Utf8.encode t))
      = positional sizeLimit r.base r.digit? t := by
  by_cases hne : t = []
  · rw [hne]
    rfl
  · rw [positional_of_ne_nil hne, positional_of_ne_nil (Utf8.byteText_encode_ne_nil hne)]
    exact r.positionalFrom_byteText t 0

/-- A sign is one byte. -/
theorem signed_of_signed_byteText {r : Radix} {t : Text}
    (h : r.Signed (Utf8.byteText (Utf8.encode t))) : r.Signed t := by
  obtain ⟨hr, rest, hrest, htext⟩ := h
  cases t with
  | nil => cases htext
  | cons c t =>
    rcases Nat.lt_or_ge c.toNat 128 with hlow | hhigh
    · rw [Utf8.byteText_encode_cons_of_lt hlow] at htext
      obtain ⟨rfl, hbytes⟩ := List.cons.inj htext
      refine ⟨hr, t, ?_, rfl⟩
      intro hnil
      rw [hnil] at hbytes
      exact hrest hbytes.symm
    · obtain ⟨d, bytes, hbytes, hd⟩ := Utf8.exists_byteText_encode_cons hhigh t
      rw [hbytes] at htext
      obtain ⟨rfl, -⟩ := List.cons.inj htext
      exact absurd hd (by decide)

/-- Bytes are read like the characters they stand for. -/
theorem decodeBytes_encode (r : Radix) (t : Text) : r.decodeBytes (Utf8.encode t) = r.decode t := by
  unfold decodeBytes decode
  by_cases hsigned : r.Signed t
  · obtain ⟨hr, rest, hrest, rfl⟩ := hsigned
    rw [Utf8.byteText_encode_cons_of_lt (by decide), unsigned_plus hr hrest,
      unsigned_plus hr (Utf8.byteText_encode_ne_nil hrest)]
    exact r.positional_byteText rest
  · rw [unsigned_of_not_signed hsigned,
      unsigned_of_not_signed fun hbytes => hsigned (signed_of_signed_byteText hbytes)]
    exact r.positional_byteText t

/-! ## Rows for digits -/

/-- Where no letter needs to be made small, the places of the characters are those in the row. -/
theorem decode_eq_lookUp_of_plain {r : Radix} {t : Text} (hplain : ∀ c ∈ t, r.plain c = c)
    (hsign : ¬r.Signed t) : r.decode t = lookUp r.digits t := by
  have hplace : ∀ c ∈ t, r.place? c = r.digits.idxOf? c := by
    intro c hc
    rw [place?, hplain c hc]
  unfold decode lookUp
  rw [unsigned_of_not_signed hsign, digit?_eq_place?, length_digits]
  by_cases hne : t = []
  · rw [hne]
    rfl
  · rw [positional_of_ne_nil hne, positional_of_ne_nil hne]
    exact positionalFrom_congr hplace 0

theorem plain_of_lt {r : Radix} (h : 36 < r.base) (c : Char) : r.plain c = c := by
  rw [plain, if_neg (by omega)]

theorem plain_of_not_isUpper (r : Radix) {c : Char} (hc : c.isUpper = false) : r.plain c = c := by
  have hrange : ¬(c.val ≥ 'A'.val ∧ c.val ≤ 'Z'.val) := decide_eq_false_iff_not.mp hc
  have hlower : c.toLower = c := dif_neg hrange
  unfold plain
  split
  · exact hlower
  · rfl

/-- The bases from 37 on look up their digits in a row. Up to 36 it is the same to look them up in
the row, to read them as the base does, and to read their bytes: whether a text has a value, and
which one, and which fault is told if it has none, as long as it has no capital letter and no sign.
-/
theorem decode_eq_lookUp (r : Radix) (t : Text) :
    (36 < r.base → r.decode t = lookUp r.digits t) ∧
      (r.base ≤ 36 → (∀ c ∈ t, c.isUpper = false) → t.head? ≠ some '+' →
        r.decode t = lookUp (alphabet.take r.base) t ∧
          r.decodeBytes (Utf8.encode t) = lookUp (alphabet.take r.base) t) := by
  constructor
  · intro hbase
    apply decode_eq_lookUp_of_plain fun c _ => plain_of_lt hbase c
    intro hsigned
    have hle := hsigned.1
    omega
  · intro hbase hcapital hsign
    have hdigits : r.digits = alphabet.take r.base := by
      rw [digits, row, if_pos (by omega)]
    have hdecode : r.decode t = lookUp (alphabet.take r.base) t := by
      rw [← hdigits]
      exact decode_eq_lookUp_of_plain (fun c hc => r.plain_of_not_isUpper (hcapital c hc))
        (not_signed_of_head?_ne hsign)
    exact ⟨hdecode, by rw [decodeBytes_encode, hdecode]⟩

/-- A text that is too large before a character of two bytes, and one where that character comes
first. -/
theorem decode_eq_lookUp_two_faults :
    decodeBytes ⟨36, by decide, by decide⟩ (Utf8.encode "zzzzzzzzzzzzzé".toList)
        = .error .overflow ∧
      decodeBytes ⟨36, by decide, by decide⟩ (Utf8.encode "zézzzzzzzzzzzzz".toList)
        = .error .invalidDigit := by
  have hread (t : Text) (hcapital : t.all (!·.isUpper) = true) (hsign : t.head? ≠ some '+') :=
    ((decode_eq_lookUp ⟨36, by decide, by decide⟩ t).2 (by decide)
      (fun c hc => by simpa using List.all_eq_true.mp hcapital c hc) hsign).2
  constructor
  · rw [hread _ (by decide) (by decide)]
    decide +kernel
  · rw [hread _ (by decide) (by decide)]
    decide +kernel

end Radix

end PackedScript

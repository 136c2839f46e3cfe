import PackedScript.Bytes.Percent
import PackedScript.Proofs.Bytes.Utf8

/-!
# Percent spellings

A text has many spellings: each character stands for itself or is spread over the escapes of its
bytes, whose digits may be in either case. The sign itself must be escaped, and so are quotes, for
which the spelling of a text is quoted. Whichever spelling is chosen, reading it gives the bytes of
the text (`bytes_spelling_append`) and so the text (`decode_spelling`).
-/

namespace PackedScript

namespace Numeral

/-- A character for the hexadecimal digit `v`, in either case. -/
def HexDigit (v : Nat) (c : Char) : Prop :=
  v < 16 ∧ (c = Nat.digitChar v ∨ c = (Nat.digitChar v).toUpper)

instance (v : Nat) (c : Char) : Decidable (HexDigit v c) := inferInstanceAs (Decidable (_ ∧ _))

theorem hexDigit?_eq_some {v : Nat} {c : Char} (h : HexDigit v c) : hexDigit? c = some v := by
  have hlower : ∀ v < 16, hexDigit? (Nat.digitChar v) = some v := by decide
  have hupper : ∀ v < 16, hexDigit? (Nat.digitChar v).toUpper = some v := by decide
  obtain ⟨hv, rfl | rfl⟩ := h
  · exact hlower v hv
  · exact hupper v hv

/-- A hexadecimal digit is a letter or a digit. -/
theorem isAlphanum_of_hexDigit {v : Nat} {c : Char} (h : HexDigit v c) : c.isAlphanum = true := by
  have hlower : ∀ v < 16, (Nat.digitChar v).isAlphanum = true := by decide
  have hupper : ∀ v < 16, (Nat.digitChar v).toUpper.isAlphanum = true := by decide
  obtain ⟨hv, rfl | rfl⟩ := h
  · exact hlower v hv
  · exact hupper v hv

end Numeral

namespace Percent

open Numeral

/-- A text of escapes, one for each of some bytes in order. -/
inductive Escapes : List UInt8 → Text → Prop where
  | nil : Escapes [] []
  | cons {b : UInt8} {high low : Char} {bytes : List UInt8} {s : Text}
      (hhigh : HexDigit (b.toNat / 16) high) (hlow : HexDigit (b.toNat % 16) low)
      (h : Escapes bytes s) : Escapes (b :: bytes) ('%' :: high :: low :: s)

/-- The second text spells the first one: of each character there is the character itself, unless it
is a percent sign or a quote, or the escapes of its bytes. -/
inductive Spelling : Text → Text → Prop where
  | nil : Spelling [] []
  | keep {c : Char} {t s : Text} (hc : c ≠ '%' ∧ c ≠ '"' ∧ c ≠ '\'') (h : Spelling t s) :
      Spelling (c :: t) (c :: s)
  | escape {c : Char} {t s e : Text} (hc : Escapes (String.utf8EncodeChar c) e)
      (h : Spelling t s) : Spelling (c :: t) (e ++ s)

/-! ## Reading a spelling -/

theorem bytes_cons_of_ne {c : Char} (hc : c ≠ '%') (t : Text) :
    bytes (c :: t) = String.utf8EncodeChar c ++ bytes t := by
  have hnone : escape (c :: t) = none := by
    unfold escape
    split
    · next heq => exact absurd (List.cons.inj heq).1 hc
    · rfl
  rw [bytes, Text.substituteWith_cons, hnone]
  rfl

theorem bytes_escape {b : UInt8} {high low : Char} (hhigh : HexDigit (b.toNat / 16) high)
    (hlow : HexDigit (b.toNat % 16) low) (t : Text) :
    bytes ('%' :: high :: low :: t) = b :: bytes t := by
  have hbyte : UInt8.ofNat (b.toNat / 16 * 16 + b.toNat % 16) = b := by
    rw [Nat.div_add_mod', UInt8.ofNat_toNat]
  have hread : escape ('%' :: high :: low :: t) = some ([b], 3) := by
    simp only [escape, hexDigit?_eq_some hhigh, hexDigit?_eq_some hlow, hbyte]
  rw [bytes, Text.substituteWith_cons, hread]
  rfl

theorem bytes_escapes_append {bs : List UInt8} {e : Text} (h : Escapes bs e) (t : Text) :
    bytes (e ++ t) = bs ++ bytes t := by
  induction h with
  | nil => rfl
  | cons hhigh hlow _ ih =>
    rw [List.cons_append, List.cons_append, List.cons_append, bytes_escape hhigh hlow, ih,
      List.cons_append]

/-- A spelling is read as the bytes of its text, whatever follows it. -/
theorem bytes_spelling_append {t s : Text} (h : Spelling t s) (rest : Text) :
    bytes (s ++ rest) = Utf8.encode t ++ bytes rest := by
  induction h with
  | nil => rfl
  | keep hc _ ih =>
    rw [List.cons_append, bytes_cons_of_ne hc.1, ih, Utf8.encode_cons, List.append_assoc]
  | escape hc _ ih =>
    rw [List.append_assoc, bytes_escapes_append hc, ih, Utf8.encode_cons, List.append_assoc]

/-- A spelling is read as its text. -/
theorem decode_spelling {t s : Text} (h : Spelling t s) : decode s = t := by
  have hbytes := bytes_spelling_append h []
  have hnil : bytes [] = [] := rfl
  rw [List.append_nil, hnil, List.append_nil] at hbytes
  rw [decode, hbytes, Utf8.decode_encode]

/-- A character behind a spelling that is no sign is read as itself. -/
theorem decode_spelling_concat {t s : Text} (h : Spelling t s) {c : Char} (hc : c ≠ '%') :
    decode (s ++ [c]) = t ++ [c] := by
  rw [decode, bytes_spelling_append h, bytes_cons_of_ne hc, ← Utf8.decode_encode (t ++ [c]),
    Utf8.encode_append]
  rfl

/-! ## What stands in a spelling -/

theorem notMem_escapes {bs : List UInt8} {e : Text} (h : Escapes bs e) {c : Char} (hc : c ≠ '%')
    (hdigit : c.isAlphanum = false) : c ∉ e := by
  have hne {v : Nat} {d : Char} (hd : HexDigit v d) : c ≠ d := by
    rintro rfl
    rw [isAlphanum_of_hexDigit hd] at hdigit
    cases hdigit
  induction h with
  | nil => exact List.not_mem_nil
  | cons hhigh hlow _ ih => simp [hc, hne hhigh, hne hlow, ih]

/-- There is no quote in a spelling. -/
theorem notMem_spelling {t s : Text} (h : Spelling t s) {c : Char} (hc : c = '"' ∨ c = '\'') :
    c ∉ s := by
  have hne : c ≠ '%' ∧ c.isAlphanum = false := by
    rcases hc with rfl | rfl <;> decide
  induction h with
  | nil => exact List.not_mem_nil
  | keep hkept _ ih =>
    rw [List.mem_cons, not_or]
    refine ⟨?_, ih⟩
    rintro rfl
    rcases hc with rfl | rfl
    · exact hkept.2.1 rfl
    · exact hkept.2.2 rfl
  | escape he _ ih =>
    rw [List.mem_append, not_or]
    exact ⟨notMem_escapes he hne.1 hne.2, ih⟩

/-- A text that is not empty has no empty spelling. -/
theorem spelling_ne_nil {t s : Text} (h : Spelling t s) (ht : t ≠ []) : s ≠ [] := by
  cases h with
  | nil => exact absurd rfl ht
  | keep _ _ => exact List.cons_ne_nil _ _
  | @escape c t s e hc _ =>
    intro hnil
    obtain ⟨rfl, -⟩ := List.append_eq_nil_iff.mp hnil
    generalize hform : String.utf8EncodeChar c = form at hc
    cases hc
    exact String.utf8EncodeChar_ne_nil hform

end Percent

end PackedScript

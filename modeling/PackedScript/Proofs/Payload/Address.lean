import PackedScript.Proofs.Numeral.Radix
import PackedScript.Proofs.Payload.Words

/-!
# The entries that a payload can reach

A payload reaches the entries of the symbol table through its words. Up to 62 all digits of a base
are word characters, so each index has a word. From 63 on the digits are the printable characters,
and only some of them stand in words (`WordDigit`). The space, which is the digit 0, is none of
them, so a word is the one spelling of its number, and the indices with a word are those whose
digits are all of this kind (`addresses_iff`). The other entries, among them the first 16, leave no
trace in any script (`decode_congr`).
-/

namespace PackedScript

open Numeral Text

/-! ## Numerals without zeros -/

namespace Numeral

variable {base n : Nat} {digit? : Char → Option Nat} {symbol : Nat → Char} {t : Text}

/-- Where no two characters are the same digit, a text is its digits in their characters. -/
theorem eq_map_of_map_eq (hread : ∀ c d, digit? c = some d → symbol d = c) {ds : List Nat}
    (h : t.map digit? = ds.map some) : t = ds.map symbol := by
  induction t generalizing ds with
  | nil =>
    obtain rfl : ds = [] := by simpa using h.symm
    rfl
  | cons c t ih =>
    cases ds with
    | nil => simp at h
    | cons d ds =>
      obtain ⟨hd, hrest⟩ := List.cons.inj h
      rw [List.map_cons, hread c d hd, ← ih hrest]

/-- There, a numeral without zeros is the digits of its number in their characters. -/
theorem Denotes.eq_map_places (hbase : 2 ≤ base)
    (hread : ∀ c d, digit? c = some d → d < base ∧ symbol d = c) (h : Denotes base digit? t n)
    (hzero : ∀ c ∈ t, digit? c ≠ some 0) : t = (places base n).map symbol := by
  obtain ⟨hne, ds, hds, rfl⟩ := h
  have htext : t = ds.map symbol := eq_map_of_map_eq (fun c d hd => (hread c d hd).2) hds
  have hdigit : ∀ d ∈ ds, ∃ c ∈ t, digit? c = some d := by
    intro d hd
    have hmem : some d ∈ t.map digit? := hds ▸ List.mem_map_of_mem hd
    exact List.mem_map.mp hmem
  cases ds with
  | nil => exact absurd htext hne
  | cons d ds =>
    rw [places_ofDigits hbase ?_ ?_]
    · exact htext
    · rintro rfl
      obtain ⟨c, hc, hread0⟩ := hdigit 0 List.mem_cons_self
      exact hzero c hc hread0
    · intro e he
      obtain ⟨c, -, hce⟩ := hdigit e he
      exact (hread c e hce).1

end Numeral

namespace Radix

variable {r : Radix}

/-- From 37 on no two characters are the same digit. -/
theorem digit_of_digit? (hr : 36 < r.base) {c : Char} {d : Nat} (h : r.digit? c = some d) :
    d < r.base ∧ r.digit d = c := by
  rw [digit?_eq_place?, place?, plain, if_neg (by omega)] at h
  obtain ⟨hd, hc, -⟩ := List.idxOf?_eq_some_iff.mp h
  refine ⟨r.length_digits ▸ hd, ?_⟩
  rw [digit, List.getD_eq_getElem?_getD, List.getElem?_eq_getElem hd, Option.getD_some, hc]

end Radix

namespace Payload

/-! ## Words in the bases from 63 on -/

/-- A digit whose character is an ASCII digit, a capital letter, the underscore or a small letter,
where the space is the digit 0 and the other printable characters follow. -/
def WordDigit (d : Nat) : Prop :=
  16 ≤ d ∧ d ≤ 25 ∨ 33 ≤ d ∧ d ≤ 58 ∨ d = 63 ∨ 65 ≤ d ∧ d ≤ 90

instance (d : Nat) : Decidable (WordDigit d) :=
  inferInstanceAs (Decidable (16 ≤ d ∧ d ≤ 25 ∨ 33 ≤ d ∧ d ≤ 58 ∨ d = 63 ∨ 65 ≤ d ∧ d ≤ 90))

/-- `w` is a word, and `i` is the index that it stands for. -/
structure Addresses (r : Radix) (w : Text) (i : Nat) : Prop where
  isWord : IsWord w
  decode : r.decode w = .ok i

section

variable {r : Radix}

theorem isWordChar_digit (hr : 62 < r.base) {d : Nat} (hd : d < r.base) :
    isWordChar (r.digit d) = true ↔ WordDigit d := by
  have htable : ∀ d < 95, isWordChar (printable.getD d '0') = decide (WordDigit d) := by
    decide +kernel
  have hle := r.base_le
  rw [r.digit_eq_getD hd, Radix.row, if_neg (by omega), htable d (by omega), decide_eq_true_iff]

/-- The words of an index are its digits in their characters, where these are word characters. -/
theorem addresses_iff (hr : 62 < r.base) {w : Text} {i : Nat} :
    Addresses r w i ↔
      w = (places r.base i).map r.digit ∧ (∀ d ∈ places r.base i, WordDigit d) ∧
        i < sizeLimit := by
  have hsign : ¬r.Signed w := fun hsigned => by
    have hle := hsigned.1
    omega
  have hdecode : r.decode w = .ok i ↔ Denotes r.base r.digit? w i ∧ i < sizeLimit := by
    rw [Radix.decode, Radix.unsigned_of_not_signed hsign,
      positional_eq_ok_iff r.base_pos (by decide)]
  constructor
  · intro h
    obtain ⟨hdenotes, hlt⟩ := hdecode.mp h.decode
    -- the digit 0 is the space, which is in no word
    have hzero : ∀ c ∈ w, r.digit? c ≠ some 0 := by
      intro c hc hread
      obtain ⟨hpos, rfl⟩ := Radix.digit_of_digit? (by omega) hread
      have hword := (isWordChar_digit hr hpos).mp (h.isWord.wordChars _ hc)
      revert hword
      decide
    have hw := hdenotes.eq_map_places r.two_le_base
      (fun c d => Radix.digit_of_digit? (by omega)) hzero
    refine ⟨hw, ?_, hlt⟩
    intro d hd
    apply (isWordChar_digit hr (lt_of_mem_places r.two_le_base hd)).mp
    apply h.isWord.wordChars
    rw [hw]
    exact List.mem_map_of_mem hd
  · intro h
    obtain ⟨rfl, hdigits, hlt⟩ := h
    have hread : ∀ d ∈ places r.base i, d < r.base := fun d => lt_of_mem_places r.two_le_base
    refine ⟨⟨?_, ?_⟩, ?_⟩
    · simpa using places_ne_nil r.base i
    · intro c hc
      obtain ⟨d, hd, rfl⟩ := List.mem_map.mp hc
      exact (isWordChar_digit hr (hread d hd)).mpr (hdigits d hd)
    · have hdenotes : Denotes r.base r.digit? ((places r.base i).map r.digit) _ :=
        denotes_map (places_ne_nil r.base i) fun d hd => by
          rw [Radix.digit?_eq_place?, r.place?_digit (hread d hd)]
      rw [ofDigits_places] at hdenotes
      exact hdecode.mpr ⟨hdenotes, hlt⟩

/-- An index whose digits all stand in words is at least 16, for its last digit is. -/
theorem le_of_wordDigits {base i : Nat} (hbase : 2 ≤ base)
    (h : ∀ d ∈ places base i, WordDigit d) : 16 ≤ i := by
  have hlast : i % base ∈ places base i := by
    unfold places
    split
    · next hi => simp [hi]
    · next hi =>
      rw [Nat.digits_def' hbase (Nat.pos_of_ne_zero hi)]
      simp
  have hword := h _ hlast
  have hle := Nat.mod_le i base
  unfold WordDigit at hword
  omega

theorem Addresses.unique (hr : 62 < r.base) {w w' : Text} {i : Nat} (h : Addresses r w i)
    (h' : Addresses r w' i) : w = w' := by
  rw [((addresses_iff hr).mp h).1, ((addresses_iff hr).mp h').1]

theorem exists_addresses_iff (hr : 62 < r.base) {i : Nat} (hi : i < sizeLimit) :
    (∃ w, Addresses r w i) ↔ ∀ d ∈ places r.base i, WordDigit d := by
  constructor
  · intro h
    obtain ⟨w, hw⟩ := h
    exact ((addresses_iff hr).mp hw).2.1
  · intro hdigits
    exact ⟨_, (addresses_iff hr).mpr ⟨rfl, hdigits, hi⟩⟩

/-- Up to 62 each index is written as a word. -/
theorem exists_addresses_of_le (hr : r.base ≤ 62) {i : Nat} (hi : i < sizeLimit) :
    ∃ w, Addresses r w i := by
  refine ⟨written r.base i, ⟨written_ne_nil r.base i, ?_⟩, Radix.decode_written hr hi⟩
  intro c hc
  exact isWordChar_of_mem_written r.two_le_base hr hc

end

/-! ## Entries without words -/

/-- The words of a payload are words. -/
theorem isWord_of_mem_tokens {t w : Text} (h : .word w ∈ tokens t) : IsWord w := by
  induction hn : t.length using Nat.strongRecOn generalizing t with
  | ind n ih =>
    cases t with
    | nil => simp [tokens_nil] at h
    | cons c t =>
      rw [List.length_cons] at hn
      by_cases hc : isWordChar c = true
      · rw [tokens_cons_of_wordChar hc] at h
        rcases List.mem_cons.mp h with hfirst | hrest
        · rw [Token.word.inj hfirst]
          refine ⟨by simp [hc], ?_⟩
          intro d hd
          exact List.mem_takeWhile_imp hd
        · have hlt : ((c :: t).dropWhile isWordChar).length < n := by
            rw [List.dropWhile_cons_of_pos hc]
            have hle := (List.dropWhile_suffix isWordChar (l := t)).length_le
            omega
          exact ih _ hlt hrest rfl
      · rw [tokens_cons_of_other (Bool.eq_false_iff.mpr hc)] at h
        rcases List.mem_cons.mp h with hfirst | hrest
        · cases hfirst
        · exact ih t.length (by omega) hrest rfl

section

variable {r : Radix} {symbols symbols' : SymbolTable} {payload : Text}

/-- A script depends on the entries only whose indices the words of its payload stand for. -/
theorem decode_congr (h : ∀ w i, .word w ∈ tokens payload → r.decode w = .ok i →
      symbols[i]? = symbols'[i]?) :
    decode symbols r payload = decode symbols' r payload := by
  unfold decode
  apply List.flatMap_congr
  intro token htoken
  cases token with
  | other c => rfl
  | word w =>
    have hsymbol : symbol? symbols r w = symbol? symbols' r w := by
      unfold symbol?
      cases hdecode : r.decode w with
      | error fault => rfl
      | ok i => simp only [h w i htoken hdecode]
    simp only [Token.decode, hsymbol]

/-- From 63 on, the words of a payload stand for indices whose digits all stand in words. -/
theorem wordDigits_of_mem_tokens (hr : 62 < r.base) {w : Text} {i : Nat}
    (hw : .word w ∈ tokens payload) (hdecode : r.decode w = .ok i) :
    16 ≤ i ∧ ∀ d ∈ places r.base i, WordDigit d := by
  obtain ⟨-, hdigits, -⟩ := (addresses_iff hr).mp ⟨isWord_of_mem_tokens hw, hdecode⟩
  exact ⟨le_of_wordDigits r.two_le_base hdigits, hdigits⟩

end

/-- The entries that payloads reach. Up to the radix 62 they are all there can be. Above they are
those whose digits in the base all stand in words, each by one word; the first 16 entries are not
among them, and a script does not depend on the others, whatever its payload. -/
theorem ofDeclared?_addresses {declared : Nat} (h : 2 ≤ declared ∧ declared ≤ 95) :
    ∃ r, Radix.ofDeclared? declared = some r ∧
      (declared ≤ 62 → ∀ i < sizeLimit, ∃ w, Addresses r w i) ∧
      (62 < declared →
        (∀ i < sizeLimit, (∃ w, Addresses r w i) ↔ ∀ d ∈ places declared i, WordDigit d) ∧
        (∀ w w' i, Addresses r w i → Addresses r w' i → w = w') ∧
        ∀ payload : Text,
          (∀ w i, .word w ∈ tokens payload → r.decode w = .ok i →
            16 ≤ i ∧ ∀ d ∈ places declared i, WordDigit d) ∧
          ∀ symbols symbols' : SymbolTable,
            (∀ i, 16 ≤ i → (∀ d ∈ places declared i, WordDigit d) → symbols[i]? = symbols'[i]?) →
              decode symbols r payload = decode symbols' r payload) := by
  cases hr : Radix.ofDeclared? declared with
  | none =>
    have hnone := Radix.ofDeclared?_eq_none_iff.mp hr
    omega
  | some r =>
    obtain rfl : r.base = declared := by
      rw [Radix.base_of_ofDeclared? hr, if_neg (by omega)]
    refine ⟨r, rfl, fun hle i hi => exists_addresses_of_le hle hi, ?_⟩
    intro hlt
    refine ⟨fun i hi => exists_addresses_iff hlt hi, fun w w' i => Addresses.unique hlt, ?_⟩
    intro payload
    refine ⟨fun w i => wordDigits_of_mem_tokens hlt, ?_⟩
    intro symbols symbols' hagree
    apply decode_congr
    intro w i hw hdecode
    obtain ⟨hle, hdigits⟩ := wordDigits_of_mem_tokens hlt hw hdecode
    exact hagree i hle hdigits

/-- In base 95 there is one word for `16 * 95 + 16` and none for `16 * 95 + 15`, and the numeral of
entry 0 is a space that no word has; in base 62 entry 0 has a word. -/
theorem ofDeclared?_addresses_ninety_five :
    (∃ r, Radix.ofDeclared? 95 = some r ∧
      (∃ w, Addresses r w 1536 ∧ ∀ w', Addresses r w' 1536 → w' = w) ∧
      (¬∃ w, Addresses r w 1535) ∧ decode #["entry".toList] r " 0".toList = " 0".toList) ∧
      ∃ r, Radix.ofDeclared? 62 = some r ∧ ∃ w, Addresses r w 0 := by
  constructor
  · obtain ⟨r, hr, -, hlarge⟩ := ofDeclared?_addresses (by decide : 2 ≤ 95 ∧ 95 ≤ 95)
    obtain ⟨hiff, hunique, hpayload⟩ := hlarge (by decide)
    obtain ⟨w, hw⟩ := (hiff 1536 (by decide)).mpr (by decide)
    refine ⟨r, hr, ⟨w, hw, fun w' hw' => hunique w' w 1536 hw' hw⟩, ?_, ?_⟩
    · rw [hiff 1535 (by decide)]
      decide
    · have hagree := (hpayload " 0".toList).2 #["entry".toList] #[] fun i hi _ => by
        simp; omega
      rw [hagree]
      obtain rfl : (⟨95, by decide, by decide⟩ : Radix) = r := Option.some.inj hr
      decide +kernel
  · obtain ⟨r, hr, hsmall, -⟩ := ofDeclared?_addresses (by decide : 2 ≤ 62 ∧ 62 ≤ 95)
    exact ⟨r, hr, hsmall (by decide) 0 (by decide)⟩

end Payload

end PackedScript

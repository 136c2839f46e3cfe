import PackedScript.Bytes.Base64
import PackedScript.Proofs.Bytes.Utf8

/-!
# Base64 forms are unique

Reading accepts the written form of a list of bytes and nothing else (`decode_eq_ok_iff`): padding
is required, unused bits are zero, and no character is left out. So there is exactly one text that
stands for given bytes, and its length is a multiple of four.
-/

namespace PackedScript.Base64

/-! ## Symbols -/

/-- The byte of the symbol of six bits. -/
def symbolByte (v : Nat) : UInt8 := UInt8.ofNat (symbol v).toNat

theorem symbol_toNat_lt : ∀ v < 64, (symbol v).toNat < 0x80 := by
  decide

theorem value?_symbolByte : ∀ v < 64, value? (symbolByte v) = some v := by
  decide

theorem symbolByte_ne_pad : ∀ v < 64, symbolByte v ≠ pad := by
  decide

/-- Every byte with a value is the symbol of this value. -/
theorem symbolByte_of_value? {b : UInt8} {v : Nat} (h : value? b = some v) :
    v < 64 ∧ b = symbolByte v := by
  have hall : ∀ n < 256, (value? (UInt8.ofNat n)).all
      (fun v => decide (v < 64 ∧ UInt8.ofNat n = symbolByte v)) = true := by
    decide +kernel
  have hb := hall b.toNat b.toNat_lt
  rw [UInt8.ofNat_toNat, h] at hb
  simpa using hb

/-- The bytes of the Base64 form of a list of bytes. -/
def codes (bytes : List UInt8) : List UInt8 := Utf8.encode (encode bytes)

theorem encode_symbol_cons {v : Nat} (hv : v < 64) (t : Text) :
    Utf8.encode (symbol v :: t) = symbolByte v :: Utf8.encode t := by
  rw [Utf8.encode_cons, Utf8.utf8EncodeChar_of_lt (symbol_toNat_lt v hv)]
  rfl

@[simp] theorem codes_nil : codes [] = [] := rfl

theorem codes_one (a : UInt8) :
    codes [a] = [symbolByte (a.toNat / 4), symbolByte (a.toNat % 4 * 16), pad, pad] := by
  have ha := a.toNat_lt
  rw [codes, encode, encode_symbol_cons (by omega), encode_symbol_cons (by omega)]
  rfl

theorem codes_two (a b : UInt8) :
    codes [a, b] = [symbolByte (a.toNat / 4), symbolByte (a.toNat % 4 * 16 + b.toNat / 16),
      symbolByte (b.toNat % 16 * 4), pad] := by
  have ha := a.toNat_lt
  have hb := b.toNat_lt
  rw [codes, encode, encode_symbol_cons (by omega), encode_symbol_cons (by omega),
    encode_symbol_cons (by omega)]
  rfl

theorem codes_three (a b c : UInt8) (rest : List UInt8) :
    codes (a :: b :: c :: rest) = symbolByte (a.toNat / 4)
      :: symbolByte (a.toNat % 4 * 16 + b.toNat / 16)
      :: symbolByte (b.toNat % 16 * 4 + c.toNat / 64) :: symbolByte (c.toNat % 64)
      :: codes rest := by
  have ha := a.toNat_lt
  have hb := b.toNat_lt
  have hc := c.toNat_lt
  rw [codes, encode, encode_symbol_cons (by omega), encode_symbol_cons (by omega),
    encode_symbol_cons (by omega), encode_symbol_cons (by omega)]
  rfl

/-- A form is as long as whole groups are. -/
theorem length_codes : ∀ bytes : List UInt8, (codes bytes).length = (bytes.length + 2) / 3 * 4
  | [] => rfl
  | [a] => by simp [codes_one]
  | [a, b] => by simp [codes_two]
  | a :: b :: c :: rest => by
    rw [codes_three]
    simp only [List.length_cons, length_codes rest]
    omega

/-! ## Groups of four symbols -/

section

variable {v w x y : Nat}

/-- Two symbols with no bits to spare are those of their byte. -/
theorem codes_of_two (hv : v < 64) (hw : w < 64) (hspare : w % 16 = 0) :
    codes [UInt8.ofNat (v * 4 + w / 16)] = [symbolByte v, symbolByte w, pad, pad] := by
  rw [codes_one, Utf8.toNat_ofNat_of_byte (by omega)]
  congr 2 <;> congr 1 <;> omega

/-- Three symbols with no bits to spare are those of their two bytes. -/
theorem codes_of_three (hv : v < 64) (hw : w < 64) (hx : x < 64) (hspare : x % 4 = 0) :
    codes [UInt8.ofNat (v * 4 + w / 16), UInt8.ofNat (w % 16 * 16 + x / 4)]
      = [symbolByte v, symbolByte w, symbolByte x, pad] := by
  rw [codes_two, Utf8.toNat_ofNat_of_byte (by omega), Utf8.toNat_ofNat_of_byte (by omega)]
  congr 3 <;> congr 1 <;> omega

/-- Four symbols are those of their three bytes. -/
theorem codes_of_four (hv : v < 64) (hw : w < 64) (hx : x < 64) (hy : y < 64)
    (rest : List UInt8) :
    codes (UInt8.ofNat (v * 4 + w / 16) :: UInt8.ofNat (w % 16 * 16 + x / 4)
        :: UInt8.ofNat (x % 4 * 64 + y) :: rest)
      = symbolByte v :: symbolByte w :: symbolByte x :: symbolByte y :: codes rest := by
  rw [codes_three, Utf8.toNat_ofNat_of_byte (by omega), Utf8.toNat_ofNat_of_byte (by omega),
    Utf8.toNat_ofNat_of_byte (by omega)]
  congr 4 <;> congr 1 <;> omega

end

theorem ofNat_eq_of_toNat {n : Nat} {b : UInt8} (h : n = b.toNat) : UInt8.ofNat n = b := by
  rw [h, UInt8.ofNat_toNat]

/-! ## The last group -/

/-- What is read as the last group is its symbols with the padding behind them. -/
theorem eq_append_of_lastSymbols {start pads pads' : Nat} {symbols symbols' : List (UInt8 × Nat)}
    {group : List UInt8} (h : lastSymbols start symbols pads group = .ok (symbols', pads')) :
    ∃ vs k, symbols' = symbols.reverse ++ vs.map (fun v => (symbolByte v, v)) ∧ pads' = pads + k ∧
      group = vs.map symbolByte ++ List.replicate k pad ∧ (∀ v ∈ vs, v < 64) ∧
      (0 < pads → vs = []) := by
  induction group generalizing symbols pads with
  | nil =>
    obtain ⟨rfl, rfl⟩ := Prod.mk.inj (Except.ok.inj h)
    exact ⟨[], 0, by simp, by simp, by simp, by simp, fun _ => rfl⟩
  | cons b rest ih =>
    rw [lastSymbols] at h
    by_cases hb : b = pad
    · rw [if_pos hb] at h
      by_cases hearly : symbols.length + pads < 2
      · rw [if_pos hearly] at h
        simp at h
      · rw [if_neg hearly] at h
        obtain ⟨vs, k, hsymbols, hpads, hgroup, hvs, hnil⟩ := ih h
        -- behind padding there are no symbols
        obtain rfl := hnil (by omega)
        refine ⟨[], k + 1, hsymbols, by omega, ?_, hvs, fun _ => rfl⟩
        rw [hgroup, hb]
        rfl
    · rw [if_neg hb] at h
      by_cases hlate : 0 < pads
      · rw [if_pos hlate] at h
        simp at h
      · rw [if_neg hlate, value] at h
        cases hvalue : value? b with
        | none =>
          rw [hvalue] at h
          simp at h
        | some v =>
          rw [hvalue] at h
          obtain ⟨hv, rfl⟩ := symbolByte_of_value? hvalue
          obtain ⟨vs, k, hsymbols, hpads, hgroup, hvs, -⟩ := ih h
          refine ⟨v :: vs, k, ?_, hpads, ?_, List.forall_mem_cons.mpr ⟨hv, hvs⟩,
            fun hpads' => absurd hpads' hlate⟩
          · rw [hsymbols, List.reverse_cons, List.append_assoc]
            rfl
          · rw [hgroup]
            rfl

/-- What is read as the last group is the form of its bytes. -/
theorem eq_codes_of_lastBytes {start : Nat} {group bytes : List UInt8} (hlength : group.length ≤ 4)
    (h : lastBytes start group = .ok bytes) : group = codes bytes := by
  unfold lastBytes at h
  split at h
  · obtain rfl := Except.ok.inj h
    rfl
  · cases hsymbols : lastSymbols start [] 0 group with
    | error fault =>
      rw [hsymbols] at h
      simp at h
    | ok found =>
      obtain ⟨symbols, pads⟩ := found
      obtain ⟨vs, k, rfl, hpads, hgroup, hvs, -⟩ := eq_append_of_lastSymbols hsymbols
      obtain rfl : pads = k := by omega
      rw [hsymbols] at h
      match vs, hvs with
      | [], _ => simp at h
      | [v], _ => simp at h
      | [v, w], hvs =>
        simp only [List.forall_mem_cons] at hvs
        obtain ⟨hv, hw, -⟩ := hvs
        by_cases htwo : pads = 2
        · by_cases hspare : w % 16 = 0
          · obtain rfl : _ = bytes := by simpa [htwo, hspare, -UInt8.ofNat_add] using h
            rw [codes_of_two hv hw hspare, hgroup, htwo]
            rfl
          · simp [htwo, hspare] at h
        · simp [htwo] at h
      | [v, w, x], hvs =>
        simp only [List.forall_mem_cons] at hvs
        obtain ⟨hv, hw, hx, -⟩ := hvs
        by_cases hone : pads = 1
        · by_cases hspare : x % 4 = 0
          · obtain rfl : _ = bytes := by simpa [hone, hspare, -UInt8.ofNat_add] using h
            rw [codes_of_three hv hw hx hspare, hgroup, hone]
            rfl
          · simp [hone, hspare] at h
        · simp [hone] at h
      | v :: w :: x :: y :: vs, hvs =>
        simp only [List.forall_mem_cons] at hvs
        obtain ⟨hv, hw, hx, hy, -⟩ := hvs
        obtain rfl := Except.ok.inj h
        -- four symbols fill the group
        have hfull : vs = [] ∧ pads = 0 := by
          rw [hgroup] at hlength
          simp only [List.length_append, List.length_map, List.length_cons,
            List.length_replicate] at hlength
          exact ⟨List.eq_nil_of_length_eq_zero (by omega), by omega⟩
        rw [codes_of_four hv hw hx hy, hgroup, hfull.1, hfull.2]
        rfl

theorem lastSymbols_append {vs : List Nat} (hvs : ∀ v ∈ vs, v < 64) (start : Nat)
    (symbols : List (UInt8 × Nat)) (rest : List UInt8) :
    lastSymbols start symbols 0 (vs.map symbolByte ++ rest)
      = lastSymbols start ((vs.map fun v => (symbolByte v, v)).reverse ++ symbols) 0 rest := by
  induction vs generalizing symbols with
  | nil => rfl
  | cons v vs ih =>
    obtain ⟨hv, hvs⟩ := List.forall_mem_cons.mp hvs
    rw [List.map_cons, List.cons_append, lastSymbols, if_neg (symbolByte_ne_pad v hv),
      if_neg (by decide), value, value?_symbolByte v hv]
    simp only
    rw [ih hvs]
    simp

theorem lastSymbols_replicate {k pads : Nat} {symbols : List (UInt8 × Nat)}
    (h : k = 0 ∨ 2 ≤ symbols.length + pads) (start : Nat) :
    lastSymbols start symbols pads (List.replicate k pad) = .ok (symbols.reverse, pads + k) := by
  induction k generalizing pads with
  | zero => rfl
  | succ k ih =>
    rw [List.replicate_succ, lastSymbols, if_pos rfl, if_neg (by omega), ih (by omega)]
    congr 2
    omega

/-- Symbols with padding behind them are read so, when at least two stand before the padding. -/
theorem lastSymbols_eq (vs : List Nat) (k : Nat) (hvs : ∀ v ∈ vs, v < 64)
    (hk : k = 0 ∨ 2 ≤ vs.length) (start : Nat) :
    lastSymbols start [] 0 (vs.map symbolByte ++ List.replicate k pad)
      = .ok (vs.map fun v => (symbolByte v, v), k) := by
  rw [lastSymbols_append hvs, lastSymbols_replicate (by simpa using hk)]
  simp

/-- The form of up to three bytes is read as these bytes. -/
theorem lastBytes_codes (start : Nat) {bytes : List UInt8} (hlength : bytes.length ≤ 3) :
    lastBytes start (codes bytes) = .ok bytes := by
  match bytes, hlength with
  | [], _ => rfl
  | [a], _ =>
    have ha := a.toNat_lt
    have hsymbols : lastSymbols start [] 0 [symbolByte (a.toNat / 4),
        symbolByte (a.toNat % 4 * 16), pad, pad] = .ok ([_, _], 2) :=
      lastSymbols_eq [a.toNat / 4, a.toNat % 4 * 16] 2 (by simp; omega) (by simp) start
    have hspare : a.toNat % 4 * 16 % 16 = 0 := by omega
    simp only [codes_one, lastBytes, hsymbols, hspare, ne_eq, not_true_eq_false, if_false]
    rw [ofNat_eq_of_toNat (b := a) (by omega)]
  | [a, b], _ =>
    have ha := a.toNat_lt
    have hb := b.toNat_lt
    have hsymbols : lastSymbols start [] 0 [symbolByte (a.toNat / 4),
        symbolByte (a.toNat % 4 * 16 + b.toNat / 16), symbolByte (b.toNat % 16 * 4), pad]
          = .ok ([_, _, _], 1) :=
      lastSymbols_eq [a.toNat / 4, a.toNat % 4 * 16 + b.toNat / 16, b.toNat % 16 * 4] 1
        (by simp; omega) (by simp) start
    have hspare : b.toNat % 16 * 4 % 4 = 0 := by omega
    simp only [codes_two, lastBytes, hsymbols, hspare, ne_eq, not_true_eq_false, if_false]
    rw [ofNat_eq_of_toNat (b := a) (by omega), ofNat_eq_of_toNat (b := b) (by omega)]
  | [a, b, c], _ =>
    have ha := a.toNat_lt
    have hb := b.toNat_lt
    have hc := c.toNat_lt
    have hsymbols : lastSymbols start [] 0 [symbolByte (a.toNat / 4),
        symbolByte (a.toNat % 4 * 16 + b.toNat / 16), symbolByte (b.toNat % 16 * 4 + c.toNat / 64),
        symbolByte (c.toNat % 64)] = .ok ([_, _, _, _], 0) :=
      lastSymbols_eq [a.toNat / 4, a.toNat % 4 * 16 + b.toNat / 16,
        b.toNat % 16 * 4 + c.toNat / 64, c.toNat % 64] 0 (by simp; omega) (.inl rfl) start
    simp only [codes_three, codes_nil, lastBytes, hsymbols]
    rw [ofNat_eq_of_toNat (b := a) (by omega), ofNat_eq_of_toNat (b := b) (by omega),
      ofNat_eq_of_toNat (b := c) (by omega)]

/-! ## All groups -/

theorem decodeGroups_of_length (start : Nat) (written : List UInt8) {group : List UInt8}
    (hlength : group.length ≤ 4) :
    decodeGroups start written group = (lastBytes start group).map (written.reverse ++ ·) := by
  match group, hlength with
  | [], _ => rfl
  | [_], _ => rfl
  | [_, _], _ => rfl
  | [_, _, _], _ => rfl
  | [_, _, _, _], _ => rfl

/-- A symbol that is read has a value. -/
theorem exists_value_of_value {b : UInt8} {offset v : Nat} (h : value b offset = .ok v) :
    v < 64 ∧ b = symbolByte v := by
  unfold value at h
  split at h
  · next hvalue =>
    obtain rfl := Except.ok.inj h
    exact symbolByte_of_value? hvalue
  · simp at h

theorem value_symbolByte {v : Nat} (hv : v < 64) (offset : Nat) :
    value (symbolByte v) offset = .ok v := by
  rw [value, value?_symbolByte v hv]

/-- Four symbols with something behind them are three bytes. -/
theorem decodeGroups_four {v w x y : Nat} (hv : v < 64) (hw : w < 64) (hx : x < 64) (hy : y < 64)
    (start : Nat) (written : List UInt8) (e : UInt8) (rest : List UInt8) :
    decodeGroups start written
        (symbolByte v :: symbolByte w :: symbolByte x :: symbolByte y :: e :: rest)
      = decodeGroups (start + 4) (UInt8.ofNat (x % 4 * 64 + y)
          :: UInt8.ofNat (w % 16 * 16 + x / 4) :: UInt8.ofNat (v * 4 + w / 16) :: written)
          (e :: rest) := by
  rw [decodeGroups, value_symbolByte hv, value_symbolByte hw, value_symbolByte hx,
    value_symbolByte hy]
  rfl

/-- A sequence of two steps answers only if both do. -/
theorem exists_of_bind_eq_ok {ε α β : Type} {x : Except ε α} {next : α → Except ε β} {b : β}
    (h : x >>= next = .ok b) : ∃ a, x = .ok a ∧ next a = .ok b := by
  cases x with
  | error _ => cases h
  | ok a => exact ⟨a, rfl, h⟩

theorem eq_codes_of_short {start : Nat} {written group bytes : List UInt8}
    (hlength : group.length ≤ 4) (h : decodeGroups start written group = .ok bytes) :
    ∃ more, bytes = written.reverse ++ more ∧ group = codes more := by
  rw [decodeGroups_of_length start written hlength] at h
  cases hlast : lastBytes start group with
  | error _ =>
    rw [hlast] at h
    cases h
  | ok more =>
    rw [hlast] at h
    exact ⟨more, (Except.ok.inj h).symm, eq_codes_of_lastBytes hlength hlast⟩

/-- What is read is the form of its bytes. -/
theorem eq_codes_of_decodeGroups {start : Nat} {written group bytes : List UInt8}
    (h : decodeGroups start written group = .ok bytes) :
    ∃ more, bytes = written.reverse ++ more ∧ group = codes more := by
  induction hn : group.length using Nat.strongRecOn generalizing start written group with
  | ind n ih =>
    rcases Nat.lt_or_ge 4 group.length with hlong | hshort
    · match group, hlong with
      | a :: b :: c :: d :: e :: rest, _ =>
        rw [decodeGroups] at h
        obtain ⟨v, ha, h₁⟩ := exists_of_bind_eq_ok h
        obtain ⟨w, hb, h₂⟩ := exists_of_bind_eq_ok h₁
        obtain ⟨x, hc, h₃⟩ := exists_of_bind_eq_ok h₂
        obtain ⟨y, hd, h₄⟩ := exists_of_bind_eq_ok h₃
        obtain ⟨hv, rfl⟩ := exists_value_of_value ha
        obtain ⟨hw, rfl⟩ := exists_value_of_value hb
        obtain ⟨hx, rfl⟩ := exists_value_of_value hc
        obtain ⟨hy, rfl⟩ := exists_value_of_value hd
        simp only [List.length_cons] at hn
        obtain ⟨more, hbytes, hrest⟩ := ih (rest.length + 1) (by omega) h₄ rfl
        rw [hrest, ← codes_of_four hv hw hx hy more]
        refine ⟨_, ?_, rfl⟩
        rw [hbytes, List.reverse_cons, List.reverse_cons, List.reverse_cons]
        simp only [List.append_assoc, List.cons_append, List.nil_append]
    · exact eq_codes_of_short hshort h

/-- The form of some bytes is read as these bytes. -/
theorem decodeGroups_codes (start : Nat) (written bytes : List UInt8) :
    decodeGroups start written (codes bytes) = .ok (written.reverse ++ bytes) := by
  induction hn : bytes.length using Nat.strongRecOn generalizing start written bytes with
  | ind n ih =>
    rcases Nat.lt_or_ge 3 bytes.length with hlong | hshort
    · match bytes, hlong with
      | a :: b :: c :: d :: rest, _ =>
        have ha := a.toNat_lt
        have hb := b.toNat_lt
        have hc := c.toNat_lt
        have hrest := ih _ (by rw [← hn]; simp) (start + 4) (c :: b :: a :: written) (d :: rest) rfl
        -- there is something behind the group, so it is not read as the last one
        obtain ⟨e, more, hmore⟩ : ∃ e more, codes (d :: rest) = e :: more := by
          refine List.exists_cons_of_length_pos ?_
          rw [length_codes, List.length_cons]
          omega
        rw [codes_three, hmore, decodeGroups_four (by omega) (by omega) (by omega) (by omega),
          ofNat_eq_of_toNat (b := c) (by omega), ofNat_eq_of_toNat (b := b) (by omega),
          ofNat_eq_of_toNat (b := a) (by omega), ← hmore, hrest]
        simp
    · have hlength : (codes bytes).length ≤ 4 := by
        rw [length_codes]
        omega
      rw [decodeGroups_of_length start written hlength, lastBytes_codes start hshort]
      rfl

theorem decode_codes (bytes : List UInt8) : decode (codes bytes) = .ok bytes := by
  have hstray : strayByte? (codes bytes) = none := by
    rw [strayByte?, if_neg (by rw [length_codes]; omega)]
  rw [decode, hstray]
  exact decodeGroups_codes 0 [] bytes

/-- A text is read as some bytes exactly when it is their form. -/
theorem decode_eq_ok_iff {t : Text} {bytes : List UInt8} :
    decode (Utf8.encode t) = .ok bytes ↔ t = encode bytes := by
  constructor
  · intro h
    unfold decode at h
    split at h
    · simp at h
    · obtain ⟨more, rfl, hcodes⟩ := eq_codes_of_decodeGroups h
      exact Utf8.encode_injective hcodes
  · intro h
    rw [h]
    exact decode_codes bytes

/-- Each form is that of one list of bytes only. -/
theorem encode_injective {bytes bytes' : List UInt8} (h : encode bytes = encode bytes') :
    bytes = bytes' := by
  have hread := decode_eq_ok_iff.mpr h
  rw [decode_eq_ok_iff.mpr rfl] at hread
  exact Except.ok.inj hread

end PackedScript.Base64

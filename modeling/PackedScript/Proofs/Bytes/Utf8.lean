import PackedScript.Bytes.Utf8

/-!
# Reading UTF-8 back

What is written is read (`decode_encode`). The other way round, reading loses nothing where it puts
no replacement character in (`encode_decode`): the bytes that the machine has taken since the last
character determine its state, and so the character that they end in has just these bytes.
-/

namespace PackedScript.Utf8

/-! ## Codes of characters -/

theorem isValidChar_toNat (c : Char) : c.toNat < 0xD800 ∨ 0xDFFF < c.toNat ∧ c.toNat < 0x110000 :=
  c.valid

theorem toNat_ofNat_of_valid {n : Nat} (h : n < 0xD800 ∨ 0xDFFF < n ∧ n < 0x110000) :
    (Char.ofNat n).toNat = n := by
  have hvalid : n.isValidChar := h
  rw [Char.ofNat, dif_pos hvalid]
  rfl

theorem toNat_ofNat_of_byte {n : Nat} (h : n < 256) : (UInt8.ofNat n).toNat = n := by
  rw [UInt8.toNat_ofNat']
  omega

theorem encode_nil : encode [] = [] := rfl

theorem encode_cons (c : Char) (t : Text) : encode (c :: t) = String.utf8EncodeChar c ++ encode t :=
  rfl

theorem encode_append (s t : Text) : encode (s ++ t) = encode s ++ encode t :=
  List.flatMap_append

/-! ## Steps of the reader -/

section

variable {owed low high value b : Nat}

theorem step_inside_last (hlow : low ≤ b) (hhigh : b ≤ high) :
    step (.inside 1 low high value) b = ([Char.ofNat (value * 64 + (b - 0x80))], .start) := by
  rw [step, if_pos ⟨hlow, hhigh⟩, if_pos (by omega)]

theorem step_inside_more (howed : 1 < owed) (hlow : low ≤ b) (hhigh : b ≤ high) :
    step (.inside owed low high value) b
      = ([], .inside (owed - 1) 0x80 0xBF (value * 64 + (b - 0x80))) := by
  rw [step, if_pos ⟨hlow, hhigh⟩, if_neg (by omega)]

/-- A byte out of bounds ends the part before it and starts afresh. -/
theorem step_of_not_bounds (h : ¬(low ≤ b ∧ b ≤ high)) :
    step (.inside owed low high value) b = (replacement :: (first b).1, (first b).2) := by
  rw [step, if_neg h]

end

/-! ## Lead bytes -/

section

variable {b : Nat}

theorem first_of_lt (h : b < 0x80) : first b = ([Char.ofNat b], .start) := by
  rw [first, if_pos h]

/-- The lead byte of a form of two bytes. -/
theorem first_two (hlow : 0xC2 ≤ b) (hhigh : b ≤ 0xDF) :
    first b = ([], .inside 1 0x80 0xBF (b - 0xC0)) := by
  rw [first, if_neg (by omega), if_pos ⟨hlow, hhigh⟩]

/-- The lead byte of a form of three bytes. The bounds of the next byte leave out forms that are too
long, and surrogates. -/
theorem first_three (hlow : 0xE0 ≤ b) (hhigh : b ≤ 0xEF) :
    first b = ([], .inside 2 (if b = 0xE0 then 0xA0 else 0x80) (if b = 0xED then 0x9F else 0xBF)
      (b - 0xE0)) := by
  unfold first
  grind

/-- The lead byte of a form of four bytes. The bounds of the next byte leave out forms that are too
long, and what lies beyond the last character. -/
theorem first_four (hlow : 0xF0 ≤ b) (hhigh : b ≤ 0xF4) :
    first b = ([], .inside 3 (if b = 0xF0 then 0x90 else 0x80) (if b = 0xF4 then 0x8F else 0xBF)
      (b - 0xF0)) := by
  unfold first
  grind

/-- No character starts with any other byte. -/
theorem first_of_no_lead (h : 0x80 ≤ b ∧ b < 0xC2 ∨ 0xF4 < b) :
    first b = ([replacement], .start) := by
  unfold first
  grind

end

/-! ## What is written is read -/

/-- The bytes of the character of a code. -/
def form (v : Nat) : List Nat :=
  if v ≤ 0x7F then [v]
  else if v ≤ 0x7FF then [v / 64 + 0xC0, v % 64 + 0x80]
  else if v ≤ 0xFFFF then [v / 4096 + 0xE0, v / 64 % 64 + 0x80, v % 64 + 0x80]
  else [v / 262144 + 0xF0, v / 4096 % 64 + 0x80, v / 64 % 64 + 0x80, v % 64 + 0x80]

theorem utf8EncodeChar_eq (c : Char) :
    String.utf8EncodeChar c = (form c.toNat).map UInt8.ofNat := by
  have hvalid := isValidChar_toNat c
  unfold String.utf8EncodeChar form
  show (if c.toNat ≤ 0x7f then [UInt8.ofNat c.toNat] else if c.toNat ≤ 0x7ff then
    [UInt8.ofNat (c.toNat / 64 % 32 + 0xC0), UInt8.ofNat (c.toNat % 64 + 0x80)]
    else if c.toNat ≤ 0xffff then [UInt8.ofNat (c.toNat / 4096 % 16 + 0xE0),
      UInt8.ofNat (c.toNat / 64 % 64 + 0x80), UInt8.ofNat (c.toNat % 64 + 0x80)]
    else [UInt8.ofNat (c.toNat / 262144 % 8 + 0xF0), UInt8.ofNat (c.toNat / 4096 % 64 + 0x80),
      UInt8.ofNat (c.toNat / 64 % 64 + 0x80), UInt8.ofNat (c.toNat % 64 + 0x80)]) = _
  split
  · rfl
  · split
    · rw [Nat.mod_eq_of_lt (by omega : c.toNat / 64 < 32)]
      rfl
    · split
      · rw [Nat.mod_eq_of_lt (by omega : c.toNat / 4096 < 16)]
        rfl
      · rw [Nat.mod_eq_of_lt (by omega : c.toNat / 262144 < 8)]
        rfl

/-- A character among the first 128 is one byte. -/
theorem utf8EncodeChar_of_lt {c : Char} (h : c.toNat < 0x80) :
    String.utf8EncodeChar c = [UInt8.ofNat c.toNat] := by
  rw [utf8EncodeChar_eq, form, if_pos (by omega)]
  rfl

/-- Any other character starts with a byte beyond the first 128. -/
theorem exists_utf8EncodeChar_of_le {c : Char} (h : 0x80 ≤ c.toNat) :
    ∃ b bytes, String.utf8EncodeChar c = b :: bytes ∧ 0x80 ≤ b.toNat := by
  have hvalid := isValidChar_toNat c
  rw [utf8EncodeChar_eq]
  unfold form
  split
  · omega
  · split
    · refine ⟨_, _, rfl, ?_⟩
      rw [toNat_ofNat_of_byte (by omega)]
      omega
    · split
      · refine ⟨_, _, rfl, ?_⟩
        rw [toNat_ofNat_of_byte (by omega)]
        omega
      · refine ⟨_, _, rfl, ?_⟩
        rw [toNat_ofNat_of_byte (by omega)]
        omega

theorem decodeLoop_of_step {s s' : State} {n : Nat} {new : Text} (hn : n < 256)
    (h : step s n = (new, s')) (rest : List UInt8) :
    decodeLoop s [] (UInt8.ofNat n :: rest) = new ++ decodeLoop s' [] rest := by
  rw [decodeLoop_cons, toNat_ofNat_of_byte hn, h]

section

variable {owed low high value bits : Nat}

/-- The six bits of the last byte complete a character. -/
theorem decodeLoop_last (hbits : bits < 64) (hlow : low ≤ bits + 0x80) (hhigh : bits + 0x80 ≤ high)
    (rest : List UInt8) :
    decodeLoop (.inside 1 low high value) [] (UInt8.ofNat (bits + 0x80) :: rest)
      = Char.ofNat (value * 64 + bits) :: decodeLoop .start [] rest := by
  have hstep := @step_inside_last low high value _ hlow hhigh
  rw [Nat.add_sub_cancel] at hstep
  exact decodeLoop_of_step (by omega) hstep rest

/-- The six bits of an earlier byte are taken over. -/
theorem decodeLoop_more (howed : 1 < owed) (hbits : bits < 64) (hlow : low ≤ bits + 0x80)
    (hhigh : bits + 0x80 ≤ high) (rest : List UInt8) :
    decodeLoop (.inside owed low high value) [] (UInt8.ofNat (bits + 0x80) :: rest)
      = decodeLoop (.inside (owed - 1) 0x80 0xBF (value * 64 + bits)) [] rest := by
  have hstep := @step_inside_more owed low high value _ howed hlow hhigh
  rw [Nat.add_sub_cancel] at hstep
  exact decodeLoop_of_step (by omega) hstep rest

end

/-- The second byte of a form of three bytes is within the bounds of its lead byte. -/
theorem second_of_three {v : Nat} (hlow : 0x7FF < v) (hv : v < 0xD800 ∨ 0xDFFF < v) :
    (if v / 4096 + 0xE0 = 0xE0 then 0xA0 else 0x80) ≤ v / 64 % 64 + 0x80 ∧
      v / 64 % 64 + 0x80 ≤ if v / 4096 + 0xE0 = 0xED then 0x9F else 0xBF := by
  constructor <;> split <;> omega

/-- The second byte of a form of four bytes is within the bounds of its lead byte. -/
theorem second_of_four {v : Nat} (hlow : 0xFFFF < v) (hhigh : v < 0x110000) :
    (if v / 262144 + 0xF0 = 0xF0 then 0x90 else 0x80) ≤ v / 4096 % 64 + 0x80 ∧
      v / 4096 % 64 + 0x80 ≤ if v / 262144 + 0xF0 = 0xF4 then 0x8F else 0xBF := by
  constructor <;> split <;> omega

/-- The form of a character is read as this character, whatever follows it. -/
theorem decodeLoop_form {v : Nat} (hv : v < 0xD800 ∨ 0xDFFF < v ∧ v < 0x110000)
    (rest : List UInt8) :
    decodeLoop .start [] ((form v).map UInt8.ofNat ++ rest)
      = Char.ofNat v :: decodeLoop .start [] rest := by
  unfold form
  split
  · have hchar : step .start v = ([Char.ofNat v], .start) := first_of_lt (by omega)
    exact decodeLoop_of_step (by omega) hchar rest
  · split
    · have hlead : step .start (v / 64 + 0xC0) = _ := first_two (by omega) (by omega)
      have hvalue : (v / 64 + 0xC0 - 0xC0) * 64 + v % 64 = v := by omega
      simp only [List.map_cons, List.map_nil, List.cons_append, List.nil_append]
      rw [decodeLoop_of_step (by omega) hlead, List.nil_append,
        decodeLoop_last (by omega) (by omega) (by omega), hvalue]
    · split
      · have hlead : step .start (v / 4096 + 0xE0) = _ := first_three (by omega) (by omega)
        have hvalue : ((v / 4096 + 0xE0 - 0xE0) * 64 + v / 64 % 64) * 64 + v % 64 = v := by omega
        obtain ⟨hlow, hhigh⟩ := second_of_three (v := v) (by omega) (by omega)
        simp only [List.map_cons, List.map_nil, List.cons_append, List.nil_append]
        rw [decodeLoop_of_step (by omega) hlead, List.nil_append,
          decodeLoop_more (by decide) (by omega) hlow hhigh,
          decodeLoop_last (by omega) (by omega) (by omega), hvalue]
      · have hlead : step .start (v / 262144 + 0xF0) = _ := first_four (by omega) (by omega)
        have hvalue : (((v / 262144 + 0xF0 - 0xF0) * 64 + v / 4096 % 64) * 64 + v / 64 % 64) * 64
            + v % 64 = v := by
          omega
        obtain ⟨hlow, hhigh⟩ := second_of_four (v := v) (by omega) (by omega)
        simp only [List.map_cons, List.map_nil, List.cons_append, List.nil_append]
        rw [decodeLoop_of_step (by omega) hlead, List.nil_append,
          decodeLoop_more (by decide) (by omega) hlow hhigh,
          decodeLoop_more (by decide) (by omega) (by omega) (by omega),
          decodeLoop_last (by omega) (by omega) (by omega), hvalue]

theorem decode_utf8EncodeChar_append (c : Char) (rest : List UInt8) :
    decode (String.utf8EncodeChar c ++ rest) = c :: decode rest := by
  have hchar := decodeLoop_form (isValidChar_toNat c) rest
  rw [decode, utf8EncodeChar_eq, hchar, c.ofNat_toNat, decode]

/-- Reading undoes writing. -/
theorem decode_encode (t : Text) : decode (encode t) = t := by
  induction t with
  | nil => rfl
  | cons c t ih => rw [encode_cons, decode_utf8EncodeChar_append, ih]

/-- Two texts with the same form are the same. -/
theorem encode_injective {s t : Text} (h : encode s = encode t) : s = t := by
  rw [← decode_encode s, h, decode_encode]

/-! ## Where nothing is replaced, nothing is lost -/

/-- The bytes `p`, with any bytes in bounds for those that are owed, are the form of the character
that is read. -/
def Completes (p : List UInt8) (low high value : Nat) : (owed : Nat) → Prop
  | 0 => False
  | 1 => ∀ b : UInt8, low ≤ b.toNat → b.toNat ≤ high →
      String.utf8EncodeChar (Char.ofNat (value * 64 + (b.toNat - 0x80))) = p ++ [b]
  | owed + 2 => ∀ b : UInt8, low ≤ b.toNat → b.toNat ≤ high →
      Completes (p ++ [b]) 0x80 0xBF (value * 64 + (b.toNat - 0x80)) (owed + 1)

/-- The bytes `p` have been taken since the last character. -/
def Pending (p : List UInt8) : State → Prop
  | .start => p = []
  | .inside owed low high value => Completes p low high value owed

/-- A character whose form has the numbers of some bytes has these bytes. -/
theorem utf8EncodeChar_of_form {v : Nat} {p : List UInt8}
    (hv : v < 0xD800 ∨ 0xDFFF < v ∧ v < 0x110000) (h : form v = p.map UInt8.toNat) :
    String.utf8EncodeChar (Char.ofNat v) = p := by
  rw [utf8EncodeChar_eq, toNat_ofNat_of_valid hv, h, List.map_map]
  have hid : UInt8.ofNat ∘ UInt8.toNat = id := funext fun b => UInt8.ofNat_toNat
  rw [hid, List.map_id]

theorem pending_two {b : UInt8} (hlow : 0xC2 ≤ b.toNat) (hhigh : b.toNat ≤ 0xDF) :
    Pending [b] (.inside 1 0x80 0xBF (b.toNat - 0xC0)) := by
  intro c hc hc'
  refine utf8EncodeChar_of_form (by omega) ?_
  rw [form, if_neg (by omega), if_pos (by omega)]
  show [_, _] = [b.toNat, c.toNat]
  congr 2 <;> omega

theorem pending_three {b : UInt8} (hlow : 0xE0 ≤ b.toNat) (hhigh : b.toNat ≤ 0xEF) :
    Pending [b] (.inside 2 (if b.toNat = 0xE0 then 0xA0 else 0x80)
      (if b.toNat = 0xED then 0x9F else 0xBF) (b.toNat - 0xE0)) := by
  intro c hc hc' d hd hd'
  -- the bounds of the second byte keep the code out of the shorter forms and the surrogates
  have hlow' : 0x800 ≤ ((b.toNat - 0xE0) * 64 + (c.toNat - 0x80)) * 64 + (d.toNat - 0x80) := by
    split at hc <;> omega
  have hvalid : b.toNat = 0xED → c.toNat ≤ 0x9F := by
    intro hb
    rwa [if_pos hb] at hc'
  have hcont : 0x80 ≤ c.toNat ∧ c.toNat ≤ 0xBF := by
    split at hc <;> split at hc' <;> omega
  refine utf8EncodeChar_of_form (by omega) ?_
  rw [form, if_neg (by omega), if_neg (by omega), if_pos (by omega)]
  show [_, _, _] = [b.toNat, c.toNat, d.toNat]
  congr 3 <;> omega

theorem pending_four {b : UInt8} (hlow : 0xF0 ≤ b.toNat) (hhigh : b.toNat ≤ 0xF4) :
    Pending [b] (.inside 3 (if b.toNat = 0xF0 then 0x90 else 0x80)
      (if b.toNat = 0xF4 then 0x8F else 0xBF) (b.toNat - 0xF0)) := by
  intro c hc hc' d hd hd' e he he'
  -- and here below the first code of this form and beyond the last one
  have hlow' : b.toNat = 0xF0 → 0x90 ≤ c.toNat := by
    intro hb
    rwa [if_pos hb] at hc
  have hvalid : b.toNat = 0xF4 → c.toNat ≤ 0x8F := by
    intro hb
    rwa [if_pos hb] at hc'
  have hcont : 0x80 ≤ c.toNat ∧ c.toNat ≤ 0xBF := by
    split at hc <;> split at hc' <;> omega
  refine utf8EncodeChar_of_form (by omega) ?_
  rw [form, if_neg (by omega), if_neg (by omega), if_neg (by omega)]
  show [_, _, _, _] = [b.toNat, c.toNat, d.toNat, e.toNat]
  congr 4 <;> omega

/-- Between two characters, a byte is a character, a byte to go on from, or replaced. -/
theorem pending_first (b : UInt8) :
    (first b.toNat = ([Char.ofNat b.toNat], .start) ∧
        String.utf8EncodeChar (Char.ofNat b.toNat) = [b]) ∨
      (∃ s, first b.toNat = ([], s) ∧ Pending [b] s) ∨
      first b.toNat = ([replacement], .start) := by
  have hb := b.toNat_lt
  rcases Nat.lt_or_ge b.toNat 0x80 with hascii | hge
  · refine .inl ⟨first_of_lt hascii, utf8EncodeChar_of_form (by omega) ?_⟩
    rw [form, if_pos (by omega)]
    rfl
  · rcases Nat.lt_or_ge b.toNat 0xC2 with hbad | hge
    · exact .inr (.inr (first_of_no_lead (.inl ⟨by omega, hbad⟩)))
    · rcases Nat.lt_or_ge b.toNat 0xE0 with htwo | hge
      · exact .inr (.inl ⟨_, first_two (by omega) (by omega), pending_two (by omega) (by omega)⟩)
      · rcases Nat.lt_or_ge b.toNat 0xF0 with hthree | hge
        · exact .inr (.inl
            ⟨_, first_three (by omega) (by omega), pending_three (by omega) (by omega)⟩)
        · rcases Nat.lt_or_ge b.toNat 0xF5 with hfour | hbad
          · exact .inr (.inl
              ⟨_, first_four (by omega) (by omega), pending_four (by omega) (by omega)⟩)
          · exact .inr (.inr (first_of_no_lead (.inr (by omega))))

/-- Inside a character, a byte ends the character, is one to go on from, or is out of bounds. -/
theorem pending_inside {p : List UInt8} {owed low high value : Nat}
    (h : Completes p low high value owed) (b : UInt8) :
    (∃ c, step (.inside owed low high value) b.toNat = ([c], .start) ∧
        String.utf8EncodeChar c = p ++ [b]) ∨
      (∃ s, step (.inside owed low high value) b.toNat = ([], s) ∧ Pending (p ++ [b]) s) ∨
      step (.inside owed low high value) b.toNat
        = (replacement :: (first b.toNat).1, (first b.toNat).2) := by
  by_cases hbounds : low ≤ b.toNat ∧ b.toNat ≤ high
  · obtain ⟨hlow, hhigh⟩ := hbounds
    match owed, h with
    | 1, h => exact .inl ⟨_, step_inside_last hlow hhigh, h b hlow hhigh⟩
    | owed + 2, h =>
      exact .inr (.inl ⟨_, step_inside_more (by omega) hlow hhigh, h b hlow hhigh⟩)
  · exact .inr (.inr (step_of_not_bounds hbounds))

/-- One step keeps account of the bytes: they are pending, or the form of the character that is
read, or something is replaced. -/
theorem pending_step {p : List UInt8} {s : State} (h : Pending p s) (b : UInt8) :
    (∃ c, step s b.toNat = ([c], .start) ∧ String.utf8EncodeChar c = p ++ [b]) ∨
      (∃ s', step s b.toNat = ([], s') ∧ Pending (p ++ [b]) s') ∨
      replacement ∈ (step s b.toNat).1 := by
  cases s with
  | start =>
    obtain rfl : p = [] := h
    rcases pending_first b with ⟨hstep, hform⟩ | ⟨s', hstep, hpending⟩ | hstep
    · exact .inl ⟨_, hstep, hform⟩
    · exact .inr (.inl ⟨s', hstep, hpending⟩)
    · right; right
      show replacement ∈ (first b.toNat).1
      rw [hstep]
      exact List.mem_cons_self
  | inside owed low high value =>
    rcases pending_inside h b with hchar | hmore | hstep
    · exact .inl hchar
    · exact .inr (.inl hmore)
    · right; right
      rw [hstep]
      exact List.mem_cons_self

/-- Reading on, with some bytes pending, loses nothing where nothing is replaced. -/
theorem encode_decodeLoop {p : List UInt8} {s : State} (h : Pending p s) {bytes : List UInt8}
    (hno : replacement ∉ decodeLoop s [] bytes) : encode (decodeLoop s [] bytes) = p ++ bytes := by
  induction bytes generalizing p s with
  | nil =>
    cases s with
    | start =>
      obtain rfl : p = [] := h
      rfl
    -- the end of the bytes inside a character is replaced
    | inside owed low high value => exact absurd List.mem_cons_self hno
  | cons b rest ih =>
    rw [decodeLoop_cons] at hno ⊢
    rw [List.mem_append, not_or] at hno
    rcases pending_step h b with ⟨c, hstep, hform⟩ | ⟨s', hstep, hpending⟩ | hmem
    · rw [hstep] at hno ⊢
      have hstart : Pending [] .start := rfl
      rw [encode_append, ih hstart hno.2, encode_cons, encode_nil, List.append_nil, hform,
        List.nil_append, List.append_assoc, List.singleton_append]
    · rw [hstep] at hno ⊢
      rw [List.nil_append, ih hpending hno.2, List.append_assoc, List.singleton_append]
    · exact absurd hmem hno.1

/-- Bytes that are read without a replacement are the form of what is read. -/
theorem encode_decode {bytes : List UInt8} (hno : replacement ∉ decode bytes) :
    encode (decode bytes) = bytes :=
  encode_decodeLoop (p := []) (s := .start) rfl hno

end PackedScript.Utf8

import PackedScript.Proofs.Bytes.Percent
import PackedScript.Proofs.CallSite.Legacy
import PackedScript.Proofs.Literal.Quoted

/-!
# Encoded literals

A percent spelling is passed to `decodeURIComponent` as it is, or to a function that moves its
letters forward again. A move by up to 26 places stays in the alphabet of the letter's case
(`rotateChar_letter`), so it undoes the same move back (`rotate_unrotate`), for the digits of the
escapes too, and only then are the escapes read. A call ends with its quote and its parenthesis; one
that has lost the parenthesis keeps the quote (`read_unclosedCall`).
-/

namespace PackedScript.Literal

open Text

/-! ## Rotation -/

/-- A character moved back: an ASCII letter by `n` places in the alphabet of its case, from the
front to the end where it has to. -/
def unrotateChar (n : Nat) (c : Char) : Char :=
  if c.isUpper then Char.ofNat ('A'.toNat + (c.toNat - 'A'.toNat + (26 - n % 26)) % 26)
  else if c.isLower then Char.ofNat ('a'.toNat + (c.toNat - 'a'.toNat + (26 - n % 26)) % 26)
  else c

/-- A text with each ASCII letter moved back. -/
def unrotate (n : Nat) (t : Text) : Text := t.map (unrotateChar n)

/-- A letter that is moved forward by up to 26 places goes around the alphabet of its case. -/
theorem rotateChar_letter {first k n : Nat} (hfirst : first = 'A'.toNat ∨ first = 'a'.toNat)
    (hk : k < 26) (hn : n ≤ 26) :
    rotateChar n (Char.ofNat (first + k)) = Char.ofNat (first + (k + n) % 26) := by
  have hcode : first ≤ 97 := by
    rcases hfirst with rfl | rfl <;> decide
  have halpha : (Char.ofNat (first + k)).isAlpha = true := by
    rcases hfirst with rfl | rfl
    · exact (by decide : ∀ k < 26, (Char.ofNat ('A'.toNat + k)).isAlpha = true) k hk
    · exact (by decide : ∀ k < 26, (Char.ofNat ('a'.toNat + k)).isAlpha = true) k hk
  have hlimit : (if Char.ofNat (first + k) ≤ 'Z' then 'Z'.toNat else 'z'.toNat) = first + 25 := by
    rcases hfirst with rfl | rfl
    · exact (by decide : ∀ k < 26, (if Char.ofNat ('A'.toNat + k) ≤ 'Z' then 'Z'.toNat
        else 'z'.toNat) = 'A'.toNat + 25) k hk
    · exact (by decide : ∀ k < 26, (if Char.ofNat ('a'.toNat + k) ≤ 'Z' then 'Z'.toNat
        else 'z'.toNat) = 'a'.toNat + 25) k hk
  have hmoved : min (first + k + n) (shiftLimit - 1) = first + k + n :=
    Nat.min_eq_left (by rw [shiftLimit]; omega)
  have hwrapped : (if first + k + n ≤ first + 25 then first + k + n else first + k + n - 26)
      = first + (k + n) % 26 := by
    split <;> omega
  have hvalid : (first + (k + n) % 26).isValidChar := .inl (by omega)
  rw [rotateChar, if_pos halpha]
  simp only [hlimit, Utf8.toNat_ofNat_of_valid (.inl (by omega : first + k < 0xD800)), hmoved,
    hwrapped, if_pos hvalid]

/-- A letter of a case is written from its place in the alphabet. -/
theorem exists_place {first last : Char} {c : Char} (hlength : last.toNat = first.toNat + 25)
    (hc : first.val ≤ c.val ∧ c.val ≤ last.val) :
    ∃ k < 26, c.toNat = first.toNat + k ∧ Char.ofNat (first.toNat + k) = c := by
  have hlow : first.toNat ≤ c.toNat := UInt32.le_iff_toNat_le.mp hc.1
  have hhigh : c.toNat ≤ last.toNat := UInt32.le_iff_toNat_le.mp hc.2
  refine ⟨c.toNat - first.toNat, by omega, by omega, ?_⟩
  rw [Nat.add_sub_cancel' hlow, Char.ofNat_toNat]

/-- A move forward undoes the same move back. -/
theorem rotateChar_unrotateChar {n : Nat} (hn : n ≤ 26) (c : Char) :
    rotateChar n (unrotateChar n c) = c := by
  have hback {first k : Nat} (hfirst : first = 'A'.toNat ∨ first = 'a'.toNat) (hk : k < 26) :
      rotateChar n (Char.ofNat (first + (first + k - first + (26 - n % 26)) % 26))
        = Char.ofNat (first + k) := by
    rw [rotateChar_letter hfirst (Nat.mod_lt _ (by decide)) hn]
    congr 2
    omega
  unfold unrotateChar
  by_cases hupper : c.isUpper = true
  · have hrange : 'A'.val ≤ c.val ∧ c.val ≤ 'Z'.val := of_decide_eq_true hupper
    obtain ⟨k, hk, htoNat, hchar⟩ := exists_place (by decide) hrange
    rw [if_pos hupper, htoNat, hback (.inl rfl) hk, hchar]
  · by_cases hlower : c.isLower = true
    · have hrange : 'a'.val ≤ c.val ∧ c.val ≤ 'z'.val :=
        (Bool.and_eq_true_iff.mp hlower).imp of_decide_eq_true of_decide_eq_true
      obtain ⟨k, hk, htoNat, hchar⟩ := exists_place (by decide) hrange
      rw [if_neg hupper, if_pos hlower, htoNat, hback (.inr rfl) hk, hchar]
    · have halpha : ¬c.isAlpha = true := fun h => (Bool.or_eq_true_iff.mp h).elim hupper hlower
      rw [if_neg hupper, if_neg hlower, rotateChar, if_neg halpha]

theorem rotate_unrotate {n : Nat} (hn : n ≤ 26) (t : Text) : rotate n (unrotate n t) = t := by
  rw [rotate, unrotate, List.map_map]
  exact List.map_id'' (rotateChar_unrotateChar hn) t

/-- No letter is moved back to a character that is none. -/
theorem notMem_unrotate {n : Nat} (hn : n ≤ 26) {c : Char} (hc : c.isAlpha = false) {t : Text}
    (ht : c ∉ t) : c ∉ unrotate n t := by
  intro hmem
  obtain ⟨d, hd, heq⟩ := List.mem_map.mp hmem
  have hsame : rotateChar n c = d := by rw [← heq, rotateChar_unrotateChar hn]
  rw [rotateChar, if_neg (by simp [hc])] at hsame
  exact ht (hsame ▸ hd)

/-! ## Calls -/

/-- A call that reads escapes, as far as the quote behind its argument. -/
def unclosedCall (quote : Char) (ws₁ ws₂ s : Text) : Text :=
  decoderName ++ (ws₁ ++ '(' :: (ws₂ ++ quote :: (s ++ [quote])))

/-- A call that reads escapes. -/
def callText (quote : Char) (ws₁ ws₂ ws₃ s : Text) : Text :=
  unclosedCall quote ws₁ ws₂ s ++ (ws₃ ++ [')'])

theorem stopsAt_decoderName (t : Text) : StopsAt Unicode.isSpace (decoderName ++ t) := by
  have hname : decoderName = 'd' :: "ecodeURIComponent".toList := by decide
  rw [hname]
  exact .cons (by decide) _

theorem readTrimmed_decoderName (t : Text) :
    readTrimmed (decoderName ++ t) = readCall (decoderName ++ t) := by
  have hother : after? "function".toList (decoderName ++ t) = none := rfl
  unfold readTrimmed
  rw [hother, after?_append, Option.isSome_none, Option.isSome_some, if_neg Bool.false_ne_true,
    if_pos rfl]

section

variable {quote : Char} (hquote : isQuote quote = true)

include hquote

theorem dropCallStart_append {ws₁ ws₂ : Text} (hws₁ : Blank ws₁) (hws₂ : Blank ws₂) (t : Text) :
    dropCallStart (decoderName ++ (ws₁ ++ '(' :: (ws₂ ++ quote :: t))) = t := by
  have hparen : StopsAt Unicode.isSpace ('(' :: (ws₂ ++ quote :: t)) := .cons (by decide) _
  have hstop : StopsAt Unicode.isSpace (quote :: t) := .cons (isSpace_quote hquote) _
  simp only [dropCallStart, after?_append, Option.bind_eq_bind, Option.bind_some,
    trimStart_append_of_stopsAt hws₁ hparen, after?, beq_self_eq_true, if_true,
    trimStart_append_of_stopsAt hws₂ hstop, hquote, Option.getD_some]

theorem dropCallEnd_append {ws : Text} (hws : Blank ws) (s : Text) :
    dropCallEnd (s ++ (quote :: ws ++ [')'])) = s := by
  have hreverse : (s ++ (quote :: ws ++ [')'])).reverse
      = ')' :: (ws.reverse ++ quote :: s.reverse) := by
    simp
  have hblank : ∀ c ∈ ws.reverse, Unicode.isSpace c = true := fun c hc =>
    hws c (List.mem_reverse.mp hc)
  have hstop : StopsAt Unicode.isSpace (quote :: s.reverse) := .cons (isSpace_quote hquote) _
  simp only [dropCallEnd, hreverse, dropWhile_append_of_stopsAt hblank hstop, hquote, if_true,
    List.reverse_reverse]

/-- Without a parenthesis at its end a call has no end that is dropped. -/
theorem dropCallEnd_concat_quote (s : Text) : dropCallEnd (s ++ [quote]) = s ++ [quote] := by
  have hreverse : (s ++ [quote]).reverse = quote :: s.reverse := by simp
  unfold dropCallEnd
  rw [hreverse]
  rcases isQuote_iff.mp hquote with rfl | rfl <;> rfl

section

variable {lead ws₁ ws₂ ws₃ trail t s : Text} (hlead : Blank lead) (hws₁ : Blank ws₁)
  (hws₂ : Blank ws₂) (htrail : Blank trail) (hspelling : Percent.Spelling t s)

include hlead hws₁ hws₂ htrail hspelling

/-- A call is read as the text whose spelling it holds. -/
theorem read_callText (hws₃ : Blank ws₃) :
    read (lead ++ (callText quote ws₁ ws₂ ws₃ s ++ trail)) = t := by
  have hend : StopsAt Unicode.isSpace (callText quote ws₁ ws₂ ws₃ s).reverse := by
    rw [callText, ← List.append_assoc, List.reverse_concat]
    exact .cons (by decide) _
  have hopened : callText quote ws₁ ws₂ ws₃ s = decoderName ++ (ws₁ ++ '(' :: (ws₂ ++ quote ::
      (s ++ (quote :: ws₃ ++ [')'])))) := by
    simp [callText, unclosedCall]
  rw [hopened] at hend ⊢
  rw [read, trim_append_of_stopsAt hlead htrail (stopsAt_decoderName _) hend,
    readTrimmed_decoderName, readCall, dropCallStart_append hquote hws₁ hws₂,
    dropCallEnd_append hquote hws₃, Percent.decode_spelling hspelling]

/-- A call that has lost its end is read with the quote that closes its argument. -/
theorem read_unclosedCall :
    read (lead ++ (unclosedCall quote ws₁ ws₂ s ++ trail)) = t ++ [quote] := by
  have hend : StopsAt Unicode.isSpace (unclosedCall quote ws₁ ws₂ s).reverse := by
    have hconcat : unclosedCall quote ws₁ ws₂ s
        = (decoderName ++ (ws₁ ++ '(' :: (ws₂ ++ quote :: s))) ++ [quote] := by
      simp [unclosedCall]
    rw [hconcat, List.reverse_concat]
    exact .cons (isSpace_quote hquote) _
  have hsign : quote ≠ '%' := by
    rcases isQuote_iff.mp hquote with rfl | rfl <;> decide
  rw [unclosedCall] at hend ⊢
  rw [read, trim_append_of_stopsAt hlead htrail (stopsAt_decoderName _) hend,
    readTrimmed_decoderName, readCall, dropCallStart_append hquote hws₁ hws₂,
    dropCallEnd_concat_quote hquote, Percent.decode_spelling_concat hspelling hsign]

end

end

/-! ## Functions that rotate -/

/-- What a function starts with. -/
def functionName : Text := "function".toList

/-- A function whose body holds a text between `a` and `b`, and its call on a number. -/
def rotationText (a text b ws digits : Text) : Text :=
  functionName ++ (a ++ (['=', '"'] ++ (text ++ '"' :: (b ++ '}' :: (ws ++ '(' ::
    (digits ++ [')']))))))

theorem functionName_eq : functionName = 'f' :: "unction".toList := by
  decide

theorem readTrimmed_functionName (t : Text) :
    readTrimmed (functionName ++ t) = readRotation (functionName ++ t) := by
  have hfunction : (after? functionName (functionName ++ t)).isSome = true := by
    rw [after?_append, Option.isSome_some]
  unfold readTrimmed
  exact if_pos hfunction

/-- The last call on a number is the one behind the function. -/
theorem cutLast_callDigits? {ws digits : Text} (hws : Blank ws) (hdigits : DigitRun digits)
    (front : Text) :
    cutLast callDigits? (front ++ '}' :: (ws ++ '(' :: (digits ++ [')'])))
      = some (front, digits) := by
  have hparen : StopsAt Unicode.isSpace ('(' :: (digits ++ [')'])) := .cons (by decide) _
  have hstop : StopsAt Unicode.isDecimalDigit [')'] := .cons (by decide) _
  have hread : callDigits? ('}' :: (ws ++ '(' :: (digits ++ [')']))) = some digits := by
    simp only [callDigits?, trimStart_append_of_stopsAt hws hparen, after?, beq_self_eq_true,
      if_true, Option.bind_eq_bind, Option.bind_some, digits?_append hdigits hstop]
  -- every call starts with a brace, and none is left behind this one
  have hneeds (t found : Text) (h : callDigits? t = some found) : 1 ≤ t.count '}' := by
    unfold callDigits? at h
    split at h
    · rw [List.count_cons_self]
      omega
    · cases h
  have hcount : (ws ++ '(' :: (digits ++ [')'])).count '}' = 0 := by
    rw [List.count_eq_zero]
    simp [notMem_of_blank (by decide : Unicode.isSpace '}' = false) hws,
      notMem_of_digitRun (by decide : Unicode.isDecimalDigit '}' = false) hdigits]
  exact cutLast_eq_of_count hneeds hread (by omega)

/-- What stands behind an opening, unless it is closed at once or nothing is there. -/
def opened? : Text → Option Text
  | [] => none
  | c :: rest => if c = '"' then none else some (c :: rest)

theorem openText?_eq (t : Text) : openText? t = (after? ['=', '"'] t).bind opened? := by
  cases hafter : after? ['=', '"'] t with
  | some rest =>
    rw [after?_eq_some_iff.mp hafter]
    cases rest <;> rfl
  | none =>
    unfold openText?
    split
    · cases hafter
    · rfl

/-- The first text in the body is the one that is opened first. -/
theorem cutFirst_openText? {pre : Text} {c : Char} (hpre : ¬['=', '"'] <:+: pre) (hc : c ≠ '"')
    (t : Text) :
    cutFirst openText? (pre ++ (['=', '"'] ++ c :: t)) = some (pre, c :: t) := by
  have hopened : opened? (c :: t) = some (c :: t) := if_neg hc
  rw [funext openText?_eq]
  exact cutFirst_bind (cutFirst_after?_eq (by decide) hpre) hopened

section

variable {a text b ws digits : Text}

/-- What stands in front of the text in a function opens no other one. -/
theorem not_infix_functionName_append (ha : ¬['=', '"'] <:+: a) :
    ¬['=', '"'] <:+: functionName ++ a := by
  have hname : '=' ∉ functionName := by decide
  rintro ⟨front, rest, heq⟩
  have hsuffix : ['=', '"'] ++ rest <:+ functionName ++ a := ⟨front, by simpa using heq⟩
  obtain ⟨front', heq'⟩ := suffix_of_suffix_append (c := '=') hsuffix rfl hname
  exact ha ⟨front', rest, by rw [← heq', List.append_assoc]⟩

/-- The text of a function is found in its body, and the number behind it. -/
theorem rotation?_rotationText (ha : ¬['=', '"'] <:+: a) (htext : text ≠ []) (hquote : '"' ∉ text)
    (hws : Blank ws) (hdigits : DigitRun digits) :
    rotation? (rotationText a text b ws digits) = some (text, digits) := by
  obtain ⟨c, text, rfl⟩ := List.exists_cons_of_ne_nil htext
  have hc : c ≠ '"' := fun heq => hquote (heq ▸ List.mem_cons_self)
  have hcall := cutLast_callDigits? hws hdigits
    ((functionName ++ a) ++ (['=', '"'] ++ c :: (text ++ '"' :: b)))
  have hopen := cutFirst_openText? (not_infix_functionName_append ha) hc (text ++ '"' :: b)
  have hwhole : rotationText a (c :: text) b ws digits
      = ((functionName ++ a) ++ (['=', '"'] ++ c :: (text ++ '"' :: b)))
        ++ '}' :: (ws ++ '(' :: (digits ++ [')'])) := by
    simp [rotationText]
  have htake : (c :: (text ++ '"' :: b)).takeWhile (· ≠ '"') = c :: text := by
    rw [← List.cons_append]
    refine takeWhile_append_of_stopsAt (fun d hd => ?_) (.cons (by decide) b)
    exact decide_eq_true fun heq => hquote (heq ▸ hd)
  rw [rotation?, hwhole, hcall]
  simp only [Option.bind_eq_bind, Option.bind_some, hopen, htake]

/-- There is no white space around a function and its call. -/
theorem trim_rotationText {lead trail : Text} (hlead : Blank lead) (htrail : Blank trail) :
    trim (lead ++ (rotationText a text b ws digits ++ trail))
      = rotationText a text b ws digits := by
  have hconcat : rotationText a text b ws digits = (functionName ++ (a ++ (['=', '"'] ++ (text ++
      '"' :: (b ++ '}' :: (ws ++ '(' :: digits)))))) ++ [')'] := by
    simp [rotationText]
  refine trim_append_of_stopsAt hlead htrail ?_ ?_
  · rw [rotationText, functionName_eq]
    exact .cons (by decide) _
  · rw [hconcat, List.reverse_concat]
    exact .cons (by decide) _

/-- A function is read as the text whose letters it moves forward. -/
theorem read_rotationText {n : Nat} {lead trail t s : Text} (hlead : Blank lead)
    (htrail : Blank trail) (hspelling : Percent.Spelling t s) (ht : t ≠ []) (hn : n ≤ 26)
    (hdigits : Numeral.Decimal digits n) (ha : ¬['=', '"'] <:+: a) (hws : Blank ws) :
    read (lead ++ (rotationText a (unrotate n s) b ws digits ++ trail)) = t := by
  have htext : unrotate n s ≠ [] := by
    simpa [unrotate] using Percent.spelling_ne_nil hspelling ht
  have hquote : '"' ∉ unrotate n s :=
    notMem_unrotate hn (by decide) (Percent.notMem_spelling hspelling (.inl rfl))
  have hrotation := rotation?_rotationText (b := b) ha htext hquote hws
    (CallSite.digitRun_of_decimal hdigits)
  have hshift : Numeral.decimal? shiftLimit digits = some n :=
    (Numeral.decimal?_eq_some_iff (by decide)).mpr ⟨hdigits, by rw [shiftLimit]; omega⟩
  have htrimmed : readTrimmed (rotationText a (unrotate n s) b ws digits)
      = readRotation (rotationText a (unrotate n s) b ws digits) := readTrimmed_functionName _
  rw [read, trim_rotationText hlead htrail, htrimmed, readRotation, hrotation]
  simp only [hshift, rotate_unrotate hn, Percent.decode_spelling hspelling]

end

/-- However a text is spelled, each encoded literal that holds the spelling is read as the text: a
call, whatever its quote, and, unless the text is empty, a function that moves letters by up to 26
places, whatever else it holds. -/
theorem read_spelling {t s lead trail ws : Text} (hspelling : Percent.Spelling t s)
    (hlead : Blank lead) (htrail : Blank trail) (hws : Blank ws) :
    (∀ quote ws₁ ws₂, isQuote quote = true → Blank ws₁ → Blank ws₂ →
      read (lead ++ (callText quote ws ws₁ ws₂ s ++ trail)) = t) ∧
    (t ≠ [] → ∀ n ≤ 26, ∀ digits, Numeral.Decimal digits n → ∀ a b, ¬['=', '"'] <:+: a →
      read (lead ++ (rotationText a (unrotate n s) b ws digits ++ trail)) = t) := by
  constructor
  · intro quote ws₁ ws₂ hquote hws₁ hws₂
    exact read_callText hquote hlead hws hws₁ htrail hspelling hws₂
  · intro ht n hn digits hdigits a b ha
    exact read_rotationText hlead htrail hspelling ht hn hdigits ha hws

/-- A character of two bytes and a letter in escapes, of digits in either case. Moved back, `A` is
the end of the alphabet, and the body of the function holds another call on a number. -/
theorem read_spelling_moved_escapes :
    read " decodeURIComponent\n(\t'%c3%A9 Z%61' )".toList = "é Za".toList ∧
      read " function()\x7bvar s=\"%b3%Z9 Y%61\";f=\"\x7d(2)\";return s\x7d\n(01)".toList
        = "é Za".toList := by
  have hbytes : String.utf8EncodeChar 'é' = [0xC3, 0xA9] ∧ String.utf8EncodeChar 'a' = [0x61] := by
    decide
  have htwo : Percent.Escapes (String.utf8EncodeChar 'é') "%c3%A9".toList := by
    rw [hbytes.1]
    exact .cons (by decide) (by decide) (.cons (by decide) (by decide) .nil)
  have hone : Percent.Escapes (String.utf8EncodeChar 'a') "%61".toList := by
    rw [hbytes.2]
    exact .cons (by decide) (by decide) .nil
  have hspelling : Percent.Spelling "é Za".toList "%c3%A9 Z%61".toList :=
    .escape htwo (.keep (by decide) (.keep (by decide) (.escape hone .nil)))
  have hspelled := @read_spelling _ _ [' '] [] ['\n'] hspelling (by decide) (by decide) (by decide)
  have hnumber : Numeral.Decimal "01".toList 1 := ⟨by decide, [0, 1], by decide, by decide⟩
  have hcall := hspelled.1 '\'' ['\t'] [' '] (by decide) (by decide) (by decide)
  have hfunction := hspelled.2 (by decide) 1 (by decide) "01".toList hnumber
    "()\x7bvar s".toList ";f=\"\x7d(2)\";return s".toList (by decide +kernel)
  have hcallText : " decodeURIComponent\n(\t'%c3%A9 Z%61' )".toList
      = [' '] ++ (callText '\'' ['\n'] ['\t'] [' '] "%c3%A9 Z%61".toList ++ []) := by
    decide +kernel
  have hfunctionText :
      " function()\x7bvar s=\"%b3%Z9 Y%61\";f=\"\x7d(2)\";return s\x7d\n(01)".toList
        = [' '] ++ (rotationText "()\x7bvar s".toList (unrotate 1 "%c3%A9 Z%61".toList)
          ";f=\"\x7d(2)\";return s".toList ['\n'] "01".toList ++ []) := by
    decide +kernel
  rw [hcallText, hfunctionText]
  exact ⟨hcall, hfunction⟩

end PackedScript.Literal

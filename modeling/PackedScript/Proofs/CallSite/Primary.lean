import PackedScript.Proofs.CallSite.Legacy

/-!
# Primary calls are read back

Each part of a primary call ends at the first place where the next one can begin, so the call is
read as it is written where no earlier place will do. For the opening and the table that is a matter
of what stands before them. For the payload it must also be ruled out that numbers begin in it and
end in those of the call: numbers have three commas and end with their only parenthesis, and the
numbers of the call have all of these for themselves (`primaryNumbers?_eq_none`). White space around
the payload is trimmed by whoever comes first, the cut or the reader of the literal, so nothing
depends on which of them it belongs to, and `extract_primaryText` says that the literals of the call
are read as they were written.
-/

namespace PackedScript.CallSite

open Text

/-- An opening of a primary call. -/
def openingText (ws : Text) : Text := '}' :: ws ++ ['(']

/-! ## Parts that do not stand in a text -/

theorem not_openingText_infix {ws t : Text} (hws : Blank ws) (h : cutFirst opening? t = none) :
    ¬openingText ws <:+: t := by
  refine not_infix_of_cutFirst (fun rest hnone => ?_) h
  have hopening : openingText ws ++ rest = '}' :: (ws ++ '(' :: rest) := by simp [openingText]
  rw [hopening, opening?_append hws] at hnone
  cases hnone

theorem not_primaryNumbersText_infix {s : NumberSpacing} {radix count t : Text} (hs : s.Blank)
    (hradix : DigitRun radix) (hcount : DigitRun count) (h : cutFirst primaryNumbers? t = none) :
    ¬primaryNumbersText s radix count <:+: t := by
  refine not_infix_of_cutFirst (fun rest hnone => ?_) h
  rw [primaryNumbers?_append hs hradix hcount] at hnone
  cases hnone

/-! ## The opening -/

section

variable {pre post ws₁ ws₂ ws₃ : Text} {s : NumberSpacing} {f : Fields}

/-- A call opens where it is written if no other one opens before it. -/
theorem cutFirst_opening? (hws₁ : Blank ws₁) (hpre : ∀ ws, Blank ws → ¬openingText ws <:+: pre)
    (t : Text) : cutFirst opening? (pre ++ '}' :: (ws₁ ++ '(' :: t)) = some (pre, trimStart t) := by
  refine cutFirst_eq_some_iff.mpr ⟨'}' :: (ws₁ ++ '(' :: t), rfl, opening?_append hws₁, ?_⟩
  intro front mid hsplit hmid
  rw [Option.eq_none_iff_forall_ne_some]
  intro rest hrest
  obtain ⟨ws, ws', hws, -, heq⟩ := eq_append_of_opening? hrest
  cases mid with
  | nil => exact hmid rfl
  | cons c mid =>
    -- the brace behind the text in front keeps the earlier opening away from the call
    obtain ⟨rfl, htail⟩ := List.cons.inj heq
    have hbrace : '}' ∉ ws ++ ['('] := by
      simp [notMem_of_blank (by decide : Unicode.isSpace '}' = false) hws]
    have hopening : ws ++ ['('] <+: mid :=
      (prefix_append_cons_iff (b := ws₁ ++ '(' :: t) hbrace).mp
        ⟨ws' ++ rest, by simpa using htail.symm⟩
    refine hpre ws hws ?_
    rw [hsplit]
    exact (List.cons_prefix_cons.mpr ⟨rfl, hopening⟩).isInfix.trans
      (List.suffix_append front _).isInfix

/-! ## The payload -/

/-- The numbers of a primary call have three commas. -/
theorem count_comma_primaryNumbersText {radix count : Text} (hs : s.Blank) (hradix : DigitRun radix)
    (hcount : DigitRun count) : (primaryNumbersText s radix count).count ',' = 3 := by
  have hblank {ws : Text} (hws : Blank ws) : ws.count ',' = 0 :=
    List.count_eq_zero.mpr (notMem_of_blank (by decide) hws)
  have hdigits {ds : Text} (hds : DigitRun ds) : ds.count ',' = 0 :=
    List.count_eq_zero.mpr (notMem_of_digitRun (by decide) hds)
  simp [primaryNumbersText, hblank hs.beforeRadix, hblank hs.afterRadix, hblank hs.beforeCount,
    hblank hs.afterCount, hblank hs.beforeTable, hdigits hradix, hdigits hcount]

/-- Numbers that begin before those of a call end before them. -/
theorem primaryNumbers?_eq_none {radix count mid : Text} (hs : s.Blank) (hradix : DigitRun radix)
    (hcount : DigitRun count) (hmid : mid ≠ [])
    (hno : ∀ s' radix' count', s'.Blank → DigitRun radix' → DigitRun count' →
      ¬primaryNumbersText s' radix' count' <:+: mid) (t : Text) :
    primaryNumbers? (mid ++ (primaryNumbersText s radix count ++ t)) = none := by
  rw [Option.eq_none_iff_forall_ne_some]
  intro found hread
  obtain ⟨s', hs', hradix', hcount', heq⟩ := eq_append_of_primaryNumbers? hread
  have hcommas := count_comma_primaryNumbersText hs hradix hcount
  have hcommas' := count_comma_primaryNumbersText hs' hradix' hcount'
  obtain ⟨front, hparen, hfront⟩ := exists_primaryNumbersText_eq_append hs hradix hcount
  obtain ⟨front', -, hfront'⟩ := exists_primaryNumbersText_eq_append hs' hradix' hcount'
  rcases List.append_eq_append_iff.mp heq with ⟨across, hacross, hrest⟩ | ⟨behind, hinside, -⟩
  · have hne : across ≠ [] := by
      rintro rfl
      rw [List.append_nil] at hacross
      exact hno s' _ _ hs' hradix' hcount' (hacross ▸ List.infix_rfl)
    have hlast : '(' ∈ across := by
      refine List.mem_of_getLast? ?_
      rw [← List.getLast?_append_of_ne_nil mid hne, ← hacross, hfront', List.getLast?_concat]
    -- the part behind the payload ends with a parenthesis, so it has all commas of the call's numbers
    have hall : primaryNumbersText s radix count <+: across := by
      rcases List.prefix_or_prefix_of_prefix (List.prefix_append _ t) ⟨_, hrest.symm⟩ with h | h
      · exact h
      · rw [hfront, List.prefix_concat_iff] at h
        rcases h with h | h
        · rw [h, hfront]
        · exact absurd (h.subset hlast) hparen
    have hmore := hall.sublist.count_le ','
    have hfirst : 1 ≤ mid.count ',' := by
      cases mid with
      | nil => exact absurd rfl hmid
      | cons c mid =>
        obtain ⟨rfl, -⟩ := List.cons.inj hacross
        simp
    rw [hacross, List.count_append] at hcommas'
    omega
  · refine hno s' _ _ hs' hradix' hcount' ?_
    rw [hinside]
    exact (List.prefix_append _ behind).isInfix

/-- The payload of a call ends where it is written if no numbers stand in it. -/
theorem cutFirst_primaryNumbers? {radix count payload : Text} (hs : s.Blank)
    (hradix : DigitRun radix) (hcount : DigitRun count)
    (hno : ∀ s' radix' count', s'.Blank → DigitRun radix' → DigitRun count' →
      ¬primaryNumbersText s' radix' count' <:+: payload) (t : Text) :
    cutFirst primaryNumbers? (payload ++ (primaryNumbersText s radix count ++ t))
      = some (payload, radix, count, t) := by
  refine cutFirst_eq_some_iff.mpr ⟨_, rfl, primaryNumbers?_append hs hradix hcount t, ?_⟩
  intro front mid hsplit hmid
  refine primaryNumbers?_eq_none hs hradix hcount hmid (fun s' radix' count' hs' hr hc h => ?_) t
  refine hno s' radix' count' hs' hr hc (h.trans ?_)
  rw [hsplit]
  exact (List.suffix_append front mid).isInfix

/-- White space around a payload holds no part of numbers. -/
theorem not_primaryNumbersText_infix_trimStart {radix count payload : Text} (hs : s.Blank)
    (hradix : DigitRun radix) (hcount : DigitRun count) (hws₃ : Blank ws₃)
    (hno : ¬primaryNumbersText s radix count <:+: payload) :
    ¬primaryNumbersText s radix count <:+: trimStart (payload ++ ws₃) := by
  intro hstands
  obtain ⟨front, -, hfront⟩ := exists_primaryNumbersText_eq_append hs hradix hcount
  have hlast : (primaryNumbersText s radix count).getLast? = some '(' := by
    rw [hfront, List.getLast?_concat]
  refine hno (infix_of_infix_append hlast (notMem_of_blank (by decide) hws₃) (hstands.trans ?_))
  exact (List.dropWhile_suffix _).isInfix

/-! ## The call -/

/-- A primary call is read as it is written, but for white space around its payload, if no call
opens before it, no numbers stand in its payload, no table ends in its table and no parenthesis
closes its delimiter. -/
theorem primary?_append (hws₁ : Blank ws₁) (hws₂ : Blank ws₂) (hws₃ : Blank ws₃) (hs : s.Blank)
    (hradix : DigitRun f.radix) (hcount : DigitRun f.count)
    (hpre : ∀ ws, Blank ws → ¬openingText ws <:+: pre)
    (hpayload : ∀ s' radix' count', s'.Blank → DigitRun radix' → DigitRun count' →
      ¬primaryNumbersText s' radix' count' <:+: f.payload)
    (htable : ¬").split(".toList <:+: f.table) (hdelimiter : ')' ∉ f.delimiter) :
    primary? (pre ++ primaryText ws₁ ws₂ ws₃ s f ++ post)
      = some { f with payload := trim f.payload } := by
  -- each cut takes the call apart from its front
  generalize hbehind : f.table ++ (").split(".toList ++ (f.delimiter ++ ([')'] ++ post))) = behind
  have hcut₁ := cutFirst_opening? hws₁ hpre
    (ws₂ ++ (f.payload ++ (ws₃ ++ (primaryNumbersText s f.radix f.count ++ behind))))
  have htext : pre ++ primaryText ws₁ ws₂ ws₃ s f ++ post = pre ++ '}' :: (ws₁ ++ '(' ::
      (ws₂ ++ (f.payload ++ (ws₃ ++ (primaryNumbersText s f.radix f.count ++ behind))))) := by
    simp [primaryText, ← hbehind]
  have hinside : trimStart (ws₂ ++ (f.payload ++ (ws₃ ++
      (primaryNumbersText s f.radix f.count ++ behind))))
      = trimStart (f.payload ++ ws₃) ++ (primaryNumbersText s f.radix f.count ++ behind) := by
    have hcomma : StopsAt Unicode.isSpace (primaryNumbersText s f.radix f.count ++ behind) :=
      .cons (by decide) _
    rw [trimStart_blank_append hws₂, ← List.append_assoc, trimStart_append _ hcomma]
  have hcut₂ := cutFirst_primaryNumbers? hs hradix hcount
    (fun s' radix' count' hs' hr hc => not_primaryNumbersText_infix_trimStart hs' hr hc hws₃
      (hpayload s' radix' count' hs' hr hc)) behind
  have hcut₃ : cutFirst (after? ").split(".toList) behind
      = some (f.table, f.delimiter ++ ([')'] ++ post)) := by
    rw [← hbehind]
    exact cutFirst_after?_eq (x := ')') (by decide) htable
  have hcut₄ : cutFirst (after? [')']) (f.delimiter ++ ([')'] ++ post))
      = some (f.delimiter, post) :=
    cutFirst_after?_eq (by simp) fun hstands => hdelimiter (hstands.subset List.mem_cons_self)
  have htrim : trimEnd (trimStart (f.payload ++ ws₃)) = trim f.payload :=
    trim_append_blank f.payload hws₃
  simp only [primary?, htext, hcut₁, hinside, hcut₂, hcut₃, hcut₄, htrim, Option.bind_eq_bind,
    Option.bind_some]

/-- Trimming a literal does not change what it stands for. -/
theorem read_trim (t : Text) : Literal.read (trim t) = Literal.read t := by
  rw [Literal.read, trim_trim, Literal.read]

/-- A primary call gives back what the literals stand for that it was written with, and its numbers,
however it is spaced and whatever follows it. -/
theorem extract_primaryText {radix count : Nat} (hws₁ : Blank ws₁) (hws₂ : Blank ws₂)
    (hws₃ : Blank ws₃) (hs : s.Blank) (hradix : Numeral.Decimal f.radix radix)
    (hradix_lt : radix < Numeral.sizeLimit) (hcount : Numeral.Decimal f.count count)
    (hcount_lt : count < Numeral.sizeLimit) (hpre : ∀ ws, Blank ws → ¬openingText ws <:+: pre)
    (hpayload : ∀ s' radix' count', s'.Blank → DigitRun radix' → DigitRun count' →
      ¬primaryNumbersText s' radix' count' <:+: f.payload)
    (htable : ¬").split(".toList <:+: f.table) (hdelimiter : ')' ∉ f.delimiter)
    (hdelimiter_ne : Literal.read f.delimiter ≠ [])
    (hquote : ¬escapedQuote <:+: pre ++ primaryText ws₁ ws₂ ws₃ s f ++ post)
    (hplaceholder : ¬placeholder <:+: pre ++ primaryText ws₁ ws₂ ws₃ s f ++ post) :
    (extract (pre ++ primaryText ws₁ ws₂ ws₃ s f ++ post)).outcome
      = .ok ⟨.primary, Literal.read f.payload, radix, count, Literal.read f.table,
          Literal.read f.delimiter⟩ := by
  have hplain := plain_of_escaped (Escaped.refl _) hplaceholder hquote
  have hprimary : primary? (pre ++ primaryText ws₁ ws₂ ws₃ s f ++ post)
      = some { f with payload := trim f.payload } :=
    primary?_append hws₁ hws₂ hws₃ hs (digitRun_of_decimal hradix) (digitRun_of_decimal hcount)
      hpre hpayload htable hdelimiter
  have hradix' := size?_eq_some_iff.mpr ⟨hradix, hradix_lt⟩
  have hcount' := size?_eq_some_iff.mpr ⟨hcount, hcount_lt⟩
  rw [outcome_extract_eq_ok_iff]
  simp only [ofSource, hplain, hprimary, Fields.read, ofFields, hradix', hcount', read_trim]
  rw [if_neg (by rw [List.isEmpty_iff]; exact hdelimiter_ne)]

end

/-- A payload with numbers of its own, a table with parentheses, and white space of several kinds. -/
theorem extract_primaryText_numbers_in_payload :
    (extract ("eval(function(p,a,c,k,e,d)\x7b\x7d \x7d\n( '0(1,2,3)'\u00a0,62 ,\t3,(".toList
        ++ "\"f()|x\"+\"|y\").split( '|' ))".toList)).outcome
      = .ok ⟨.primary, "0(1,2,3)".toList, 62, 3, "f()|x|y".toList, "|".toList⟩ := by
  have hradix : Numeral.Decimal "62".toList 62 := ⟨by decide, [6, 2], by decide, by decide⟩
  have hcount : Numeral.Decimal "3".toList 3 := ⟨by decide, [3], by decide, by decide⟩
  have hblank (ws : Text) (h : ws.all Unicode.isSpace = true) : Blank ws := List.all_eq_true.mp h
  have hextract := @extract_primaryText "eval(function(p,a,c,k,e,d)\x7b\x7d ".toList [')'] ['\n']
    [' '] ['\u00a0'] ⟨[], [' '], ['\t'], [], []⟩ ⟨"'0(1,2,3)'".toList, "62".toList, "3".toList,
      "\"f()|x\"+\"|y\"".toList, " '|' ".toList⟩ 62 3 (hblank _ (by decide)) (hblank _ (by decide))
    (hblank _ (by decide)) ⟨hblank _ (by decide), hblank _ (by decide), hblank _ (by decide),
      hblank _ (by decide), hblank _ (by decide)⟩ hradix (by decide) hcount (by decide)
    (fun ws hws => not_openingText_infix hws (by decide +kernel))
    (fun s r c hs hr hc => not_primaryNumbersText_infix hs hr hc (by decide +kernel))
    (by decide +kernel) (by decide +kernel) (by decide +kernel) (by decide +kernel)
    (by decide +kernel)
  have hpayload : Literal.read "'0(1,2,3)'".toList = "0(1,2,3)".toList := by decide +kernel
  have htable : Literal.read "\"f()|x\"+\"|y\"".toList = "f()|x|y".toList := by decide +kernel
  have hdelimiter : Literal.read " '|' ".toList = "|".toList := by decide +kernel
  rw [hpayload, htable, hdelimiter] at hextract
  simpa [primaryText, primaryNumbersText] using hextract

end PackedScript.CallSite

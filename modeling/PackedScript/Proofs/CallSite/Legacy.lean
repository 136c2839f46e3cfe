import PackedScript.Proofs.CallSite.Grammar
import PackedScript.Proofs.CallSite.Plain

/-!
# Legacy calls are read back

The payload of a legacy call may hold anything, ends of calls and whole `', 1, 2, '` included. Only
the last cuts settle where it ends, and they are settled by quotes alone: each of them needs one
quote more than there is left behind it (`legacy?_append`). A script that has no `).split(` holds no
call of primary shape, so nothing comes before the legacy shape, and `extract_legacyText` says that
the call is extracted as it was written, also where quotes of the payload are escaped.
-/

namespace PackedScript.CallSite

open Text

/-! ## Numerals are digits -/

theorem isDecimalDigit_of_decimalDigit? {c : Char} {d : Nat} (h : Numeral.decimalDigit? c = some d) :
    Unicode.isDecimalDigit c = true := by
  unfold Numeral.decimalDigit? at h
  split at h
  · next hrange =>
    have hfirst : 48 ≤ c.toNat := hrange.1
    have hlast : c.toNat ≤ 57 := hrange.2
    rw [Unicode.isDecimalDigit, Unicode.decimalDigits, Unicode.RunTable.contains,
      if_neg (by omega), if_pos (by omega)]
  · simp at h

/-- A decimal numeral is a run of digits. -/
theorem digitRun_of_decimal {t : Text} {n : Nat} (h : Numeral.Decimal t n) : DigitRun t := by
  obtain ⟨hne, ds, hds, -⟩ := h
  refine ⟨hne, fun c hc => ?_⟩
  have hmem : Numeral.decimalDigit? c ∈ ds.map some := by
    rw [← hds]
    exact List.mem_map_of_mem hc
  obtain ⟨d, -, hd⟩ := List.mem_map.mp hmem
  exact isDecimalDigit_of_decimalDigit? hd.symm

/-! ## Quotes -/

section

variable {sp₁ sp₂ sp₃ radix count : Text}

/-- The numbers of a legacy call have a quote at each end and no other one. -/
theorem count_quote_legacyNumbersText (hsp₁ : Spaces sp₁) (hsp₂ : Spaces sp₂) (hsp₃ : Spaces sp₃)
    (hradix : DigitRun radix) (hcount : DigitRun count) :
    (legacyNumbersText sp₁ sp₂ sp₃ radix count).count '\'' = 2 := by
  have hspaces {sp : Text} (hsp : Spaces sp) : sp.count '\'' = 0 :=
    List.count_eq_zero.mpr fun hmem => absurd (hsp _ hmem) (by decide)
  have hdigits {ds : Text} (hds : DigitRun ds) : ds.count '\'' = 0 :=
    List.count_eq_zero.mpr (notMem_of_digitRun (by decide) hds)
  simp [legacyNumbersText, hspaces hsp₁, hspaces hsp₂, hspaces hsp₃, hdigits hradix,
    hdigits hcount]

theorem two_le_count_of_legacyNumbers? {t : Text} {found : Text × Text × Text}
    (h : legacyNumbers? t = some found) : 2 ≤ t.count '\'' := by
  obtain ⟨_, _, _⟩ := found
  obtain ⟨_, _, _, hsp₁, hsp₂, hsp₃, hradix, hcount, rfl⟩ := eq_append_of_legacyNumbers? h
  rw [List.count_append, count_quote_legacyNumbersText hsp₁ hsp₂ hsp₃ hradix hcount]
  omega

end

/-! ## The one right cut -/

section

variable {pre post sp₁ sp₂ sp₃ : Text} {f : Fields}

/-- A legacy call is read as it is written, whatever its payload, if no call opens before it and no
quote stands in its table and its delimiter or behind it. -/
theorem legacy?_append (hsp₁ : Spaces sp₁) (hsp₂ : Spaces sp₂) (hsp₃ : Spaces sp₃)
    (hradix : DigitRun f.radix) (hcount : DigitRun f.count) (hpre : ¬['}', '(', '\''] <:+: pre)
    (htable : '\'' ∉ f.table) (hdelimiter : '\'' ∉ f.delimiter) (hpost : '\'' ∉ post) :
    legacy? (pre ++ legacyText sp₁ sp₂ sp₃ f ++ post) = some f := by
  generalize hnumbers : legacyNumbersText sp₁ sp₂ sp₃ f.radix f.count = numbers
  have hquotes : numbers.count '\'' = 2 := by
    rw [← hnumbers]
    exact count_quote_legacyNumbersText hsp₁ hsp₂ hsp₃ hradix hcount
  have hread : legacyNumbers? (numbers ++ f.table) = some (f.radix, f.count, f.table) := by
    rw [← hnumbers]
    exact legacyNumbers?_append hsp₁ hsp₂ hsp₃ hradix hcount f.table
  -- behind the first quote of the numbers there is one more, which is not enough for other numbers
  obtain ⟨inner, rfl⟩ : ∃ inner, numbers = '\'' :: inner := ⟨_, hnumbers.symm⟩
  have hinner : (inner ++ f.table).count '\'' < 2 := by
    rw [List.count_cons_self] at hquotes
    rw [List.count_append, List.count_eq_zero.mpr htable]
    omega
  have hcut₄ : cutLast legacyNumbers? (f.payload ++ '\'' :: (inner ++ f.table))
      = some (f.payload, f.radix, f.count, f.table) :=
    cutLast_eq_of_count (fun _ _ h => two_le_count_of_legacyNumbers? h) hread hinner
  have hcut₅ : cutFirst (after? ['\'', ')']) (f.delimiter ++ (['\'', ')'] ++ []))
      = some (f.delimiter, []) :=
    cutFirst_after?_eq (by decide) fun hstands => hdelimiter (hstands.subset List.mem_cons_self)
  -- each cut takes the call apart from its end
  generalize hcall : f.payload ++ '\'' :: (inner ++ f.table) = call at hcut₄
  have htext : pre ++ legacyText sp₁ sp₂ sp₃ f ++ post
      = pre ++ (['}', '(', '\''] ++ (call ++ ("'.split('".toList ++ f.delimiter)
        ++ (['\'', ')'] ++ post))) := by
    simp [legacyText, legacyEnd, hnumbers, ← hcall]
  have hcut₁ : cutFirst (after? ['}', '(', '\'']) (pre ++ (['}', '(', '\'']
      ++ (call ++ ("'.split('".toList ++ f.delimiter) ++ (['\'', ')'] ++ post)))) = some (pre, _) :=
    cutFirst_after?_eq (by decide) hpre
  have hcut₂ : cutLast (after? ['\'', ')']) (call ++ ("'.split('".toList ++ f.delimiter)
      ++ (['\'', ')'] ++ post)) = some (call ++ ("'.split('".toList ++ f.delimiter), post) :=
    cutLast_after?_eq hpost
  have hcut₃ : cutLast (after? "'.split('".toList) (call ++ ("'.split('".toList ++ f.delimiter))
      = some (call, f.delimiter) :=
    cutLast_after?_eq (c := '\'') hdelimiter
  have hend : legacyEnd = ['\'', ')'] := rfl
  rw [List.append_nil] at hcut₅
  simp only [legacy?, htext, hend, hcut₁, hcut₂, hcut₃, hcut₄, hcut₅, Option.bind_eq_bind,
    Option.bind_some]

/-- A text without `).split(` holds no call of primary shape. -/
theorem primary?_eq_none_of_no_split {t : Text} (h : ¬").split(".toList <:+: t) :
    primary? t = none := by
  rw [primary?_eq_none_iff]
  intro hholds
  obtain ⟨f, call, hcall, hshape⟩ := hholds
  cases hshape with
  | @primary ws₁ ws₂ ws₃ s _ =>
    have hsplit : ").split(".toList <:+: primaryText ws₁ ws₂ ws₃ s f :=
      ⟨_, f.delimiter ++ [')'], (List.append_assoc _ _ _).symm⟩
    exact h (hsplit.trans hcall)

/-- The call in a script that holds no call of primary shape and is a legacy call once it has been
made plain. -/
theorem ofSource_of_primary?_eq_none {source : Text} {radix count : Nat} (hsp₁ : Spaces sp₁)
    (hsp₂ : Spaces sp₂) (hsp₃ : Spaces sp₃) (hradix : Numeral.Decimal f.radix radix)
    (hradix_lt : radix < Numeral.sizeLimit) (hcount : Numeral.Decimal f.count count)
    (hcount_lt : count < Numeral.sizeLimit) (hdelimiter_ne : f.delimiter ≠ [])
    (hpre : ¬['}', '(', '\''] <:+: pre) (htable : '\'' ∉ f.table) (hdelimiter : '\'' ∉ f.delimiter)
    (hpost : '\'' ∉ post) (hplain : plain source = pre ++ legacyText sp₁ sp₂ sp₃ f ++ post)
    (hprimary : primary? (plain source) = none) :
    ofSource source = .ok ⟨.legacy, f.payload, radix, count, f.table, f.delimiter⟩ := by
  have hlegacy : legacy? (plain source) = some f := by
    rw [hplain]
    exact legacy?_append hsp₁ hsp₂ hsp₃ (digitRun_of_decimal hradix) (digitRun_of_decimal hcount)
      hpre htable hdelimiter hpost
  have hradix' := size?_eq_some_iff.mpr ⟨hradix, hradix_lt⟩
  have hcount' := size?_eq_some_iff.mpr ⟨hcount, hcount_lt⟩
  simp only [ofSource, hprimary, hlegacy, ofFields, hradix', hcount']
  rw [if_neg (by rw [List.isEmpty_iff]; exact hdelimiter_ne)]

/-- The call in a script that is a legacy call once it has been made plain. -/
theorem ofSource_of_plain_eq {source : Text} {radix count : Nat} (hsp₁ : Spaces sp₁)
    (hsp₂ : Spaces sp₂) (hsp₃ : Spaces sp₃) (hradix : Numeral.Decimal f.radix radix)
    (hradix_lt : radix < Numeral.sizeLimit) (hcount : Numeral.Decimal f.count count)
    (hcount_lt : count < Numeral.sizeLimit) (hdelimiter_ne : f.delimiter ≠ [])
    (hpre : ¬['}', '(', '\''] <:+: pre) (htable : '\'' ∉ f.table) (hdelimiter : '\'' ∉ f.delimiter)
    (hpost : '\'' ∉ post) (hplain : plain source = pre ++ legacyText sp₁ sp₂ sp₃ f ++ post)
    (hsplit : ¬").split(".toList <:+: plain source) :
    ofSource source = .ok ⟨.legacy, f.payload, radix, count, f.table, f.delimiter⟩ :=
  ofSource_of_primary?_eq_none hsp₁ hsp₂ hsp₃ hradix hradix_lt hcount hcount_lt hdelimiter_ne hpre
    htable hdelimiter hpost hplain (primary?_eq_none_of_no_split hsplit)

/-- Escaped quotes in the payload of a call are escaped quotes of the script. -/
theorem escaped_legacyText {payload' : Text} (h : Escaped f.payload payload') :
    Escaped (pre ++ legacyText sp₁ sp₂ sp₃ f ++ post)
      (pre ++ legacyText sp₁ sp₂ sp₃ { f with payload := payload' } ++ post) := by
  have hfront (t : Text) : Escaped (pre ++ (['}', '(', '\''] ++ (f.payload ++ t)))
      (pre ++ (['}', '(', '\''] ++ (payload' ++ t))) :=
    (Escaped.refl pre).append ((Escaped.refl _).append (h.append (Escaped.refl t)))
  simpa [legacyText] using hfront _

/-- A legacy call gives back the arguments it was written with, whatever its payload holds, and
whichever quotes of the payload are escaped. -/
theorem extract_legacyText {payload' : Text} {radix count : Nat} (hsp₁ : Spaces sp₁)
    (hsp₂ : Spaces sp₂) (hsp₃ : Spaces sp₃) (hradix : Numeral.Decimal f.radix radix)
    (hradix_lt : radix < Numeral.sizeLimit) (hcount : Numeral.Decimal f.count count)
    (hcount_lt : count < Numeral.sizeLimit) (hdelimiter_ne : f.delimiter ≠ [])
    (hpre : ¬['}', '(', '\''] <:+: pre) (htable : '\'' ∉ f.table) (hdelimiter : '\'' ∉ f.delimiter)
    (hpost : '\'' ∉ post) (hquote : ¬escapedQuote <:+: pre ++ legacyText sp₁ sp₂ sp₃ f ++ post)
    (hplaceholder : ¬placeholder <:+: pre ++ legacyText sp₁ sp₂ sp₃ f ++ post)
    (hsplit : ¬").split(".toList <:+: pre ++ legacyText sp₁ sp₂ sp₃ f ++ post)
    (hpayload : Escaped f.payload payload') :
    (extract (pre ++ legacyText sp₁ sp₂ sp₃ { f with payload := payload' } ++ post)).outcome
      = .ok ⟨.legacy, f.payload, radix, count, f.table, f.delimiter⟩ := by
  have hplain := plain_of_escaped (escaped_legacyText hpayload) hplaceholder hquote
  rw [outcome_extract_eq_ok_iff]
  refine ofSource_of_plain_eq hsp₁ hsp₂ hsp₃ hradix hradix_lt hcount hcount_lt hdelimiter_ne hpre
    htable hdelimiter hpost hplain ?_
  rw [hplain]
  exact hsplit

end

/-- A payload with a whole `', 1, 2, '` and an opening of a call in it, some of its quotes escaped. -/
theorem extract_legacyText_quotes_in_payload :
    (extract ("!function(d)\x7b\x7d('f\\', 1, 2, '\x7d(\\'g', 36,  2,".toList
        ++ "'x|y'.split('|'),0,\x7b\x7d)".toList)).outcome
      = .ok ⟨.legacy, "f', 1, 2, '\x7d('g".toList, 36, 2, "x|y".toList, "|".toList⟩ := by
  have hpayload : Escaped "f', 1, 2, '\x7d('g".toList "f\\', 1, 2, '\x7d(\\'g".toList :=
    .keep 'f' (.escape ((Escaped.refl ", 1, 2, '\x7d(".toList).append (.escape (.refl ['g']))))
  have hradix : Numeral.Decimal "36".toList 36 := ⟨by decide, [3, 6], by decide, by decide⟩
  have hcount : Numeral.Decimal "2".toList 2 := ⟨by decide, [2], by decide, by decide⟩
  have hpieces : ¬['\x7d', '(', '\''] <:+: "!function(d)\x7b".toList ∧ '\'' ∉ "x|y".toList ∧
      '\'' ∉ "|".toList ∧ '\'' ∉ ",0,\x7b\x7d)".toList := by decide +kernel
  have hspaces (n : Nat) : Spaces (List.replicate n ' ') := fun c hc => List.eq_of_mem_replicate hc
  obtain ⟨hpre, htable, hdelimiter, hpost⟩ := hpieces
  have hextract := @extract_legacyText "!function(d)\x7b".toList ",0,\x7b\x7d)".toList
    [' '] [' ', ' '] [] ⟨"f', 1, 2, '\x7d('g".toList, "36".toList, "2".toList, "x|y".toList,
      "|".toList⟩ _ 36 2 (hspaces 1) (hspaces 2) (hspaces 0) hradix (by decide) hcount (by decide)
    (by simp) hpre htable hdelimiter hpost (by decide +kernel) (by decide +kernel)
    (by decide +kernel) hpayload
  simpa [legacyText, legacyNumbersText, legacyEnd] using hextract

end PackedScript.CallSite

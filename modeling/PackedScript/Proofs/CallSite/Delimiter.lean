import PackedScript.Proofs.CallSite.Primary
import PackedScript.Proofs.Literal.Encoded

/-!
# Calls as delimiters

The delimiter of a primary call is a literal like the payload and the table, but it ends at the
first closing parenthesis. That of a call which reads escapes is the parenthesis of this call, so
the call is cut short before it is read: the text comes back with the quote that closes it
(`extract_callDelimiter`).
-/

namespace PackedScript.CallSite

open Text

/-- The arguments of a script that is plain and holds a primary call, where the call has numbers and
its delimiter is not empty. -/
theorem outcome_extract_of_primary? {source : Text} {f : Fields} {radix count : Nat}
    (hplain : plain source = source) (hprimary : primary? source = some f)
    (hradix : Numeral.Decimal f.radix radix) (hradix_lt : radix < Numeral.sizeLimit)
    (hcount : Numeral.Decimal f.count count) (hcount_lt : count < Numeral.sizeLimit)
    (hdelimiter : Literal.read f.delimiter ≠ []) :
    (extract source).outcome = .ok ⟨.primary, Literal.read f.payload, radix, count,
      Literal.read f.table, Literal.read f.delimiter⟩ := by
  have hradix' := size?_eq_some_iff.mpr ⟨hradix, hradix_lt⟩
  have hcount' := size?_eq_some_iff.mpr ⟨hcount, hcount_lt⟩
  have hdelimiter' : ¬(Literal.read f.delimiter).isEmpty = true := by
    rwa [List.isEmpty_iff]
  rw [outcome_extract_eq_ok_iff]
  simp only [ofSource, hplain, hprimary, Fields.read, ofFields, hradix', hcount']
  exact if_neg hdelimiter'

section

variable {pre post ws₁ ws₂ ws₃ : Text} {s : NumberSpacing} {quote : Char}
  {payload radixText countText table c₁ c₂ c₃ delimiter spelling : Text}

/-- A call as delimiter is a call that is cut short, with the rest of it behind the primary call. -/
theorem primaryText_callText :
    primaryText ws₁ ws₂ ws₃ s ⟨payload, radixText, countText, table,
        Literal.callText quote c₁ c₂ c₃ spelling⟩ ++ post
      = primaryText ws₁ ws₂ ws₃ s ⟨payload, radixText, countText, table,
        Literal.unclosedCall quote c₁ c₂ spelling ++ c₃⟩ ++ ')' :: post := by
  simp [primaryText, Literal.callText]

theorem notMem_unclosedCall (hquote : Literal.isQuote quote = true) (hc₁ : Blank c₁)
    (hc₂ : Blank c₂) (hc₃ : Blank c₃) (hspelling : ')' ∉ spelling) :
    ')' ∉ Literal.unclosedCall quote c₁ c₂ spelling ++ c₃ := by
  have hname : ')' ∉ Literal.decoderName := by decide
  have hne : ')' ≠ quote := by
    rcases Literal.isQuote_iff.mp hquote with rfl | rfl <;> decide
  have hblank {ws : Text} (hws : Blank ws) : ')' ∉ ws := notMem_of_blank (by decide) hws
  simp [Literal.unclosedCall, hname, hne, hblank hc₁, hblank hc₂, hblank hc₃, hspelling]

/-- A delimiter that is a call on a spelled text comes back as this text and the quote behind it,
whatever the payload, the table, the numbers and the spacing of the primary call are. -/
theorem extract_callDelimiter {radix count : Nat} (hws₁ : Blank ws₁) (hws₂ : Blank ws₂)
    (hws₃ : Blank ws₃) (hs : s.Blank) (hradix : Numeral.Decimal radixText radix)
    (hradix_lt : radix < Numeral.sizeLimit) (hcount : Numeral.Decimal countText count)
    (hcount_lt : count < Numeral.sizeLimit) (hpre : ∀ ws, Blank ws → ¬openingText ws <:+: pre)
    (hpayload : ∀ s' radix' count', s'.Blank → DigitRun radix' → DigitRun count' →
      ¬primaryNumbersText s' radix' count' <:+: payload)
    (htable : ¬").split(".toList <:+: table) (hquote : Literal.isQuote quote = true)
    (hc₁ : Blank c₁) (hc₂ : Blank c₂) (hc₃ : Blank c₃)
    (hspelling : Percent.Spelling delimiter spelling) (hparen : ')' ∉ spelling)
    (hescaped : ¬escapedQuote <:+: pre ++ primaryText ws₁ ws₂ ws₃ s ⟨payload, radixText, countText,
      table, Literal.callText quote c₁ c₂ c₃ spelling⟩ ++ post)
    (hplaceholder : ¬placeholder <:+: pre ++ primaryText ws₁ ws₂ ws₃ s ⟨payload, radixText,
      countText, table, Literal.callText quote c₁ c₂ c₃ spelling⟩ ++ post) :
    (extract (pre ++ primaryText ws₁ ws₂ ws₃ s ⟨payload, radixText, countText, table,
        Literal.callText quote c₁ c₂ c₃ spelling⟩ ++ post)).outcome
      = .ok ⟨.primary, Literal.read payload, radix, count, Literal.read table,
          delimiter ++ [quote]⟩ := by
  have hplain := plain_of_escaped (Escaped.refl _) hplaceholder hescaped
  rw [List.append_assoc, primaryText_callText, ← List.append_assoc] at hplain ⊢
  have hnil : Blank [] := by simp [Blank]
  have hread : Literal.read (Literal.unclosedCall quote c₁ c₂ spelling ++ c₃)
      = delimiter ++ [quote] :=
    Literal.read_unclosedCall hquote hnil hc₁ hc₂ hc₃ hspelling
  have hprimary : primary? (pre ++ primaryText ws₁ ws₂ ws₃ s ⟨payload, radixText, countText, table,
      Literal.unclosedCall quote c₁ c₂ spelling ++ c₃⟩ ++ ')' :: post) = some _ :=
    primary?_append hws₁ hws₂ hws₃ hs (digitRun_of_decimal hradix) (digitRun_of_decimal hcount)
      hpre hpayload htable (notMem_unclosedCall hquote hc₁ hc₂ hc₃ hparen)
  rw [outcome_extract_of_primary? hplain hprimary hradix hradix_lt hcount hcount_lt
    (by rw [hread]; simp), read_trim, hread]

end

/-- A call in double quotes with white space in it, whose text is a semicolon. -/
theorem extract_callDelimiter_semicolon :
    (extract ("eval(function(p,a,c,k,e,d)\x7b\x7d( '0(1)' , 62,2 ,('a;b')".toList
        ++ ".split(decodeURIComponent ( \"%3b\"\t)),0)".toList)).outcome
      = .ok ⟨.primary, "0(1)".toList, 62, 2, "a;b".toList, ";\"".toList⟩ := by
  have hradix : Numeral.Decimal "62".toList 62 := ⟨by decide, [6, 2], by decide, by decide⟩
  have hcount : Numeral.Decimal "2".toList 2 := ⟨by decide, [2], by decide, by decide⟩
  have hbytes : String.utf8EncodeChar ';' = [0x3B] := by decide
  have hescapes : Percent.Escapes (String.utf8EncodeChar ';') "%3b".toList := by
    rw [hbytes]
    exact .cons (by decide) (by decide) .nil
  have hspelling : Percent.Spelling [';'] "%3b".toList := .escape hescapes .nil
  have hextract := @extract_callDelimiter "eval(function(p,a,c,k,e,d)\x7b".toList ",0)".toList []
    [' '] [' '] ⟨[' '], [], [], [' '], []⟩ '"' "'0(1)'".toList "62".toList "2".toList
    "'a;b'".toList [' '] [' '] ['\t'] [';'] "%3b".toList 62 2 (by decide) (by decide) (by decide)
    ⟨by decide, by decide, by decide, by decide, by decide⟩ hradix (by decide) hcount (by decide)
    (fun ws hws => not_openingText_infix hws (by decide +kernel))
    (fun s r c hs hr hc => not_primaryNumbersText_infix hs hr hc (by decide +kernel))
    (by decide +kernel) (by decide) (by decide) (by decide) (by decide) hspelling
    (by decide +kernel) (by decide +kernel) (by decide +kernel)
  have hpayload : Literal.read "'0(1)'".toList = "0(1)".toList := by decide +kernel
  have htable : Literal.read "'a;b'".toList = "a;b".toList := by decide +kernel
  have htext : "eval(function(p,a,c,k,e,d)\x7b\x7d( '0(1)' , 62,2 ,('a;b')".toList
        ++ ".split(decodeURIComponent ( \"%3b\"\t)),0)".toList
      = "eval(function(p,a,c,k,e,d)\x7b".toList ++ primaryText [] [' '] [' ']
        ⟨[' '], [], [], [' '], []⟩ ⟨"'0(1)'".toList, "62".toList, "2".toList, "'a;b'".toList,
          Literal.callText '"' [' '] [' '] ['\t'] "%3b".toList⟩ ++ ",0)".toList := by
    decide +kernel
  rw [htext, ← hpayload, ← htable]
  exact hextract

/-- A call on a spelled bar: the table is to be split at a bar and a quote. -/
theorem extract_callDelimiter_ne :
    ∃ source : Text, source = ("\x7d(decodeURIComponent('0%201'),36,2,".toList
        ++ "(decodeURIComponent('a%7Cb')).split(decodeURIComponent('%7C')))".toList) ∧
      Percent.Spelling ['|'] "%7C".toList ∧ '(' ∉ "%7C".toList ∧ ')' ∉ "%7C".toList ∧
      (∀ s radix count, s.Blank → DigitRun radix → DigitRun count →
        ¬primaryNumbersText s radix count <:+: "decodeURIComponent('0%201')".toList) ∧
      ¬").split(".toList <:+: "decodeURIComponent('a%7Cb')".toList ∧
      ¬escapedQuote <:+: source ∧ ¬placeholder <:+: source ∧
      (extract source).outcome
        = .ok ⟨.primary, "0 1".toList, 36, 2, "a|b".toList, ['|', '\'']⟩ := by
  have hbytes : String.utf8EncodeChar '|' = [0x7C] := by decide
  have hescapes : Percent.Escapes (String.utf8EncodeChar '|') "%7C".toList := by
    rw [hbytes]
    exact .cons (by decide) (by decide) .nil
  exact ⟨_, rfl, .escape hescapes .nil, by decide, by decide,
    fun s r c hs hr hc => not_primaryNumbersText_infix hs hr hc (by decide +kernel),
    by decide +kernel, by decide +kernel, by decide +kernel, by decide +kernel⟩

end PackedScript.CallSite

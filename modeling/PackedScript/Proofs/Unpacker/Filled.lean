import PackedScript.Proofs.CallSite.Legacy
import PackedScript.Proofs.Payload.Words
import PackedScript.Proofs.Unpacker.Failing

/-!
# What becomes of the text between words

A script is made plain as a whole, so a `,[],` is filled in wherever it stands, in the arguments of
a packed function no less than in the place of a radix. No quote is part of it, so that it stands in
one field of a legacy call, and each field is filled in on its own (`filled_barCall`). Nothing else
of a payload without backslashes changes before its words are decoded, and what is in no word then
stays, in its order (`unpackUnchecked_rewords`). A script that holds a call of primary shape as well
is not read so; there has to be a `.split(` right behind the legacy call for that.
-/

namespace PackedScript

open Text

/-! ## Filling in -/

namespace CallSite

/-- A text with each placeholder of a radix filled in. -/
def filled (t : Text) : Text := replaceAll placeholder [',', '0', ','] t

section

variable {t : Text} {c : Char}

theorem filled_eq_self_iff : filled t = t ↔ ¬placeholder <:+: t :=
  replaceAll_eq_self_iff (by decide) (by decide)

/-- Between the placeholders nothing changes. -/
theorem filled_eq_intercalate {pieces : List Text} (h : IsSplit placeholder t pieces) :
    filled t = [',', '0', ','].intercalate pieces :=
  replaceAll_eq_intercalate (by decide) h

theorem notMem_filled (hc : c ∉ [',', '0', ',']) (ht : c ∉ t) : c ∉ filled t :=
  fun hmem => ht (mem_of_mem_replaceAll (fun hnew => absurd hnew hc) hmem)

/-- Without escapes, a script is made plain by filling in. -/
theorem plain_eq_filled (h : '\\' ∉ t) : plain t = filled t := by
  have hbackslash : '\\' ∉ filled t := notMem_filled (by decide) h
  exact replaceAll_eq_self fun hquote => hbackslash (hquote.subset List.mem_cons_self)

end

/-! ## Calls with bars -/

/-- A legacy call without spaces whose symbols have bars between them, and what is behind it. -/
def barCall (payload radix count table post : Text) : Text :=
  legacyText [] [] [] ⟨payload, radix, count, table, ['|']⟩ ++ post

/-- The numbers of such a call with the commas around them. -/
def barNumbers (radix count : Text) : Text := ',' :: (radix ++ ',' :: (count ++ [',']))

/-- The pieces of such a call that are the same in every call. -/
def fixedBarPieces : List Text := [['}', '('], ".split(".toList, ['|']]

/-- The pieces of such a call between its own single quotes. -/
def barPieces (payload radix count table post : Text) : List Text :=
  [['}', '('], payload, barNumbers radix count, table, ".split(".toList, ['|'], ')' :: post]

/-- A text without escapes, in which the table of no primary call ends. -/
structure Tame (t : Text) : Prop where
  backslash : '\\' ∉ t
  split : ¬").split(".toList <:+: t

section

variable {payload radix count table post : Text} {c : Char}

theorem barCall_eq_intercalate (payload radix count table post : Text) :
    barCall payload radix count table post
      = ['\''].intercalate (barPieces payload radix count table post) := by
  simp [barCall, barPieces, barNumbers, legacyText, legacyNumbersText, legacyEnd]

/-- What holds of the fixed pieces and of the others holds of every piece. -/
theorem forall_mem_barPieces {P : Text → Prop} (hfixed : ∀ piece ∈ fixedBarPieces, P piece)
    (hpayload : P payload) (hnumbers : P (barNumbers radix count)) (htable : P table)
    (hpost : P (')' :: post)) : ∀ piece ∈ barPieces payload radix count table post, P piece := by
  simp only [fixedBarPieces, List.forall_mem_cons] at hfixed
  obtain ⟨hfront, hsplit, hbar, hnil⟩ := hfixed
  simp only [barPieces, List.forall_mem_cons]
  exact ⟨hfront, hpayload, hnumbers, htable, hsplit, hbar, hpost, hnil⟩

theorem notMem_barNumbers (hc : Unicode.isDecimalDigit c = false) (hcomma : c ≠ ',')
    (hradix : DigitRun radix) (hcount : DigitRun count) : c ∉ barNumbers radix count := by
  simp [barNumbers, hcomma, notMem_of_digitRun hc hradix, notMem_of_digitRun hc hcount]

/-- A call of fields without escapes has none. -/
theorem backslash_notMem_barCall (hradix : DigitRun radix) (hcount : DigitRun count)
    (hpayload : Tame payload) (htable : Tame table) (hpost : Tame post) :
    '\\' ∉ barCall payload radix count table post := by
  have hfixed : ∀ piece ∈ fixedBarPieces, '\\' ∉ piece := by decide
  have hnumbers := notMem_barNumbers (c := '\\') (by decide) (by decide) hradix hcount
  have hlast : '\\' ∉ ')' :: post :=
    List.not_mem_cons_of_ne_of_not_mem (by decide) hpost.backslash
  have hpieces := forall_mem_barPieces hfixed hpayload.backslash hnumbers htable.backslash hlast
  intro hmem
  rw [barCall_eq_intercalate] at hmem
  rcases eq_or_mem_of_mem_intercalate hmem with hquote | ⟨piece, hpiece, hc⟩
  · exact absurd hquote (by decide)
  · exact hpieces piece hpiece hc

/-- The end of a primary call's table can only lie at the end of the call, with what is behind it. -/
theorem not_split_infix_barCall (hradix : DigitRun radix) (hcount : DigitRun count)
    (hpayload : Tame payload) (htable : Tame table) (hpost : Tame post)
    (hborder : ¬".split(".toList <+: post) :
    ¬").split(".toList <:+: barCall payload radix count table post := by
  have hfixed : ∀ piece ∈ fixedBarPieces, ¬").split(".toList <:+: piece := by decide
  have hparen := notMem_barNumbers (c := ')') (by decide) (by decide) hradix hcount
  have hnumbers : ¬").split(".toList <:+: barNumbers radix count :=
    fun hstands => hparen (hstands.subset (by decide))
  have hlast : ¬").split(".toList <:+: ')' :: post := by
    intro hstands
    rcases List.infix_cons_iff.mp hstands with hfront | hrest
    · exact hborder (List.cons_prefix_cons.mp hfront).2
    · exact hpost.split hrest
  rw [barCall_eq_intercalate, infix_intercalate_iff (by decide) (by simp [barPieces])]
  intro hstands
  obtain ⟨piece, hpiece, hstands⟩ := hstands
  exact forall_mem_barPieces hfixed hpayload.split hnumbers htable.split hlast piece hpiece hstands

/-- Filling in works on each field of a call on its own. -/
theorem filled_barCall (hradix : DigitRun radix) (hcount : DigitRun count) :
    filled (barCall payload radix count table post)
      = barCall (filled payload) radix count (filled table) (filled post) := by
  have hbracket := notMem_barNumbers (c := '[') (by decide) (by decide) hradix hcount
  have hnumbers : filled (barNumbers radix count) = barNumbers radix count :=
    filled_eq_self_iff.mpr fun hstands => hbracket (hstands.subset (by decide))
  have hfixed : ∀ piece ∈ fixedBarPieces, filled piece = piece := by decide
  simp only [fixedBarPieces, List.forall_mem_cons] at hfixed
  obtain ⟨hfront, hsplit, hbar, -⟩ := hfixed
  have hlast : filled (')' :: post) = ')' :: filled post :=
    replaceAll_cons_of_not_front fun hstarts =>
      absurd (List.cons_prefix_cons.mp hstarts).1 (by decide)
  have hpieces : filled (['\''].intercalate (barPieces payload radix count table post))
      = ['\''].intercalate ((barPieces payload radix count table post).map filled) :=
    replaceAll_intercalate (by decide) (by decide) _
  rw [barCall_eq_intercalate, barCall_eq_intercalate, hpieces]
  simp only [barPieces, List.map_cons, List.map_nil, hfront, hnumbers, hsplit, hbar, hlast]

/-- A call of tame fields holds a call of primary shape only together with what is behind it. -/
theorem prefix_of_holds_primary (hradix : DigitRun radix) (hcount : DigitRun count)
    (hpayload : Tame payload) (htable : Tame table) (hpost : Tame post)
    (h : ∃ f, Holds .primary (plain (barCall payload radix count table post)) f) :
    ".split(".toList <+: post := by
  by_contra hborder
  have hsplit := not_split_infix_barCall hradix hcount hpayload htable hpost hborder
  have hplain := plain_eq_filled (backslash_notMem_barCall hradix hcount hpayload htable hpost)
  refine primary?_eq_none_iff.mp (primary?_eq_none_of_no_split ?_) h
  rw [hplain]
  exact fun hstands => hsplit (infix_of_infix_replaceAll (by decide) (by simp) hstands)

/-- Otherwise it is read with its fields filled in. -/
theorem ofSource_barCall {base n : Nat} (hradix : Numeral.Decimal radix base)
    (hbase : base < Numeral.sizeLimit) (hcount : Numeral.Decimal count n)
    (hn : n < Numeral.sizeLimit) (hpayload : Tame payload) (htable : Tame table) (hpost : Tame post)
    (hquote : '\'' ∉ table) (hquote' : '\'' ∉ post)
    (h : ¬∃ f, Holds .primary (plain (barCall payload radix count table post)) f) :
    ofSource (barCall payload radix count table post)
      = .ok ⟨.legacy, filled payload, base, n, filled table, ['|']⟩ := by
  have hradix' := digitRun_of_decimal hradix
  have hcount' := digitRun_of_decimal hcount
  have hspaces : Spaces [] := by simp [Spaces]
  have hplain : plain (barCall payload radix count table post)
      = [] ++ legacyText [] [] [] ⟨filled payload, radix, count, filled table, ['|']⟩
        ++ filled post := by
    rw [plain_eq_filled (backslash_notMem_barCall hradix' hcount' hpayload htable hpost),
      filled_barCall hradix' hcount']
    rfl
  exact ofSource_of_primary?_eq_none hspaces hspaces hspaces hradix hbase hcount hn (by simp)
    (by decide) (notMem_filled (by decide) hquote) (by simp) (notMem_filled (by decide) hquote')
    hplain (primary?_eq_none_iff.mpr h)

end

end CallSite

/-! ## Unpacking -/

/-- A call of whose table symbols are built, and whose radix is a base, is unpacked with these. -/
theorem Options.outcome_unpack_of_base [Engine] {options : Options} {source : Text} {site : CallSite}
    {r : Radix} {symbols : SymbolTable} (hsize : byteLength source ≤ options.maxLength)
    (h : CallSite.ofSource source = .ok site) (hr : site.radix = r.base)
    (hsymbols : (SymbolTable.build site.table site.delimiter site.count options.strict).outcome
      = .ok symbols) :
    (options.unpack source).outcome
      = .ok (StringTable.inlineStrings (Payload.decode symbols r site.payload)) := by
  have hradix : radix site.radix = .ok r := by rw [radix, hr, Radix.ofDeclared?_base]
  rw [outcome_unpack_of_site hsize h, SymbolTable.outcome_build_eq_ok_iff.mp hsymbols, hradix]
  rfl

namespace Unpacker

open CallSite

/-- A legacy call with bars, unless it is read as a primary one, is extracted with each `,[],` of
its payload filled in, and so as it was written exactly where there is none. Of the text that is
extracted only the words change, and each of them becomes its symbol, if it has one; whatever is in
no word stands in the script, in its order, before a string table is inlined. A lenient reading of the
table answers if there is room for as many symbols as are declared. -/
theorem unpackUnchecked_rewords [Engine] (u : Unpacker) {payload radix count table post : Text}
    {r : Radix} {n : Nat} (hradix : Numeral.Decimal radix r.base) (hcount : Numeral.Decimal count n)
    (hpos : 0 < n) (hlt : n < Numeral.sizeLimit) (hpayload : Tame payload) (htable : Tame table)
    (hpost : Tame post) (hquote : '\'' ∉ table) (hquote' : '\'' ∉ post) :
    ((∃ f, Holds .primary (plain (barCall payload radix count table post)) f) →
      ".split(".toList <+: post) ∧
    ((¬∃ f, Holds .primary (plain (barCall payload radix count table post)) f) →
      (extract (barCall payload radix count table post)).outcome
        = .ok ⟨.legacy, filled payload, r.base, n, filled table, ['|']⟩ ∧
      (filled payload = payload ↔ ¬placeholder <:+: payload) ∧
      (∀ pieces, IsSplit placeholder payload pieces →
        filled payload = [',', '0', ','].intercalate pieces) ∧
      (u.options.strict = false → n ≤ SymbolTable.capacity → ∃ symbols,
        (SymbolTable.build (filled table) ['|'] n u.options.strict).outcome = .ok symbols) ∧
      ∀ symbols, (SymbolTable.build (filled table) ['|'] n u.options.strict).outcome = .ok symbols →
        byteLength (barCall payload radix count table post) ≤ u.options.maxLength →
        (u.unpackUnchecked (barCall payload radix count table post)).outcome
            = .ok (StringTable.inlineStrings (Payload.decode symbols r (filled payload))) ∧
          Payload.Reworded (fun w => (Payload.symbol? symbols r w).getD w) (filled payload)
            (Payload.decode symbols r (filled payload)) ∧
          ((filled payload).filter (!Payload.isWordChar ·)).Sublist
            (Payload.decode symbols r (filled payload))) := by
  refine ⟨prefix_of_holds_primary (digitRun_of_decimal hradix) (digitRun_of_decimal hcount)
    hpayload htable hpost, fun hprimary => ?_⟩
  have hbase : r.base < Numeral.sizeLimit := by
    have hle := r.base_le
    unfold Numeral.sizeLimit
    omega
  have hsite := ofSource_barCall hradix hbase hcount hlt hpayload htable hpost hquote hquote'
    hprimary
  refine ⟨outcome_extract_eq_ok_iff.mpr hsite, filled_eq_self_iff, fun pieces => filled_eq_intercalate,
    fun hstrict hroom => ?_, fun symbols hsymbols hlength => ?_⟩
  · rw [hstrict, SymbolTable.outcome_build, SymbolTable.ofText_lenient, if_neg (by omega),
      SymbolTable.resize, if_neg (by omega)]
    exact ⟨_, rfl⟩
  · have hreworded := Payload.reworded_decode symbols r (filled payload)
    refine ⟨?_, hreworded, hreworded.filter_sublist⟩
    rw [outcome_unpackUnchecked]
    exact Options.outcome_unpack_of_base hlength hsite rfl hsymbols

/-- A call with a `,[],` and quotes in its payload. -/
theorem unpackUnchecked_rewords_arguments :
    (extract (barCall "f('1',[],2)".toList "10".toList "3".toList "a|b|c".toList
        ",0,\x7b\x7d))".toList)).outcome
      = .ok ⟨.legacy, "f('1',0,2)".toList, 10, 3, "a|b|c".toList, ['|']⟩ ∧
    (standard.unpackUnchecked (barCall "f('1',[],2)".toList "10".toList "3".toList "a|b|c".toList
        ",0,\x7b\x7d))".toList)).outcome = .ok "f('b',a,c)".toList := by
  have hradix : Numeral.Decimal "10".toList 10 := ⟨by decide, [1, 0], by decide, by decide⟩
  have hcount : Numeral.Decimal "3".toList 3 := ⟨by decide, [3], by decide, by decide⟩
  have hpayload : Tame "f('1',[],2)".toList := ⟨by decide, by decide⟩
  have htable : Tame "a|b|c".toList := ⟨by decide, by decide⟩
  have hpost : Tame ",0,\x7b\x7d))".toList := ⟨by decide, by decide⟩
  have hprimary := primary?_eq_none_iff.mp (by decide +kernel : primary? (plain (barCall
    "f('1',[],2)".toList "10".toList "3".toList "a|b|c".toList ",0,\x7b\x7d))".toList)) = none)
  obtain ⟨-, hlegacy⟩ := unpackUnchecked_rewords standard (r := ⟨10, by decide, by decide⟩) hradix
    hcount (by decide) (by decide) hpayload htable hpost (by decide) (by decide)
  obtain ⟨hextract, -, -, -, hunpack⟩ := hlegacy hprimary
  have hfilled : filled "f('1',[],2)".toList = "f('1',0,2)".toList ∧
      filled "a|b|c".toList = "a|b|c".toList := by decide +kernel
  rw [hfilled.1, hfilled.2] at hextract hunpack
  obtain ⟨hscript, -⟩ := hunpack #[['a'], ['b'], ['c']] (by decide +kernel) (by decide +kernel)
  have hinlined : StringTable.inlineStrings (Payload.decode #[['a'], ['b'], ['c']]
      ⟨10, by decide, by decide⟩ "f('1',0,2)".toList) = "f('b',a,c)".toList := by decide +kernel
  rw [hinlined] at hscript
  exact ⟨hextract, hscript⟩

/-- A `,[],` in the payload is filled in, and the number is decoded as a word. With a `.split(`
behind it, a call is read as a primary one where its payload has numbers as such a call has them. -/
theorem extract_barCall_changes_payload :
    (Tame "f(1,[],2)".toList ∧ Tame "f(,1,2,(x)".toList ∧ Tame "a|b|c".toList ∧
      Tame ",0,\x7b\x7d))".toList ∧ Tame ".split(y)".toList) ∧
    ('\'' ∉ "a|b|c".toList ∧ '\'' ∉ ",0,\x7b\x7d))".toList ∧ '\'' ∉ ".split(y)".toList) ∧
    (extract (barCall "f(1,[],2)".toList "10".toList "3".toList "a|b|c".toList
        ",0,\x7b\x7d))".toList)).outcome
      = .ok ⟨.legacy, "f(1,0,2)".toList, 10, 3, "a|b|c".toList, ['|']⟩ ∧
    (standard.unpackUnchecked (barCall "f(1,[],2)".toList "10".toList "3".toList "a|b|c".toList
        ",0,\x7b\x7d))".toList)).outcome = .ok "f(b,a,c)".toList ∧
    (extract (barCall "f(,1,2,(x)".toList "10".toList "3".toList "a|b|c".toList
        ".split(y)".toList)).outcome
      = .ok ⟨.primary, "f(".toList, 1, 2, "x)',10,3,'a|b|c'.split('|'".toList, ['y']⟩ := by
  refine ⟨⟨⟨?_, ?_⟩, ⟨?_, ?_⟩, ⟨?_, ?_⟩, ⟨?_, ?_⟩, ⟨?_, ?_⟩⟩, ⟨?_, ?_, ?_⟩, ?_, ?_, ?_⟩
  all_goals decide +kernel

end Unpacker

end PackedScript

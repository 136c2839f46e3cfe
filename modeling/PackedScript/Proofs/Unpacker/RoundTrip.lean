import PackedScript.Pattern.Automaton
import PackedScript.Proofs.CallSite.Legacy
import PackedScript.Proofs.Payload.Template
import PackedScript.Proofs.SymbolTable
import PackedScript.Proofs.Unpacker.Stages

/-!
# Unpacking undoes packing

`packedScript` is the call that a packer writes. Its single quotes cut it into seven pieces, and
what makes a script plain looks at each piece on its own, so the call is plain already but for the
placeholder of the radix (`plain_packedScript`). Every later stage reads what the packer wrote: the
legacy call gives back its fields, the table its symbols, and the payload, which is a template filled
with numerals, becomes the same template filled with symbols (`unpack_packedScript`).
-/

namespace PackedScript

open Text

/-- How a packer's call starts, up to the quote that opens the payload. -/
def packerFront : Text := "eval(function(p,a,c,k,e,d)\x7b\x7d('".toList

/-- How a packer's call ends, from the quote that closes the table on. -/
def packerBack : Text := "'.split('|'),0,\x7b\x7d))".toList

/-- The call that a packer writes, with a payload, the text of the radix, a table and the number of
its symbols. -/
def packedScript (payload radix table : Text) (count : Nat) : Text :=
  packerFront ++ payload ++ ['\'', ','] ++ radix ++ [','] ++ Numeral.written 10 count ++ [',', '\'']
    ++ table ++ packerBack

/-- How a packer writes a base: in decimal, or as an empty list for 36. -/
inductive RadixText : Nat → Text → Prop where
  | numeral (base : Nat) : RadixText base (Numeral.written 10 base)
  | placeholder : RadixText 36 ['[', ']']

/-- A payload or a table that holds nothing which would be rewritten or taken for the end of a
primary call's table, at its end or inside. -/
structure Undisturbed (t : Text) : Prop where
  placeholder : ¬CallSite.placeholder <:+: t
  quote : ¬CallSite.escapedQuote <:+: t
  split : ¬").split(".toList <:+: t
  last : t.getLast? ≠ some '\\'

namespace CallSite

section

variable {payload radix table : Text} {count : Nat}

/-- The numbers of a packer's call with the commas around them. -/
def numbers (radix : Text) (count : Nat) : Text :=
  ',' :: (radix ++ ',' :: (Numeral.written 10 count ++ [',']))

/-- The pieces of a packer's call that are the same in every call. -/
def fixedPieces : List Text :=
  [packerFront.dropLast, ".split(".toList, ['|'], "),0,\x7b\x7d))".toList]

/-- The pieces of a packer's call between its single quotes, if there are none in its payload and
its table. -/
def pieces (payload radix table : Text) (count : Nat) : List Text :=
  [packerFront.dropLast, payload, numbers radix count, table, ".split(".toList, ['|'],
    "),0,\x7b\x7d))".toList]

/-- What holds of the fixed pieces and of the three others holds of every piece. -/
theorem forall_mem_pieces {P : Text → Prop} (hfixed : ∀ piece ∈ fixedPieces, P piece)
    (hpayload : P payload) (hnumbers : P (numbers radix count)) (htable : P table) :
    ∀ piece ∈ pieces payload radix table count, P piece := by
  simp only [fixedPieces, List.forall_mem_cons] at hfixed
  obtain ⟨hfront, hsplit, hbar, hback, hnil⟩ := hfixed
  simp only [pieces, List.forall_mem_cons]
  exact ⟨hfront, hpayload, hnumbers, htable, hsplit, hbar, hback, hnil⟩

theorem packedScript_eq_intercalate (payload radix table : Text) (count : Nat) :
    packedScript payload radix table count
      = ['\''].intercalate (pieces payload radix table count) := by
  have hfront : packerFront = packerFront.dropLast ++ ['\''] := by decide
  have hback : packerBack = '\'' :: (".split(".toList ++ '\'' :: '|' :: '\''
    :: "),0,\x7b\x7d))".toList) := by decide
  rw [packedScript, hback, pieces, numbers]
  simp only [List.intercalate_cons_cons, List.intercalate_singleton]
  rw [hfront]
  simp

/-- A packer's call is a legacy call without spaces. -/
theorem packedScript_eq_legacyText (payload radix table : Text) (count : Nat) :
    packedScript payload radix table count
      = "eval(function(p,a,c,k,e,d)\x7b".toList
        ++ legacyText [] [] [] ⟨payload, radix, Numeral.written 10 count, table, ['|']⟩
        ++ ",0,\x7b\x7d))".toList := by
  have hfront : packerFront = "eval(function(p,a,c,k,e,d)\x7b".toList ++ ['}', '(', '\''] := by
    decide
  have hback : packerBack = "'.split('".toList ++ ['|'] ++ legacyEnd ++ ",0,\x7b\x7d))".toList := by
    decide
  rw [packedScript, hfront, hback, legacyText, legacyNumbersText]
  simp only [List.append_assoc, List.cons_append, List.nil_append]

theorem notMem_numbers {c : Char} (hc : c.isDigit = false) (hcomma : c ≠ ',') (n count : Nat) :
    c ∉ numbers (Numeral.written 10 n) count := by
  simp [numbers, hcomma, Numeral.notMem_written_ten hc]

/-- Behind the placeholder, the numbers of a packer's call declare a radix for its base. -/
theorem exists_replaceAll_numbers {r : Radix} (h : RadixText r.base radix) (count : Nat) :
    ∃ declared, declared < Numeral.sizeLimit ∧ Radix.ofDeclared? declared = some r ∧
      replaceAll placeholder [',', '0', ','] (numbers radix count)
        = numbers (Numeral.written 10 declared) count := by
  obtain ⟨base, htwo, hle⟩ := r
  cases h with
  | numeral =>
    refine ⟨base, by unfold Numeral.sizeLimit; omega, ?_, ?_⟩
    · rw [Radix.ofDeclared?, if_neg (by omega), dif_pos ⟨htwo, hle⟩]
    · have hbracket := notMem_numbers (c := '[') (by decide) (by decide) base count
      exact replaceAll_eq_self fun hstands => hbracket (hstands.subset (by decide))
  | placeholder =>
    refine ⟨0, by decide, rfl, ?_⟩
    have hbracket : '[' ∉ Numeral.written 10 count ++ [','] := by
      simp [Numeral.notMem_written_ten (by decide : Char.isDigit '[' = false)]
    have hstarts : placeholder <+: numbers ['[', ']'] count := ⟨_, rfl⟩
    have hrest : replaceAll placeholder [',', '0', ','] (Numeral.written 10 count ++ [','])
        = Numeral.written 10 count ++ [','] :=
      replaceAll_eq_self fun hstands => hbracket (hstands.subset (by decide))
    rw [numbers] at hstarts ⊢
    rw [replaceAll_cons_of_front hstarts]
    exact congrArg ([',', '0', ','] ++ ·) hrest

/-- Making a packer's call plain fills in the placeholder of its radix and nothing else, and leaves
no end of a primary call's table. -/
theorem plain_packedScript {r : Radix} (count : Nat) (hradix : RadixText r.base radix)
    (hpayload : Undisturbed payload) (htable : Undisturbed table) :
    ∃ declared, declared < Numeral.sizeLimit ∧ Radix.ofDeclared? declared = some r ∧
      plain (packedScript payload radix table count)
        = packedScript payload (Numeral.written 10 declared) table count ∧
      ¬").split(".toList <:+: packedScript payload (Numeral.written 10 declared) table count := by
  obtain ⟨declared, hlt, hdeclared, hnumbers⟩ := exists_replaceAll_numbers hradix count
  have hbackslash := notMem_numbers (c := '\\') (by decide) (by decide) declared count
  have hparen := notMem_numbers (c := ')') (by decide) (by decide) declared count
  refine ⟨declared, hlt, hdeclared, ?_, ?_⟩
  · have hplaceholder : replaceAll placeholder [',', '0', ','] (packedScript payload radix table count)
        = packedScript payload (Numeral.written 10 declared) table count := by
      -- the placeholder has no quote, so each piece is rewritten on its own
      have hfixed : ∀ piece ∈ fixedPieces, ¬placeholder <:+: piece := by decide
      simp only [fixedPieces, List.forall_mem_cons] at hfixed
      obtain ⟨hfront, hsplit, hbar, hback, -⟩ := hfixed
      rw [packedScript_eq_intercalate, packedScript_eq_intercalate,
        replaceAll_intercalate (by decide) (by decide)]
      simp only [pieces, List.map_cons, List.map_nil, hnumbers, replaceAll_eq_self hfront,
        replaceAll_eq_self hpayload.placeholder, replaceAll_eq_self htable.placeholder,
        replaceAll_eq_self hsplit, replaceAll_eq_self hbar, replaceAll_eq_self hback]
    have hquote : ¬escapedQuote <:+: packedScript payload (Numeral.written 10 declared) table count := by
      -- an escaped quote would lie in a piece, or at its end with the quote behind it
      have hfixed : ∀ piece ∈ fixedPieces, ¬escapedQuote <:+: piece ∧ piece.getLast? ≠ some '\\' := by
        decide
      rw [packedScript_eq_intercalate]
      refine not_pair_infix_intercalate (by decide) (forall_mem_pieces hfixed ?_ ?_ ?_)
      · exact ⟨hpayload.quote, hpayload.last⟩
      · exact ⟨fun hstands => hbackslash (hstands.subset (by decide)),
          fun hlast => hbackslash (List.mem_of_getLast? hlast)⟩
      · exact ⟨htable.quote, htable.last⟩
    rw [plain]
    exact (congrArg _ hplaceholder).trans (replaceAll_eq_self hquote)
  · have hfixed : ∀ piece ∈ fixedPieces, ¬").split(".toList <:+: piece := by decide
    rw [packedScript_eq_intercalate, infix_intercalate_iff (by decide) (by simp [pieces])]
    intro hstands
    obtain ⟨piece, hpiece, hstands⟩ := hstands
    exact forall_mem_pieces hfixed hpayload.split
      (fun hstands => hparen (hstands.subset (by decide))) htable.split piece hpiece hstands

end

/-- The call of a packer, whose table has no quotes, is read back. -/
theorem ofSource_packedScript {payload radix table : Text} {count : Nat} {r : Radix}
    (hradix : RadixText r.base radix) (hpayload : Undisturbed payload) (htable : Undisturbed table)
    (hquote : '\'' ∉ table) (hcount : count < Numeral.sizeLimit) :
    ∃ declared, Radix.ofDeclared? declared = some r ∧
      ofSource (packedScript payload radix table count)
        = .ok ⟨.legacy, payload, declared, count, table, ['|']⟩ := by
  obtain ⟨declared, hlt, hdeclared, hplain, hsplit⟩ :=
    plain_packedScript count hradix hpayload htable
  refine ⟨declared, hdeclared, ?_⟩
  have hspaces : Spaces [] := by simp [Spaces]
  rw [← hplain] at hsplit
  rw [packedScript_eq_legacyText payload (Numeral.written 10 declared)] at hplain
  exact ofSource_of_plain_eq hspaces hspaces hspaces (Numeral.decimal_written declared) hlt
    (Numeral.decimal_written count) hcount (by simp) (by decide) hquote (by simp) (by decide)
    hplain hsplit

end CallSite

/-- What starts with a text without spaces starts with it. -/
theorem startsWithoutSpaces_append {expected : Text} (h : ' ' ∉ expected) (t : Text) :
    startsWithoutSpaces expected (expected ++ t) = true := by
  have hfilter : expected.filter (· != ' ') = expected := by
    rw [List.filter_eq_self]
    intro c hc
    have hne : c ≠ ' ' := fun heq => h (heq ▸ hc)
    simpa using hne
  rw [startsWithoutSpaces_eq, List.filter_append, hfilter]
  exact List.isPrefixOf_iff_prefix.mpr ⟨_, rfl⟩

theorem isPacked_packedScript (payload radix table : Text) (count : Nat) :
    isPacked (packedScript payload radix table count) = true := by
  have hfront : packerFront = signature ++ "d)\x7b\x7d('".toList := by decide
  rw [isPacked, packedScript, hfront]
  simp only [List.append_assoc]
  exact startsWithoutSpaces_append (by decide) _

/-- A text has no more characters than bytes. -/
theorem Text.length_le_byteLength (t : Text) : t.length ≤ Text.byteLength t := by
  induction t with
  | nil => simp
  | cons c t ih =>
    have hc := Char.utf8Size_pos c
    rw [List.length_cons, Text.byteLength_cons]
    omega

/-- A table is shorter than the call it stands in. -/
theorem length_lt_byteLength_packedScript (payload radix : Text) (symbols : List Text)
    (count : Nat) : symbols.length < byteLength (packedScript payload radix
      (SymbolTable.joined symbols) count) := by
  have hjoined := SymbolTable.length_le_length_joined symbols
  have hbytes := Text.length_le_byteLength (SymbolTable.joined symbols)
  have hfront : byteLength packerFront = 30 := by decide
  simp only [packedScript, byteLength_append, hfront]
  omega

/-- A packed script is unpacked to what was packed, strictly or not: the symbols stand in the places
of their numerals, where a symbol is empty its numeral stays, and a string table is inlined. The
limit of the options is a size, as every limit is. -/
theorem unpack_packedScript [Engine] (u : Unpacker) {r : Radix} {radix : Text} {symbols : List Text}
    {template : Payload.Template} (hr : r.base ≤ 62) (hradix : RadixText r.base radix)
    (hne : symbols ≠ []) (hbar : ∀ symbol ∈ symbols, '|' ∉ symbol)
    (hquote : ∀ symbol ∈ symbols, '\'' ∉ symbol) (hsep : template.Separated)
    (hindex : ∀ place ∈ template.places, place.1 < symbols.length)
    (hpayload : Undisturbed (template.packed r.base))
    (htable : Undisturbed (SymbolTable.joined symbols))
    (hlength : byteLength (packedScript (template.packed r.base) radix (SymbolTable.joined symbols)
      symbols.length) ≤ u.options.maxLength)
    (hsize : u.options.maxLength < Numeral.sizeLimit) :
    (u.unpack (packedScript (template.packed r.base) radix (SymbolTable.joined symbols)
        symbols.length)).outcome
      = .ok (some (StringTable.inlineStrings (template.unpacked r.base symbols))) := by
  have hcount : symbols.length < Numeral.sizeLimit := by
    have := length_lt_byteLength_packedScript (template.packed r.base) radix symbols symbols.length
    omega
  have hnoQuote : '\'' ∉ SymbolTable.joined symbols := by
    intro hmem
    rcases Text.eq_or_mem_of_mem_intercalate hmem with heq | ⟨symbol, hsymbol, hc⟩
    · exact absurd heq (by decide)
    · exact hquote symbol hsymbol hc
  obtain ⟨declared, hdeclared, hsite⟩ :=
    CallSite.ofSource_packedScript hradix hpayload htable hnoQuote hcount
  have hcheck : u.options.check (packedScript (template.packed r.base) radix
      (SymbolTable.joined symbols) symbols.length) = .ok () := by
    rw [Options.check, if_neg (by omega)]
  have hsymbols := SymbolTable.ofText_joined hne hbar u.options.strict
  have hdeclared' : Options.radix declared = .ok r := by rw [Options.radix, hdeclared]
  have hdecode := Payload.Template.decode_packed hr hsep hindex hcount
  rw [Unpacker.outcome_unpack, if_pos (isPacked_packedScript _ _ _ _), Options.outcome_unpack,
    hcheck, hsite]
  -- what is left are the table, the base and the payload
  show Outcome.map some ((SymbolTable.ofText _ _ _ _).bind _) = _
  rw [hsymbols]
  show Outcome.map some ((Outcome.ofExcept (Options.radix declared)).bind _) = _
  rw [hdeclared', ← hdecode]
  rfl

/-- A call with the placeholder of its radix, a quote in its payload and an empty symbol. -/
theorem unpack_packedScript_placeholder :
    (Unpacker.standard.unpack (packedScript "0 2='1';".toList "[]".toList "var||x".toList 3)).outcome
      = .ok (some "var x='1';".toList) := by
  have hpacked : Payload.Template.packed 36 ⟨[], [(0, [' ']), (2, ['=', '\'']), (1, ['\'', ';'])]⟩
      = "0 2='1';".toList := by decide +kernel
  have hunpacked : Payload.Template.unpacked 36 ["var".toList, [], ['x']]
      ⟨[], [(0, [' ']), (2, ['=', '\'']), (1, ['\'', ';'])]⟩ = "var x='1';".toList := by
    decide +kernel
  have hjoined : SymbolTable.joined ["var".toList, [], ['x']] = "var||x".toList := by
    decide +kernel
  have hsep : Payload.Template.Separated
      ⟨[], [(0, [' ']), (2, ['=', '\'']), (1, ['\'', ';'])]⟩ :=
    ⟨by simp, by simp [Payload.isWordChar], by simp⟩
  have hpayload : Undisturbed "0 2='1';".toList :=
    ⟨by decide +kernel, by decide +kernel, by decide +kernel, by decide +kernel⟩
  have htable : Undisturbed "var||x".toList :=
    ⟨by decide +kernel, by decide +kernel, by decide +kernel, by decide +kernel⟩
  have hinline : StringTable.inlineStrings "var x='1';".toList = "var x='1';".toList := by
    decide +kernel
  have hunpack := @unpack_packedScript _ Unpacker.standard ⟨36, by omega, by omega⟩ "[]".toList
    ["var".toList, [], ['x']] _ (by simp) .placeholder (by simp) (by decide +kernel)
    (by decide +kernel) hsep (by decide +kernel) (hpacked ▸ hpayload) (hjoined ▸ htable)
    (by rw [hpacked, hjoined]; decide +kernel) (by decide +kernel)
  rw [hpacked, hjoined, hunpacked, hinline] at hunpack
  exact hunpack

end PackedScript

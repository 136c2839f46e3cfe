import PackedScript.Pattern.Automaton
import PackedScript.Proofs.StringTable.Declaration

/-!
# Inlining a table

Behind the first declaration of a script each access is replaced on its own (`inlineStrings_text`),
if the engine reads the pattern of the accesses. Two things are not as they should be. A table ends
too early if an entry other than the first one starts with the rest of a closing: entries are lost,
and the end of the declaration stays in the script. And an access is one wherever it begins, also
inside a longer identifier. There is nothing else: a script behind a declaration is kept exactly when
the table does not end too early and no access to an entry stands in the script, or accesses are not
looked for (`inlineStrings_eq_rest_iff`).
-/

namespace PackedScript.StringTable

open Text

/-! ## The table that is read -/

/-- The engine reads the pattern of the accesses to a table. -/
def ReadsAccesses [Engine] (name : Text) : Prop :=
  ∃ pattern, Engine.read false (accessPattern name) = .ok pattern

section

variable [Engine] {t : Text} {d : Declaration}

/-- Accesses that are looked for are replaced behind the declaration. -/
theorem inlineStrings_of_readsAccesses (h : declaration? t = some d)
    (hread : ReadsAccesses d.name) :
    inlineStrings t = substitute (inlineAccess d.name d.entries) d.rest := by
  obtain ⟨pattern, hread⟩ := hread
  simp only [inlineStrings, h, hread]

/-- Otherwise what is behind the declaration is kept. -/
theorem inlineStrings_of_not_readsAccesses (h : declaration? t = some d)
    (hread : ¬ReadsAccesses d.name) : inlineStrings t = d.rest := by
  cases hpattern : Engine.read false (accessPattern d.name) with
  | ok pattern => exact absurd ⟨pattern, hpattern⟩ hread
  | error text => simp only [inlineStrings, h, hpattern]

end

section

variable {before sp name rest : Text} {strings : List Text}

/-- The entries of a declaration are what was declared. -/
theorem entries_entriesText (hne : strings ≠ []) (hquote : ∀ s ∈ strings, '"' ∉ s) :
    Declaration.entries ⟨name, entriesText strings, rest⟩ = strings.toArray :=
  congrArg List.toArray (splitOn_intercalate hne hquote)

/-- The first declaration is read as it is written exactly when no entry but the first one starts
with the rest of a closing. -/
theorem declaration?_declarationText_iff (hsp : Spaces sp) (hname : TableName name)
    (hquote : ∀ s ∈ strings, '"' ∉ s)
    (hfirst : NoneOpens before (declarationText sp name strings ++ rest)) :
    declaration? (before ++ (declarationText sp name strings ++ rest))
        = some ⟨name, entriesText strings, rest⟩ ↔
      ∀ s ∈ strings.tail, ¬"];".toList <+: s := by
  have hcut : cutFirst (after? closing) (entriesText strings ++ (closing ++ rest))
      = some (entriesText strings, rest) ↔ EndsFirst closing (entriesText strings) :=
    cutFirst_after?_append_iff
  rw [declarationText, List.append_assoc, List.append_assoc] at hfirst ⊢
  rw [← endsFirst_entriesText_iff hquote, ← hcut, declaration?_append hsp hname _ hfirst,
    Option.map_eq_some_iff]
  constructor
  · intro h
    obtain ⟨⟨entries, behind⟩, hfound, heq⟩ := h
    obtain ⟨-, rfl, rfl⟩ := Declaration.mk.inj heq
    exact hfound
  · intro h
    exact ⟨_, h, rfl⟩

end

/-! ## Scripts with a table -/

/-- A script with a table: what stands before the declaration, the declaration, and behind it code
with places for accesses. -/
structure Script where
  before : Text
  spaces : Text
  name : Text
  strings : List Text
  code : Payload.Template

namespace Script

/-- The script as it is written. -/
def text (script : Script) : Text :=
  script.before ++ (declarationText script.spaces script.name script.strings
    ++ script.code.fill (accessText script.name))

/-- The code with the strings in the places of the accesses to them. -/
def inlined (script : Script) : Text :=
  script.code.fill (inlinedText script.name script.strings)

/-- No declaration opens before the one of the table, no string holds a quote, and accesses stand
in the places only. -/
structure Proper (script : Script) : Prop where
  spaces : Spaces script.spaces
  name : TableName script.name
  ne_nil : script.strings ≠ []
  quote : ∀ s ∈ script.strings, '"' ∉ s
  first : NoneOpens script.before (declarationText script.spaces script.name script.strings
    ++ script.code.fill (accessText script.name))
  front : ¬script.name ++ ['['] <:+: script.code.front
  gaps : ∀ place ∈ script.code.places, ¬script.name ++ ['['] <:+: place.2

end Script

/-- In a script with a table each access that names an entry is replaced by the entry in quotes,
and everything else behind the declaration is kept, if accesses are looked for and no entry but the
first one starts with the rest of a closing. A script without a declaration is kept as it is. -/
theorem inlineStrings_text [Engine] (script : Script) (t : Text) :
    (script.Proper → ReadsAccesses script.name → (∀ s ∈ script.strings.tail, ¬"];".toList <+: s) →
      inlineStrings script.text = script.inlined) ∧
    (¬Declares t → inlineStrings t = t) := by
  constructor
  · intro hproper haccesses hclosed
    have hread := (declaration?_declarationText_iff hproper.spaces hproper.name hproper.quote
      hproper.first).mpr hclosed
    rw [Script.text, inlineStrings_of_readsAccesses hread haccesses,
      entries_entriesText hproper.ne_nil hproper.quote]
    exact substitute_fill hproper.name hproper.front hproper.gaps
  · intro h
    rw [inlineStrings, declaration?_eq_none h]

/-- A first entry like the rest of a closing, an entry like an access, and indices that name no
entry, one of them of more than 64 bits. -/
def oddEntries : Script :=
  ⟨"a;".toList, "  ".toList, "_x".toList, ["];,_x[1]".toList, "b\nc".toList],
    ⟨"f(".toList, [(0, ['+']), (1, [',']), (2, [',']), (18446744073709551617, [')'])]⟩⟩

/-- Each of them is what it should be, and a script with no bracket has no table. -/
theorem inlineStrings_oddEntries :
    inlineStrings
        "a;var  _x=[\"];,_x[1]\",\"b\nc\"];f(_x[0]+_x[1],_x[2],_x[18446744073709551617])".toList
      = "f(\"];,_x[1]\"+\"b\nc\",_x[2],_x[18446744073709551617])".toList ∧
    inlineStrings "var _a=1;".toList = "var _a=1;".toList := by
  have hproper : oddEntries.Proper :=
    ⟨by decide, by decide +kernel, by decide, by decide, by decide +kernel, by decide, by decide⟩
  have htext : oddEntries.text
      = "a;var  _x=[\"];,_x[1]\",\"b\nc\"];f(_x[0]+_x[1],_x[2],_x[18446744073709551617])".toList := by
    decide +kernel
  have hinlined : oddEntries.inlined
      = "f(\"];,_x[1]\"+\"b\nc\",_x[2],_x[18446744073709551617])".toList := by
    decide +kernel
  have haccesses : ReadsAccesses oddEntries.name := ⟨_, rfl⟩
  have hbracket : ¬Declares "var _a=1;".toList := by
    rintro ⟨sp, name, entries, -, -, hstands⟩
    exact absurd (hstands.subset (by simp [openingText] : '[' ∈ _)) (by decide)
  have hinline := inlineStrings_text oddEntries "var _a=1;".toList
  rw [htext, hinlined] at hinline
  exact ⟨hinline.1 hproper haccesses (by decide), hinline.2 hbracket⟩

/-- A table that ends too early. -/
def earlyEnd : Script :=
  ⟨[], [' '], "_x".toList, [['a'], "];b".toList], ⟨"f(".toList, [(0, [')'])]⟩⟩

/-- The end of its declaration stays in the script, and the first entry is not the one that was
declared. -/
theorem inlineStrings_earlyEnd :
    earlyEnd.Proper ∧ ReadsAccesses earlyEnd.name ∧
      earlyEnd.text = "var _x=[\"a\",\"];b\"];f(_x[0])".toList ∧
      earlyEnd.inlined = "f(\"a\")".toList ∧
      inlineStrings earlyEnd.text = "b\"];f(\"a\",\")".toList := by
  have hproper : earlyEnd.Proper :=
    ⟨by decide, by decide +kernel, by decide, by decide, noneOpens_nil _, by decide, by decide⟩
  exact ⟨hproper, ⟨_, rfl⟩, by decide +kernel, by decide +kernel, by decide +kernel⟩

/-! ## Scripts that are kept -/

section

variable [Engine] {sp name rest : Text} {strings : List Text}

/-- A table that ends too early leaves a quote of its declaration in the script. -/
theorem count_quote_lt_of_early (hsp : Spaces sp) (hname : TableName name)
    (hquote : ∀ s ∈ strings, '"' ∉ s) (hearly : ¬∀ s ∈ strings.tail, ¬"];".toList <+: s) :
    rest.count '"' < (inlineStrings (declarationText sp name strings ++ rest)).count '"' := by
  obtain ⟨pre, mid, hcut, hmid⟩ := exists_cutFirst_closing (entriesText strings) rest
  have hmem : '"' ∈ mid := by
    rcases hmid with ⟨rfl, rfl⟩ | hmem
    · exact absurd ((endsFirst_entriesText_iff hquote).mp (endsFirst_of_cutFirst hcut)) hearly
    · exact hmem
  have hread : declaration? (declarationText sp name strings ++ rest)
      = some ⟨name, pre, mid ++ rest⟩ := by
    have hfirst :=
      declaration?_append hsp hname (entriesText strings ++ (closing ++ rest)) (noneOpens_nil _)
    rw [hcut] at hfirst
    rw [declarationText, List.append_assoc, List.append_assoc]
    exact hfirst
  have hpos : 0 < mid.count '"' := List.count_pos_iff.mpr hmem
  have hlt : rest.count '"' < (mid ++ rest).count '"' := by
    rw [List.count_append]
    omega
  by_cases haccesses : ReadsAccesses name
  · rw [inlineStrings_of_readsAccesses hread haccesses]
    exact hlt.trans_le (count_quote_le_count_substitute hname _)
  · rw [inlineStrings_of_not_readsAccesses hread haccesses]
    exact hlt

/-- The script behind a declaration is kept exactly when the table does not end too early, and either
no access to an entry stands in the script, be it in a longer identifier, or accesses are not looked
for. -/
theorem inlineStrings_eq_rest_iff (hsp : Spaces sp) (hname : TableName name) (hne : strings ≠ [])
    (hquote : ∀ s ∈ strings, '"' ∉ s) :
    inlineStrings (declarationText sp name strings ++ rest) = rest ↔
      (∀ s ∈ strings.tail, ¬"];".toList <+: s) ∧
        (ReadsAccesses name →
          ∀ i, (stringAt? strings i).isSome → ¬accessText name i <:+: rest) := by
  by_cases hclosed : ∀ s ∈ strings.tail, ¬"];".toList <+: s
  · have hread : declaration? (declarationText sp name strings ++ rest)
        = some ⟨name, entriesText strings, rest⟩ :=
      (declaration?_declarationText_iff hsp hname hquote (noneOpens_nil _)).mpr hclosed
    rw [and_iff_right hclosed]
    by_cases haccesses : ReadsAccesses name
    · rw [inlineStrings_of_readsAccesses hread haccesses, entries_entriesText hne hquote,
        substitute_eq_self_iff hname, imp_iff_right haccesses]
    · rw [inlineStrings_of_not_readsAccesses hread haccesses]
      exact iff_of_true rfl fun h => absurd h haccesses
  · constructor
    · intro h
      have hlt := @count_quote_lt_of_early _ sp name rest strings hsp hname hquote hclosed
      rw [h] at hlt
      exact absurd hlt (Nat.lt_irrefl _)
    · intro h
      exact absurd h.1 hclosed

end

/-- Longer identifiers with indices that name no entry. -/
theorem inlineStrings_eq_rest_iff_no_entry :
    inlineStrings "var _x=[\"];\",\"b\"];f(a_x[2],$_x[01])".toList
      = "f(a_x[2],$_x[01])".toList := by
  have hkept := @inlineStrings_eq_rest_iff _ [' '] "_x".toList "f(a_x[2],$_x[01])".toList
    ["];".toList, ['b']] (by decide) (by decide +kernel) (by decide) (by decide)
  have htext : declarationText [' '] "_x".toList ["];".toList, ['b']] ++ "f(a_x[2],$_x[01])".toList
      = "var _x=[\"];\",\"b\"];f(a_x[2],$_x[01])".toList := by
    decide
  rw [htext] at hkept
  refine hkept.mpr ⟨by decide, fun _ i hstring => ?_⟩
  match i with
  | 0 => decide +kernel
  | 1 => decide +kernel
  | i + 2 => simp [stringAt?] at hstring

/-- The name of the table with a bracket stands in longer identifiers only. -/
def InLonger (name rest : Text) : Prop :=
  ∀ pre post, rest = pre ++ (name ++ '[' :: post) →
    ∃ c ∈ pre.getLast?, Unicode.isWord c = true ∨ c = '$'

/-- An access to another variable is rewritten from the middle of its name on. -/
theorem inlineStrings_in_longer :
    TableName "_x".toList ∧ InLonger "_x".toList "a_x[0]".toList ∧
      declarationText [' '] "_x".toList [['a']] ++ "a_x[0]".toList
        = "var _x=[\"a\"];a_x[0]".toList ∧
      inlineStrings "var _x=[\"a\"];a_x[0]".toList = "a\"a\"".toList := by
  refine ⟨by decide +kernel, ?_, by decide, by decide +kernel⟩
  have hinits : ∀ pre ∈ "a_x[0]".toList.inits, ∀ post ∈ "a_x[0]".toList.tails,
      "a_x[0]".toList = pre ++ ("_x".toList ++ '[' :: post) → pre = ['a'] := by
    decide
  intro pre post hsplit
  have hpre := (List.mem_inits _ _).mpr ⟨_, hsplit.symm⟩
  have hpost : post ∈ "a_x[0]".toList.tails :=
    (List.mem_tails _ _).mpr ⟨pre ++ ("_x".toList ++ ['[']), by simp [hsplit]⟩
  rw [hinits pre hpre post hpost hsplit]
  exact ⟨'a', rfl, .inl (by decide +kernel)⟩

end PackedScript.StringTable

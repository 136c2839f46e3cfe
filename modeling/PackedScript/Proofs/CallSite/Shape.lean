import PackedScript.CallSite.Extract
import PackedScript.Proofs.Text.Class
import PackedScript.Proofs.Text.Cut

/-!
# The shapes of a call, and that they are found

`primaryText` and `legacyText` write a call of either shape with any fields and any spacing. A text
holds a call of a shape when such a call stands somewhere in it.

The readers cut once, forward or backward, and never take a cut back. They are still exact: what is
read is a call that the text holds (`holds_of_primary?`, `holds_of_legacy?`), and where the text
holds some call of the shape, one is read (`primary?_isSome_of_holds`, `legacy?_isSome_of_holds`).
The reason is the same for every cut. Whatever the call needs behind a cut still lies behind the one
that is made: first cuts lie no later than the call's, last cuts no earlier.
-/

namespace PackedScript.CallSite

open Text

/-! ## Numbers -/

/-- The white space in the numbers of a primary call. -/
structure NumberSpacing where
  beforeRadix : Text
  afterRadix : Text
  beforeCount : Text
  afterCount : Text
  beforeTable : Text

/-- Every part of the spacing is white space. -/
structure NumberSpacing.Blank (s : NumberSpacing) : Prop where
  beforeRadix : Text.Blank s.beforeRadix
  afterRadix : Text.Blank s.afterRadix
  beforeCount : Text.Blank s.beforeCount
  afterCount : Text.Blank s.afterCount
  beforeTable : Text.Blank s.beforeTable

/-- The numbers of a primary call, from the comma behind the payload to the parenthesis that opens
the table. -/
def primaryNumbersText (s : NumberSpacing) (radix count : Text) : Text :=
  ',' :: s.beforeRadix ++ radix ++ s.afterRadix ++ ',' :: s.beforeCount ++ count ++ s.afterCount
    ++ ',' :: s.beforeTable ++ ['(']

/-- The numbers of a legacy call, from the quote that closes the payload to the one that opens the
table. -/
def legacyNumbersText (sp₁ sp₂ sp₃ radix count : Text) : Text :=
  '\'' :: ',' :: sp₁ ++ radix ++ ',' :: sp₂ ++ count ++ ',' :: sp₃ ++ ['\'']

theorem comma?_append {ws t : Text} (hws : Blank ws) (ht : StopsAt Unicode.isSpace t) :
    comma? (',' :: (ws ++ t)) = some t := by
  simp [comma?, after?, trimStart_append_of_stopsAt hws ht]

theorem eq_append_of_comma? {t rest : Text} (h : comma? t = some rest) :
    ∃ ws, Blank ws ∧ t = ',' :: (ws ++ rest) := by
  obtain ⟨behind, hbehind, rfl⟩ := Option.map_eq_some_iff.mp h
  obtain ⟨ws, hws, heq⟩ := exists_blank_append_trimStart behind
  refine ⟨ws, hws, ?_⟩
  rw [← heq]
  exact after?_eq_some_iff.mp hbehind

theorem spacedComma?_append {sp t : Text} (hsp : Spaces sp) (ht : StopsAt (· == ' ') t) :
    spacedComma? (',' :: (sp ++ t)) = some t := by
  simp [spacedComma?, after?, skipSpaces_append_of_stopsAt hsp ht]

theorem eq_append_of_spacedComma? {t rest : Text} (h : spacedComma? t = some rest) :
    ∃ sp, Spaces sp ∧ t = ',' :: (sp ++ rest) := by
  obtain ⟨behind, hbehind, rfl⟩ := Option.map_eq_some_iff.mp h
  obtain ⟨sp, hsp, heq⟩ := exists_spaces_append_skipSpaces behind
  refine ⟨sp, hsp, ?_⟩
  rw [← heq]
  exact after?_eq_some_iff.mp hbehind

/-- White space that a comma follows stops a run of digits. -/
theorem stopsAt_digit_blank_comma {ws : Text} (hws : Blank ws) (t : Text) :
    StopsAt Unicode.isDecimalDigit (ws ++ ',' :: t) := by
  cases ws with
  | nil => exact .cons (by decide) _
  | cons c ws =>
    exact .cons (Unicode.isDecimalDigit_eq_false_of_isSpace (hws c List.mem_cons_self)) _

/-- The numbers of a primary call are read as they are written. -/
theorem primaryNumbers?_append {s : NumberSpacing} {radix count : Text} (hs : s.Blank)
    (hradix : DigitRun radix) (hcount : DigitRun count) (t : Text) :
    primaryNumbers? (primaryNumbersText s radix count ++ t) = some (radix, count, t) := by
  have hcomma (t : Text) : StopsAt Unicode.isSpace (',' :: t) := .cons (by decide) t
  have hparen : StopsAt Unicode.isSpace ('(' :: t) := .cons (by decide) t
  simp only [primaryNumbersText, primaryNumbers?, List.cons_append, List.append_assoc,
    List.nil_append, Option.bind_eq_bind, Option.bind_some,
    comma?_append hs.beforeRadix (hradix.stopsAt_isSpace _),
    digits?_append hradix (stopsAt_digit_blank_comma hs.afterRadix _),
    trimStart_append_of_stopsAt hs.afterRadix (hcomma _),
    comma?_append hs.beforeCount (hcount.stopsAt_isSpace _),
    digits?_append hcount (stopsAt_digit_blank_comma hs.afterCount _),
    trimStart_append_of_stopsAt hs.afterCount (hcomma _),
    comma?_append hs.beforeTable hparen]
  rfl

/-- What is read as the numbers of a primary call is written so. -/
theorem eq_append_of_primaryNumbers? {t radix count rest : Text}
    (h : primaryNumbers? t = some (radix, count, rest)) :
    ∃ s : NumberSpacing, s.Blank ∧ DigitRun radix ∧ DigitRun count ∧
      t = primaryNumbersText s radix count ++ rest := by
  simp only [primaryNumbers?, Option.bind_eq_bind, Option.bind_eq_some_iff, Prod.exists,
    Option.some.injEq, Prod.mk.injEq] at h
  obtain ⟨t₁, h₁, radix', t₂, h₂, t₃, h₃, count', t₄, h₄, t₅, h₅, t₆, h₆, rfl, rfl, rfl⟩ := h
  obtain ⟨beforeRadix, hbeforeRadix, rfl⟩ := eq_append_of_comma? h₁
  obtain ⟨hradix, rfl⟩ := eq_append_of_digits? h₂
  obtain ⟨beforeCount, hbeforeCount, hcomma⟩ := eq_append_of_comma? h₃
  obtain ⟨afterRadix, hafterRadix, heqRadix⟩ := exists_blank_append_trimStart t₂
  obtain ⟨hcount, rfl⟩ := eq_append_of_digits? h₄
  obtain ⟨beforeTable, hbeforeTable, hcomma'⟩ := eq_append_of_comma? h₅
  obtain ⟨afterCount, hafterCount, heqCount⟩ := exists_blank_append_trimStart t₄
  obtain rfl := after?_eq_some_iff.mp h₆
  refine ⟨⟨beforeRadix, afterRadix, beforeCount, afterCount, beforeTable⟩,
    ⟨hbeforeRadix, hafterRadix, hbeforeCount, hafterCount, hbeforeTable⟩, hradix, hcount, ?_⟩
  rw [heqRadix, hcomma, heqCount, hcomma']
  simp [primaryNumbersText]

/-- The numbers of a legacy call are read as they are written. -/
theorem legacyNumbers?_append {sp₁ sp₂ sp₃ radix count : Text} (hsp₁ : Spaces sp₁)
    (hsp₂ : Spaces sp₂) (hsp₃ : Spaces sp₃) (hradix : DigitRun radix) (hcount : DigitRun count)
    (t : Text) :
    legacyNumbers? (legacyNumbersText sp₁ sp₂ sp₃ radix count ++ t) = some (radix, count, t) := by
  have hcomma (t : Text) : StopsAt Unicode.isDecimalDigit (',' :: t) := .cons (by decide) t
  have hquote : StopsAt (· == ' ') ('\'' :: t) := .cons (by decide) t
  simp only [legacyNumbersText, legacyNumbers?, List.cons_append, List.append_assoc,
    List.nil_append, Option.bind_eq_bind, Option.bind_some, after?, beq_self_eq_true, if_true,
    spacedComma?_append hsp₁ (hradix.stopsAt_space _), digits?_append hradix (hcomma _),
    spacedComma?_append hsp₂ (hcount.stopsAt_space _), digits?_append hcount (hcomma _),
    spacedComma?_append hsp₃ hquote]

/-- What is read as the numbers of a legacy call is written so. -/
theorem eq_append_of_legacyNumbers? {t radix count rest : Text}
    (h : legacyNumbers? t = some (radix, count, rest)) :
    ∃ sp₁ sp₂ sp₃, Spaces sp₁ ∧ Spaces sp₂ ∧ Spaces sp₃ ∧ DigitRun radix ∧ DigitRun count ∧
      t = legacyNumbersText sp₁ sp₂ sp₃ radix count ++ rest := by
  simp only [legacyNumbers?, Option.bind_eq_bind, Option.bind_eq_some_iff, Prod.exists,
    Option.some.injEq, Prod.mk.injEq] at h
  obtain ⟨t₁, h₁, t₂, h₂, radix', t₃, h₃, t₄, h₄, count', t₅, h₅, t₆, h₆, t₇, h₇, rfl, rfl, rfl⟩ := h
  obtain rfl := after?_eq_some_iff.mp h₁
  obtain ⟨sp₁, hsp₁, rfl⟩ := eq_append_of_spacedComma? h₂
  obtain ⟨hradix, rfl⟩ := eq_append_of_digits? h₃
  obtain ⟨sp₂, hsp₂, rfl⟩ := eq_append_of_spacedComma? h₄
  obtain ⟨hcount, rfl⟩ := eq_append_of_digits? h₅
  obtain ⟨sp₃, hsp₃, rfl⟩ := eq_append_of_spacedComma? h₆
  obtain rfl := after?_eq_some_iff.mp h₇
  exact ⟨sp₁, sp₂, sp₃, hsp₁, hsp₂, hsp₃, hradix, hcount, by simp [legacyNumbersText]⟩

/-! ## Calls -/

/-- A call of primary shape, with white space on both sides of its parenthesis and behind the
payload. -/
def primaryText (ws₁ ws₂ ws₃ : Text) (s : NumberSpacing) (f : Fields) : Text :=
  '}' :: ws₁ ++ '(' :: ws₂ ++ f.payload ++ ws₃ ++ primaryNumbersText s f.radix f.count
    ++ f.table ++ ").split(".toList ++ f.delimiter ++ [')']

/-- A call of legacy shape. -/
def legacyText (sp₁ sp₂ sp₃ : Text) (f : Fields) : Text :=
  ['}', '(', '\''] ++ f.payload ++ legacyNumbersText sp₁ sp₂ sp₃ f.radix f.count ++ f.table
    ++ "'.split('".toList ++ f.delimiter ++ legacyEnd

/-- A text is a call of the shape of a grammar, with the given fields. Nothing is asked of the
payload, the table and the delimiter. -/
inductive IsCall : Grammar → Fields → Text → Prop where
  | primary {ws₁ ws₂ ws₃ : Text} {s : NumberSpacing} {f : Fields} (hws₁ : Blank ws₁)
      (hws₂ : Blank ws₂) (hws₃ : Blank ws₃) (hs : s.Blank) (hradix : DigitRun f.radix)
      (hcount : DigitRun f.count) : IsCall .primary f (primaryText ws₁ ws₂ ws₃ s f)
  | legacy {sp₁ sp₂ sp₃ : Text} {f : Fields} (hsp₁ : Spaces sp₁) (hsp₂ : Spaces sp₂)
      (hsp₃ : Spaces sp₃) (hradix : DigitRun f.radix) (hcount : DigitRun f.count) :
      IsCall .legacy f (legacyText sp₁ sp₂ sp₃ f)

/-- A call of the shape of `grammar` with the fields `f` stands somewhere in `t`. -/
def Holds (grammar : Grammar) (t : Text) (f : Fields) : Prop :=
  ∃ call, call <:+: t ∧ IsCall grammar f call

/-! ## The primary shape -/

theorem opening?_append {ws₁ t : Text} (hws₁ : Blank ws₁) :
    opening? ('}' :: (ws₁ ++ '(' :: t)) = some (trimStart t) := by
  have hparen : StopsAt Unicode.isSpace ('(' :: t) := .cons (by decide) t
  simp [opening?, trimStart_append_of_stopsAt hws₁ hparen, after?]

theorem eq_append_of_opening? {t rest : Text} (h : opening? t = some rest) :
    ∃ ws₁ ws₂, Blank ws₁ ∧ Blank ws₂ ∧ t = '}' :: (ws₁ ++ '(' :: (ws₂ ++ rest)) := by
  unfold opening? at h
  split at h
  · next behind =>
    obtain ⟨inside, hinside, rfl⟩ := Option.map_eq_some_iff.mp h
    obtain ⟨ws₁, hws₁, heq₁⟩ := exists_blank_append_trimStart behind
    obtain ⟨ws₂, hws₂, heq₂⟩ := exists_blank_append_trimStart inside
    refine ⟨ws₁, ws₂, hws₁, hws₂, ?_⟩
    rw [← heq₂, heq₁, after?_eq_some_iff.mp hinside]
    rfl
  · simp at h

/-- What is read as a primary call is one. -/
theorem holds_of_primary? {t : Text} {f : Fields} (h : primary? t = some f) :
    Holds .primary t f := by
  simp only [primary?, Option.bind_eq_bind, Option.bind_eq_some_iff, Prod.exists,
    Option.some.injEq] at h
  obtain ⟨pre, t₁, h₁, payload, radix, count, t₂, h₂, table, t₃, h₃, delimiter, rest, h₄, rfl⟩ := h
  obtain ⟨call, rfl, hcall⟩ := exists_of_cutFirst h₁
  obtain ⟨ws₁, ws₂, hws₁, hws₂, rfl⟩ := eq_append_of_opening? hcall
  obtain ⟨numbers, rfl, hnumbers⟩ := exists_of_cutFirst h₂
  obtain ⟨s, hs, hradix, hcount, rfl⟩ := eq_append_of_primaryNumbers? hnumbers
  obtain rfl := eq_append_of_cutFirst_after? h₃
  obtain rfl := eq_append_of_cutFirst_after? h₄
  obtain ⟨ws₃, hws₃, hpayload⟩ := exists_trimEnd_append_blank payload
  generalize trimEnd payload = trimmed at hpayload ⊢
  subst hpayload
  refine ⟨_, ⟨pre, rest, ?_⟩, .primary hws₁ hws₂ hws₃ hs hradix hcount⟩
  simp [primaryText]

/-- The parenthesis that opens the table is the only one in the numbers. -/
theorem exists_primaryNumbersText_eq_append {s : NumberSpacing} {radix count : Text} (hs : s.Blank)
    (hradix : DigitRun radix) (hcount : DigitRun count) :
    ∃ front, '(' ∉ front ∧ primaryNumbersText s radix count = front ++ ['('] := by
  have hblank {ws : Text} (hws : Blank ws) : '(' ∉ ws := notMem_of_blank (by decide) hws
  have hdigits {ds : Text} (hds : DigitRun ds) : '(' ∉ ds := notMem_of_digitRun (by decide) hds
  refine ⟨_, ?_, rfl⟩
  simp [hblank hs.beforeRadix, hblank hs.afterRadix, hblank hs.beforeCount, hblank hs.afterCount,
    hblank hs.beforeTable, hdigits hradix, hdigits hcount]

/-- What starts with a comma behind an opening lies behind all of it. -/
theorem suffix_of_opening? {t rest s : Text} (h : opening? t = some rest) (hs : s <:+ t)
    (hcomma : s.head? = some ',') : s <:+ rest := by
  obtain ⟨ws₁, ws₂, hws₁, hws₂, rfl⟩ := eq_append_of_opening? h
  refine suffix_of_suffix_append (w := '}' :: (ws₁ ++ '(' :: ws₂)) ?_ hcomma ?_
  · simpa using hs
  · simp [notMem_of_blank (by decide : Unicode.isSpace ',' = false) hws₁,
      notMem_of_blank (by decide : Unicode.isSpace ',' = false) hws₂]

/-- Of two places with the numbers of a primary call, the one further on ends further on. -/
theorem suffix_of_primaryNumbers? {s : NumberSpacing} {radix count radix' count' t rest rest' : Text}
    (hs : s.Blank) (hradix : DigitRun radix) (hcount : DigitRun count)
    (h : primaryNumbers? t = some (radix', count', rest'))
    (hsuffix : primaryNumbersText s radix count ++ rest <:+ t) : rest <:+ rest' := by
  obtain ⟨s', hs', hradix', hcount', rfl⟩ := eq_append_of_primaryNumbers? h
  obtain ⟨front, -, hfront⟩ := exists_primaryNumbersText_eq_append hs hradix hcount
  obtain ⟨front', hparen', hfront'⟩ := exists_primaryNumbersText_eq_append hs' hradix' hcount'
  rw [hfront, hfront', List.append_assoc, List.append_assoc] at hsuffix
  refine suffix_of_append_suffix_append (l := ['(']) ?_
  exact suffix_of_suffix_append ((List.suffix_append front _).trans hsuffix) rfl hparen'

/-- Where a text holds a primary call, one is read. -/
theorem primary?_isSome_of_holds {t : Text} {f : Fields} (h : Holds .primary t f) :
    (primary? t).isSome := by
  obtain ⟨_, ⟨before, behind, rfl⟩, hcall⟩ := h
  cases hcall with
  | @primary ws₁ ws₂ ws₃ s _ hws₁ hws₂ hws₃ hs hradix hcount =>
    -- `behindNumbers` is what the last two cuts need, `inside` what the second one needs
    generalize hbehindNumbers :
      f.table ++ (").split(".toList ++ (f.delimiter ++ ([')'] ++ behind))) = behindNumbers
    generalize hinside : ws₂ ++ (f.payload ++ (ws₃ ++
      (primaryNumbersText s f.radix f.count ++ behindNumbers))) = inside
    have htext : before ++ primaryText ws₁ ws₂ ws₃ s f ++ behind
        = before ++ '}' :: (ws₁ ++ '(' :: inside) := by
      simp [← hinside, ← hbehindNumbers, primaryText]
    rw [htext]
    obtain ⟨_, call, t₁, hcut₁, -, hopening, hcall⟩ :=
      cutFirst_of_suffix (opening?_append (t := inside) hws₁) (List.suffix_append before _)
    have hnumbers : primaryNumbersText s f.radix f.count ++ behindNumbers <:+ t₁ := by
      refine suffix_of_opening? hopening (List.IsSuffix.trans ?_ hcall) rfl
      exact ⟨'}' :: (ws₁ ++ '(' :: (ws₂ ++ (f.payload ++ ws₃))), by simp [← hinside]⟩
    obtain ⟨_, numbers, ⟨_, _, t₂⟩, hcut₂, -, hread, hsuffix⟩ :=
      cutFirst_of_suffix (primaryNumbers?_append hs hradix hcount _) hnumbers
    have htable := suffix_of_primaryNumbers? hs hradix hcount hread hsuffix
    rw [← hbehindNumbers] at htable
    obtain ⟨_, split, t₃, hcut₃, -, hsplit, hsuffix'⟩ :=
      cutFirst_of_suffix (after?_append _ _) ((List.suffix_append f.table _).trans htable)
    have hdelimiter : f.delimiter ++ ([')'] ++ behind) <:+ t₃ := by
      rw [after?_eq_some_iff.mp hsplit] at hsuffix'
      exact suffix_of_append_suffix_append hsuffix'
    obtain ⟨_, _, t₄, hcut₄, -⟩ :=
      cutFirst_of_suffix (after?_append [')'] behind)
        ((List.suffix_append f.delimiter _).trans hdelimiter)
    simp only [primary?, hcut₁, hcut₂, hcut₃, hcut₄, Option.bind_eq_bind, Option.bind_some,
      Option.isSome_some]

/-! ## The legacy shape -/

/-- What is read as a legacy call is one. -/
theorem holds_of_legacy? {t : Text} {f : Fields} (h : legacy? t = some f) : Holds .legacy t f := by
  simp only [legacy?, Option.bind_eq_bind, Option.bind_eq_some_iff, Prod.exists,
    Option.some.injEq] at h
  obtain ⟨pre, t₁, h₁, t₂, behind, h₂, call, rest, h₃, payload, radix, count, table, h₄, delimiter,
    behind', h₅, rfl⟩ := h
  obtain rfl := eq_append_of_cutFirst_after? h₁
  obtain rfl := eq_append_of_cutLast_after? h₂
  obtain rfl := eq_append_of_cutLast_after? h₃
  obtain ⟨numbers, rfl, hnumbers⟩ := exists_of_cutLast h₄
  obtain ⟨sp₁, sp₂, sp₃, hsp₁, hsp₂, hsp₃, hradix, hcount, rfl⟩ :=
    eq_append_of_legacyNumbers? hnumbers
  have hend := eq_append_of_cutFirst_after? h₅
  refine ⟨_, ⟨pre, behind' ++ behind, ?_⟩, .legacy hsp₁ hsp₂ hsp₃ hradix hcount⟩
  have hend' : rest ++ (legacyEnd ++ behind)
      = delimiter ++ (legacyEnd ++ (behind' ++ behind)) := by
    rw [← List.append_assoc, hend]
    simp
  simp only [legacyText, List.append_assoc, hend']

/-- Where a text holds a legacy call, one is read. -/
theorem legacy?_isSome_of_holds {t : Text} {f : Fields} (h : Holds .legacy t f) :
    (legacy? t).isSome := by
  obtain ⟨_, ⟨before, behind, rfl⟩, hcall⟩ := h
  cases hcall with
  | @legacy sp₁ sp₂ sp₃ _ hsp₁ hsp₂ hsp₃ hradix hcount =>
    generalize hinside : f.payload ++ (legacyNumbersText sp₁ sp₂ sp₃ f.radix f.count ++ (f.table ++
      ("'.split('".toList ++ (f.delimiter ++ (legacyEnd ++ behind))))) = inside
    have htext : before ++ legacyText sp₁ sp₂ sp₃ f ++ behind
        = before ++ (['}', '(', '\''] ++ inside) := by
      simp [← hinside, legacyText]
    rw [htext]
    obtain ⟨_, opening, t₁, hcut₁, -, hopening, hsuffix⟩ :=
      cutFirst_of_suffix (after?_append ['}', '(', '\''] inside) (List.suffix_append before _)
    rw [after?_eq_some_iff.mp hopening] at hsuffix
    obtain ⟨x, hx⟩ := suffix_of_append_suffix_append hsuffix
    -- the parts of the call before each of the last cuts; they stay before the cut
    generalize hnumbers : x ++ f.payload = beforeNumbers
    obtain ⟨t₂, _, hcut₂, y, rfl⟩ := cutLast_of_recognised (after?_append legacyEnd behind)
      (beforeNumbers ++ (legacyNumbersText sp₁ sp₂ sp₃ f.radix f.count ++ (f.table ++
        ("'.split('".toList ++ f.delimiter))))
    obtain ⟨call, rest, hcut₃, z, rfl⟩ :=
      cutLast_of_recognised (after?_append "'.split('".toList (f.delimiter ++ y))
        (beforeNumbers ++ (legacyNumbersText sp₁ sp₂ sp₃ f.radix f.count ++ f.table))
    obtain ⟨_, _, hcut₄, -⟩ := cutLast_of_recognised
      (legacyNumbers?_append hsp₁ hsp₂ hsp₃ hradix hcount (f.table ++ z)) beforeNumbers
    obtain ⟨_, _, _, hcut₅, -⟩ :=
      cutFirst_of_suffix (after?_append legacyEnd []) (List.suffix_append rest _)
    have ht₁ : t₁ = beforeNumbers ++ (legacyNumbersText sp₁ sp₂ sp₃ f.radix f.count ++ (f.table ++
        ("'.split('".toList ++ f.delimiter))) ++ (legacyEnd ++ behind) := by
      simp [← hx, ← hinside, ← hnumbers]
    rw [List.append_nil] at hcut₅
    simp only [List.append_assoc] at hcut₂ hcut₃ hcut₄ ht₁
    simp only [legacy?, hcut₁, ht₁, hcut₂, hcut₃, hcut₄, hcut₅, Option.bind_eq_bind,
      Option.bind_some, Option.isSome_some]

end PackedScript.CallSite

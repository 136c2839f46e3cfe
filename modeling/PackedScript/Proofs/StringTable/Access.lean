import PackedScript.Proofs.Numeral.Written
import PackedScript.Proofs.Payload.Template
import PackedScript.Proofs.Text.Class
import PackedScript.Proofs.Text.Substitute
import PackedScript.StringTable

/-!
# Accesses to the entries of a table

`accessText name i` is the access to entry `i` of the table `name`, and these are the texts that are
read as accesses (`access?_eq_some_iff`). The name of a table holds no bracket, so an access has one
opening bracket and one closing bracket, and no two accesses overlap. What stands in front of an
access is therefore read as it is on its own (`access?_append`), and each access of a script is
replaced on its own (`substitute_append_accessText`, `substitute_fill`).
-/

namespace PackedScript.StringTable

open Text Numeral

/-- The name of a table: an underscore and then one or more word characters. -/
def TableName (name : Text) : Prop :=
  ∃ w, name = '_' :: w ∧ w ≠ [] ∧ ∀ c ∈ w, Unicode.isWord c = true

/-- The access to entry `i` of the table `name`. -/
def accessText (name : Text) (i : Nat) : Text := name ++ '[' :: (written 10 i ++ [']'])

theorem accessText_append (name : Text) (i : Nat) (rest : Text) :
    accessText name i ++ rest = name ++ '[' :: (written 10 i ++ ']' :: rest) := by
  simp [accessText]

/-- The entry of an index, counted from zero. An index of more than 64 bits names none. -/
def stringAt? (strings : List Text) (i : Nat) : Option Text :=
  if i < sizeLimit then strings[i]? else none

/-- What the access to entry `i` becomes: the entry in double quotes, or, where there is none, the
access itself. -/
def inlinedText (name : Text) (strings : List Text) (i : Nat) : Text :=
  match stringAt? strings i with
  | some s => '"' :: s ++ ['"']
  | none => accessText name i

theorem TableName.notMem {name : Text} (hname : TableName name) {c : Char}
    (hc : Unicode.isWord c = false) : c ∉ name := by
  obtain ⟨w, rfl, -, hw⟩ := hname
  intro hmem
  rcases List.mem_cons.mp hmem with rfl | hmem
  · exact absurd hc (by decide)
  · rw [hw c hmem] at hc
    cases hc

/-! ## Reading -/

/-- The index of an access is a decimal numeral, and no digit follows it. -/
theorem index?_eq_some_iff {t index rest : Text} : index? t = some (index, rest) ↔
    (∃ i, index = written 10 i) ∧ t = index ++ rest ∧ StopsAt Char.isDigit rest := by
  rw [exists_eq_written_ten_iff]
  constructor
  · intro h
    have ht : t.takeWhile Char.isDigit ++ t.dropWhile Char.isDigit = t :=
      List.takeWhile_append_dropWhile
    have hdigits : ∀ c ∈ t.takeWhile Char.isDigit, c.isDigit = true :=
      fun c hc => List.mem_takeWhile_imp hc
    have hstop := stopsAt_dropWhile Char.isDigit t
    unfold index? at h
    split at h
    · next hzero =>
      obtain ⟨rfl, rfl⟩ := Prod.mk.inj (Option.some.inj h)
      rw [hzero] at ht
      exact ⟨.inl rfl, ht.symm, hstop⟩
    · next c ds _ hcons =>
      split at h
      · cases h
      · next hc =>
        obtain ⟨rfl, rfl⟩ := Prod.mk.inj (Option.some.inj h)
        rw [hcons] at ht hdigits
        exact ⟨.inr ⟨by simp, hdigits, by simpa using hc⟩, ht.symm, hstop⟩
    · cases h
  · intro h
    obtain ⟨hindex, rfl, hstop⟩ := h
    have hdigits : ∀ c ∈ index, c.isDigit = true := by
      rcases hindex with rfl | ⟨-, hdigits, -⟩
      · simp
      · exact hdigits
    unfold index?
    rw [takeWhile_append_of_stopsAt hdigits hstop, dropWhile_append_of_stopsAt hdigits hstop]
    rcases hindex with rfl | ⟨hne, -, hhead⟩
    · rfl
    · obtain ⟨c, ds, rfl⟩ := List.exists_cons_of_ne_nil hne
      have hc : c ≠ '0' := by simpa using hhead
      split
      · next heq => exact absurd (List.cons.inj heq).1 hc
      · next heq =>
        obtain ⟨rfl, rfl⟩ := List.cons.inj heq
        rw [if_neg hc]
      · next heq => cases heq

/-- What is read as an access is one. -/
theorem access?_eq_some_iff {name t index : Text} : access? name t = some index ↔
    ∃ i, index = written 10 i ∧ accessText name i <+: t := by
  simp only [access?, Option.bind_eq_bind, Option.bind_eq_some_iff, after?_eq_some_iff, Prod.exists,
    index?_eq_some_iff, Option.some.injEq]
  constructor
  · intro h
    obtain ⟨_, rfl, _, rfl, _, _, ⟨⟨i, rfl⟩, rfl, -⟩, rest, rfl, rfl⟩ := h
    exact ⟨i, rfl, rest, accessText_append name i rest⟩
  · intro h
    obtain ⟨i, rfl, rest, rfl⟩ := h
    have hstop : StopsAt Char.isDigit (']' :: rest) := .cons (by decide) rest
    exact ⟨_, accessText_append name i rest, _, rfl, _, _, ⟨⟨i, rfl⟩, rfl, hstop⟩, rest, rfl, rfl⟩

section

variable {name : Text} (hname : TableName name)

include hname

/-- An access that begins in front of another one ends there. -/
theorem accessText_prefix_append_iff {t : Text} (ht : t ≠ []) (i j : Nat) (rest : Text) :
    accessText name j <+: t ++ (accessText name i ++ rest) ↔ accessText name j <+: t := by
  refine prefix_append_iff fun v hsplit hv hprefix => ht ?_
  have hclose : ']' ∉ name ++ ['['] := by
    simp [hname.notMem (by decide : Unicode.isWord ']' = false)]
  have hmem : ']' ∈ v := by
    have hlast : (accessText name j).getLast? = some ']' := by
      rw [accessText, ← List.cons_append, ← List.append_assoc, List.getLast?_concat]
    rw [hsplit, List.getLast?_append_of_ne_nil t hv] at hlast
    exact List.mem_of_getLast? hlast
  -- what reaches into the other access has its bracket too
  have hopen : name ++ ['['] <+: accessText name i ++ rest := by
    rw [accessText_append, List.prefix_append_right_inj]
    exact ⟨_, rfl⟩
  rcases List.prefix_or_prefix_of_prefix hprefix hopen with hinside | ⟨more, rfl⟩
  · exact absurd (hinside.subset hmem) hclose
  · have hbracket : '[' ∉ name := hname.notMem (by decide)
    have hbehind : '[' ∉ written 10 j ++ [']'] := by
      simp [notMem_written_ten (by decide : Char.isDigit '[' = false)]
    have heq : name ++ '[' :: (written 10 j ++ [']']) = (t ++ name) ++ '[' :: more := by
      rw [← accessText, hsplit]
      simp
    have hnames := ((List.append_cons_inj_of_notMem hbracket hbehind).mp heq).1
    exact List.self_eq_append_left.mp hnames

/-- In front of an access, a text is read as it is on its own. -/
theorem access?_append {t : Text} (ht : t ≠ []) (i : Nat) (rest : Text) :
    access? name (t ++ (accessText name i ++ rest)) = access? name t := by
  ext index
  rw [access?_eq_some_iff, access?_eq_some_iff]
  simp only [accessText_prefix_append_iff hname ht]

end

/-! ## Replacing -/

section

variable {name : Text} {strings : List Text}

theorem inlined?_written (i : Nat) :
    inlined? strings.toArray (written 10 i) = (stringAt? strings i).map fun s => '"' :: s ++ ['"'] := by
  rw [inlined?, decimal?_written (by decide), stringAt?]
  split
  · simp only [Option.bind_eq_bind, Option.bind_some, List.getElem?_toArray]
    cases strings[i]? <;> rfl
  · rfl

/-- The rule answers at the accesses, with what they become. -/
theorem inlineAccess_eq_some_iff {t new : Text} {count : Nat} :
    inlineAccess name strings.toArray t = some (new, count) ↔
      ∃ i, accessText name i <+: t ∧ new = inlinedText name strings i ∧
        count = (accessText name i).length := by
  have hanswer (i : Nat) : (inlined? strings.toArray (written 10 i)).getD (accessText name i)
      = inlinedText name strings i := by
    rw [inlined?_written, inlinedText]
    cases stringAt? strings i <;> rfl
  have htext (i : Nat) : name ++ '[' :: written 10 i ++ [']'] = accessText name i := by
    simp [accessText]
  simp only [inlineAccess, Option.bind_eq_bind, Option.bind_eq_some_iff, access?_eq_some_iff,
    Option.some.injEq, Prod.mk.injEq]
  constructor
  · intro h
    obtain ⟨_, ⟨i, rfl, hstarts⟩, rfl, rfl⟩ := h
    exact ⟨i, hstarts, by rw [htext, hanswer], by rw [htext]⟩
  · intro h
    obtain ⟨i, hstarts, rfl, rfl⟩ := h
    exact ⟨_, ⟨i, rfl, hstarts⟩, by rw [htext, hanswer], by rw [htext]⟩

/-- A script in which the name with a bracket does not stand is kept. -/
theorem substitute_eq_self_of_no_access {t : Text} (h : ¬name ++ ['['] <:+: t) :
    substitute (inlineAccess name strings.toArray) t = t := by
  refine substitute_eq_self fun pre post hsplit _ => ?_
  rw [Option.eq_none_iff_forall_ne_some]
  rintro ⟨new, count⟩ hrule
  obtain ⟨i, ⟨rest, hrest⟩, -⟩ := inlineAccess_eq_some_iff.mp hrule
  refine h ⟨pre, written 10 i ++ [']'] ++ rest, ?_⟩
  rw [hsplit, ← hrest]
  simp [accessText]

/-- An access is replaced by what it becomes, and what is in front of it and what is behind it are
rewritten on their own. -/
theorem substitute_append_accessText (hname : TableName name) (a b : Text) (i : Nat) :
    substitute (inlineAccess name strings.toArray) (a ++ (accessText name i ++ b))
      = substitute (inlineAccess name strings.toArray) a ++ (inlinedText name strings i
        ++ substitute (inlineAccess name strings.toArray) b) := by
  have hne : accessText name i ≠ [] := by simp [accessText]
  have hanswer : inlineAccess name strings.toArray (accessText name i ++ b)
      = some (inlinedText name strings i, (accessText name i).length) :=
    inlineAccess_eq_some_iff.mpr ⟨i, List.prefix_append _ _, rfl, rfl⟩
  rw [← substitute_append_of_answer hne hanswer]
  refine substitute_append (fun front t _ ht => ?_) (fun t new count hrule => ?_)
  · rw [inlineAccess, access?_append hname ht, ← inlineAccess]
  · obtain ⟨j, hstarts, -, rfl⟩ := inlineAccess_eq_some_iff.mp hrule
    exact hstarts.length_le

/-- In a template whose gaps do not hold the name with a bracket, each access is replaced by what it
becomes, and the gaps are kept. -/
theorem substitute_fill (hname : TableName name) {template : Payload.Template}
    (hfront : ¬name ++ ['['] <:+: template.front)
    (hgaps : ∀ place ∈ template.places, ¬name ++ ['['] <:+: place.2) :
    substitute (inlineAccess name strings.toArray) (template.fill (accessText name))
      = template.fill (inlinedText name strings) := by
  obtain ⟨front, places⟩ := template
  induction places generalizing front with
  | nil =>
    rw [Payload.Template.fill_nil, Payload.Template.fill_nil]
    exact substitute_eq_self_of_no_access hfront
  | cons place places ih =>
    obtain ⟨i, gap⟩ := place
    obtain ⟨hgap, hgaps⟩ := List.forall_mem_cons.mp hgaps
    rw [Payload.Template.fill_cons, Payload.Template.fill_cons,
      substitute_append_accessText hname, substitute_eq_self_of_no_access hfront, ih gap hgap hgaps]

/-! ## What changes -/

theorem count_quote_accessText (hname : TableName name) (i : Nat) :
    (accessText name i).count '"' = 0 := by
  refine List.count_eq_zero.mpr ?_
  simp [accessText, hname.notMem (by decide +kernel : Unicode.isWord '"' = false),
    notMem_written_ten (by decide : Char.isDigit '"' = false)]

/-- Replacing accesses takes no double quote away. -/
theorem count_quote_le_count_substitute (hname : TableName name) (t : Text) :
    t.count '"' ≤ (substitute (inlineAccess name strings.toArray) t).count '"' := by
  refine count_le_count_substitute (fun t new count hrule => ?_) t
  obtain ⟨i, ⟨rest, rfl⟩, -, rfl⟩ := inlineAccess_eq_some_iff.mp hrule
  rw [List.take_left, count_quote_accessText hname]
  exact ⟨List.length_pos_iff.mpr (by simp [accessText]), Nat.zero_le _⟩

/-- Replacing accesses changes a script exactly when an access to some entry stands in it, wherever
that is. -/
theorem substitute_eq_self_iff (hname : TableName name) (t : Text) :
    substitute (inlineAccess name strings.toArray) t = t ↔
      ∀ i, (stringAt? strings i).isSome → ¬accessText name i <:+: t := by
  constructor
  · intro h i hstring hstands
    obtain ⟨s, hs⟩ := Option.isSome_iff_exists.mp hstring
    obtain ⟨a, b, rfl⟩ := hstands
    -- the entry brings its quotes with it
    have hcount := congrArg (List.count '"') h
    rw [List.append_assoc, substitute_append_accessText hname, inlinedText, hs] at hcount
    have ha := @count_quote_le_count_substitute name strings hname a
    have hb := @count_quote_le_count_substitute name strings hname b
    simp only [List.count_append, List.cons_append, List.count_cons_self,
      count_quote_accessText hname] at hcount
    omega
  · intro h
    refine substitute_eq_self_of_kept fun pre post new count hsplit hrule => ?_
    obtain ⟨i, ⟨rest, rfl⟩, rfl, rfl⟩ := inlineAccess_eq_some_iff.mp hrule
    have hnone : stringAt? strings i = none := by
      by_contra hsome
      refine h i (Option.isSome_iff_ne_none.mpr hsome) ?_
      exact ⟨pre, rest, by rw [hsplit, List.append_assoc]⟩
    rw [inlinedText, hnone, List.take_left]
    exact ⟨List.length_pos_iff.mpr (by simp [accessText]), rfl⟩

end

end PackedScript.StringTable

import Mathlib.Data.List.Infix
import PackedScript.Proofs.StringTable.Access
import PackedScript.Proofs.Text.Split

/-!
# Declarations of tables

`declarationText` writes the declaration of a table with any name, any spaces and any entries. The
first declaration of a script is the first text that opens one (`header?_eq_some_iff`) with what
follows up to the first closing behind it. A quote and a comma stand between the entries, so an
entry that starts with the rest of a closing makes one with the quote in front of it. That is the
only way to end a table too early: the declaration is read as it is written exactly when no entry
but the first one starts so (`endsFirst_entriesText_iff`).
-/

namespace PackedScript.StringTable

open Text

/-- How a declaration opens, up to the quote before its first entry. -/
def openingText (sp name : Text) : Text := "var".toList ++ sp ++ name ++ "=[\"".toList

/-- How a declaration closes, from the quote behind its last entry on. -/
def closing : Text := "\"];".toList

/-- The entries with the quotes and the commas between them. -/
def entriesText (strings : List Text) : Text := "\",\"".toList.intercalate strings

/-- The declaration of a table. -/
def declarationText (sp name : Text) (strings : List Text) : Text :=
  openingText sp name ++ (entriesText strings ++ closing)

/-- A declaration opens at the front of a text. -/
def Opens (t : Text) : Prop := ∃ sp name, Spaces sp ∧ TableName name ∧ openingText sp name <+: t

/-- No declaration opens in a text that is read with another one behind it. -/
def NoneOpens (before t : Text) : Prop :=
  ∀ front mid, before = front ++ mid → mid ≠ [] → ¬Opens (mid ++ t)

/-- A declaration stands somewhere in a text. -/
def Declares (t : Text) : Prop :=
  ∃ sp name entries, Spaces sp ∧ TableName name ∧ openingText sp name ++ (entries ++ closing) <:+: t

/-! ## Openings -/

theorem name?_eq_some_iff {t name rest : Text} : name? t = some (name, rest) ↔
    TableName name ∧ t = name ++ rest ∧ StopsAt Unicode.isWord rest := by
  constructor
  · intro h
    unfold name? at h
    split at h
    · next behind =>
      split at h
      · cases h
      · next hne =>
        obtain ⟨rfl, rfl⟩ := Prod.mk.inj (Option.some.inj h)
        refine ⟨⟨_, rfl, hne, fun c hc => List.mem_takeWhile_imp hc⟩, ?_, stopsAt_dropWhile _ _⟩
        rw [List.cons_append, List.takeWhile_append_dropWhile]
    · cases h
  · intro h
    obtain ⟨⟨w, rfl, hne, hw⟩, rfl, hstop⟩ := h
    rw [List.cons_append, name?, takeWhile_append_of_stopsAt hw hstop,
      dropWhile_append_of_stopsAt hw hstop]
    cases w with
    | nil => exact absurd rfl hne
    | cons c w => rfl

/-- What is read as an opening is one. -/
theorem header?_eq_some_iff {t name rest : Text} : header? t = some (name, rest) ↔
    TableName name ∧ ∃ sp, Spaces sp ∧ t = openingText sp name ++ rest := by
  unfold header?
  simp only [Option.bind_eq_bind, Option.bind_eq_some_iff, after?_eq_some_iff, Prod.exists,
    name?_eq_some_iff, Option.some.injEq, Prod.mk.injEq]
  constructor
  · intro h
    obtain ⟨behind, rfl, name', _, ⟨hname, heq, -⟩, rest', rfl, rfl, rfl⟩ := h
    obtain ⟨sp, hsp, hbehind⟩ := exists_spaces_append_skipSpaces behind
    refine ⟨hname, sp, hsp, ?_⟩
    rw [hbehind, heq]
    simp only [openingText, List.append_assoc]
  · intro h
    obtain ⟨hname, sp, hsp, rfl⟩ := h
    have hstop : StopsAt (· == ' ') (name ++ ("=[\"".toList ++ rest)) := by
      obtain ⟨w, rfl, -⟩ := hname
      exact .cons (by decide) _
    refine ⟨sp ++ (name ++ ("=[\"".toList ++ rest)), ?_, name, _,
      ⟨hname, skipSpaces_append_of_stopsAt hsp hstop, ?_⟩, rest, rfl, rfl, rfl⟩
    · simp only [openingText, List.append_assoc]
    · exact .cons (by decide +kernel) _

theorem header?_eq_none_iff {t : Text} : header? t = none ↔ ¬Opens t := by
  rw [Option.eq_none_iff_forall_ne_some]
  constructor
  · intro h hopens
    obtain ⟨sp, name, hsp, hname, rest, rfl⟩ := hopens
    exact h (name, rest) (header?_eq_some_iff.mpr ⟨hname, sp, hsp, rfl⟩)
  · rintro h ⟨name, rest⟩ hfound
    obtain ⟨hname, sp, hsp, rfl⟩ := header?_eq_some_iff.mp hfound
    exact h ⟨sp, name, hsp, hname, List.prefix_append _ _⟩

instance (name : Text) : Decidable (TableName name) :=
  decidable_of_iff (name? name = some (name, [])) <| by
    simp [name?_eq_some_iff, StopsAt]

instance (before t : Text) : Decidable (NoneOpens before t) :=
  decidable_of_iff
    (before.tails.all (fun mid => mid.isEmpty || (header? (mid ++ t)).isNone) = true) <| by
    simp only [List.all_eq_true, List.mem_tails, Bool.or_eq_true, List.isEmpty_iff,
      Option.isNone_iff_eq_none, header?_eq_none_iff]
    constructor
    · intro h front mid hsplit
      exact (h mid ⟨front, hsplit.symm⟩).resolve_left
    · rintro h mid ⟨front, hsplit⟩
      exact or_iff_not_imp_left.mpr (h front mid hsplit.symm)

theorem noneOpens_nil (t : Text) : NoneOpens [] t := by
  intro front mid hsplit hmid
  exact absurd (List.append_eq_nil_iff.mp hsplit.symm).2 hmid

/-! ## The first declaration -/

/-- The first declaration is the first one that opens, with the first closing behind it. -/
theorem declaration?_append {before sp name : Text} (hsp : Spaces sp) (hname : TableName name)
    (t : Text) (hfirst : NoneOpens before (openingText sp name ++ t)) :
    declaration? (before ++ (openingText sp name ++ t))
      = (cutFirst (after? closing) t).map fun cut => ⟨name, cut.1, cut.2⟩ := by
  have hcut : cutFirst header? (before ++ (openingText sp name ++ t)) = some (before, name, t) :=
    cutFirst_eq_some_iff.mpr ⟨_, rfl, header?_eq_some_iff.mpr ⟨hname, sp, hsp, rfl⟩,
      fun front mid hsplit hmid => header?_eq_none_iff.mpr (hfirst front mid hsplit hmid)⟩
  rw [declaration?, hcut]
  simp only [Option.bind_eq_bind, Option.bind_some]
  rw [← closing]
  cases cutFirst (after? closing) t <;> rfl

/-- Where no declaration stands, none is read. -/
theorem declaration?_eq_none {t : Text} (h : ¬Declares t) : declaration? t = none := by
  rw [Option.eq_none_iff_forall_ne_some]
  intro d hd
  unfold declaration? at hd
  simp only [Option.bind_eq_bind, Option.bind_eq_some_iff, Prod.exists] at hd
  obtain ⟨before, name, behind, hopening, entries, rest, hclosing, -⟩ := hd
  obtain ⟨post, rfl, hpost⟩ := exists_of_cutFirst hopening
  obtain ⟨hname, sp, hsp, rfl⟩ := header?_eq_some_iff.mp hpost
  obtain rfl := eq_append_of_cutFirst_after? hclosing
  exact h ⟨sp, name, entries, hsp, hname, before, rest, by simp [closing]⟩

/-! ## Closings -/

/-- The table ends at the first closing: behind its entries, or further in front, and then a quote
is left of it. -/
theorem exists_cutFirst_closing (entries rest : Text) :
    ∃ pre mid, cutFirst (after? closing) (entries ++ (closing ++ rest)) = some (pre, mid ++ rest) ∧
      (mid = [] ∧ pre = entries ∨ '"' ∈ mid) := by
  obtain ⟨pre, post, rest', hcut, hlist, hpost, hsuffix⟩ :=
    cutFirst_of_suffix (after?_append closing rest) (List.suffix_append entries _)
  obtain rfl := after?_eq_some_iff.mp hpost
  obtain ⟨mid, rfl⟩ := suffix_of_append_suffix_append hsuffix
  refine ⟨pre, mid, hcut, ?_⟩
  rw [← List.append_assoc] at hsuffix
  have hclosing : closing <:+ '"' :: ("];".toList ++ mid) := List.suffix_append_self_iff.mp hsuffix
  rcases List.suffix_cons_iff.mp hclosing with heq | htail
  · left
    have hmid : mid = [] := by simpa [closing] using heq
    rw [hmid, List.nil_append] at hlist
    exact ⟨hmid, (List.append_cancel_right hlist).symm⟩
  · right
    have hbehind : closing <:+ mid := suffix_of_suffix_append htail rfl (by decide)
    exact hbehind.subset List.mem_cons_self

theorem entriesText_cons_cons (s next : Text) (strings : List Text) :
    entriesText (s :: next :: strings) = s ++ '"' :: ',' :: '"' :: entriesText (next :: strings) := by
  simp [entriesText]

/-- Behind the first entry stands a quote. -/
theorem exists_entriesText_append (s : Text) (strings : List Text) :
    ∃ more, entriesText (s :: strings) ++ closing = s ++ '"' :: more := by
  cases strings with
  | nil => exact ⟨_, by simp [entriesText, closing]; rfl⟩
  | cons next strings =>
    rw [entriesText_cons_cons]
    exact ⟨_, by rw [List.append_assoc]; rfl⟩

theorem closing_eq : closing = '"' :: "];".toList := by decide

/-- A closing in two entries or more is one in the entries behind the first, or the second entry
makes it with the quote in front of it. -/
theorem endsFirst_entriesText_cons_iff {s next : Text} {strings : List Text} (hs : '"' ∉ s) :
    EndsFirst closing (entriesText (s :: next :: strings)) ↔
      ¬"];".toList <+: next ∧ EndsFirst closing (entriesText (next :: strings)) := by
  have hstarts : "];".toList <+: entriesText (next :: strings) ++ closing ↔ "];".toList <+: next := by
    obtain ⟨more, hmore⟩ := exists_entriesText_append next strings
    rw [hmore, prefix_append_cons_iff (by decide)]
  rw [endsFirst_iff, endsFirst_iff, entriesText_cons_cons]
  generalize entriesText (next :: strings) = entries at hstarts ⊢
  constructor
  · intro h
    constructor
    · intro hnext
      refine h (s ++ ['"', ',']) ('"' :: entries) (by simp) (by simp) ?_
      rw [closing_eq, List.cons_append, List.cons_prefix_cons]
      exact ⟨rfl, hstarts.mpr hnext⟩
    · intro front mid hsplit hmid
      exact h (s ++ '"' :: ',' :: '"' :: front) mid (by rw [hsplit]; simp) hmid
  · rintro ⟨hnext, h⟩ front mid hsplit hmid hclosing
    obtain ⟨c, mid, rfl⟩ := List.exists_cons_of_ne_nil hmid
    obtain ⟨rfl, hbehind⟩ := List.cons_prefix_cons.mp (closing_eq ▸ hclosing)
    -- the closing begins at a quote: at one of the two behind the first entry, or further on
    have hsuffix := suffix_of_suffix_append ⟨front, hsplit.symm⟩ rfl hs
    rcases List.suffix_cons_iff.mp hsuffix with heq | hsuffix
    · rw [(List.cons.inj heq).2] at hbehind
      exact absurd (List.cons_prefix_cons.mp hbehind).1 (by decide)
    rcases List.suffix_cons_iff.mp hsuffix with heq | hsuffix
    · exact absurd (List.cons.inj heq).1 (by decide)
    rcases List.suffix_cons_iff.mp hsuffix with heq | ⟨front', hfront'⟩
    · rw [(List.cons.inj heq).2] at hbehind
      exact hnext (hstarts.mp hbehind)
    · exact h front' _ hfront'.symm (by simp) hclosing

/-- The first closing is the one behind the entries exactly when no entry but the first one makes
an earlier one with the quote in front of it. -/
theorem endsFirst_entriesText_iff {strings : List Text} (hquote : ∀ s ∈ strings, '"' ∉ s) :
    EndsFirst closing (entriesText strings) ↔ ∀ s ∈ strings.tail, ¬"];".toList <+: s := by
  have hfirst {s : Text} (hs : '"' ∉ s) : EndsFirst closing s := by
    rw [closing_eq]
    exact endsFirst_of_notMem hs
  induction strings with
  | nil => simpa using hfirst (by simp [entriesText])
  | cons s strings ih =>
    obtain ⟨hs, hstrings⟩ := List.forall_mem_cons.mp hquote
    cases strings with
    | nil => simpa using hfirst (by simpa [entriesText] using hs)
    | cons next strings =>
      rw [endsFirst_entriesText_cons_iff hs, List.tail_cons, List.forall_mem_cons]
      exact and_congr_right fun _ => ih hstrings

end PackedScript.StringTable

import PackedScript.Proofs.Page.Flatten

/-!
# Flat texts

A text is flat when flattening leaves it as it is. Every step makes a text smaller or has nothing to
do, so these are the texts in which no step has anything to do and no space touches a colon
(`flatten_eq_self_iff`).

What comes out of the flattening is not always flat, for a step may bring about what an earlier one
was looking for. Three things are certain all the same. A single character that is taken out and
that no step puts in is gone for good. The steps from `&iuml;` on put in nothing that stands in what
one of them takes out, so none of that is left either. And no colon has a space beside it, since
this comes last. All other steps look for something with an ampersand or a backslash, which no step
puts in where there was none; so of a text without the two, the flattened form is flat
(`flatten_form`).
-/

namespace PackedScript.Page

open Text

/-! ## Spaces beside colons -/

/-- No space stands directly before or behind a colon. -/
structure Tight (t : Text) : Prop where
  before : ¬[' ', ':'] <:+: t
  behind : ¬[':', ' '] <:+: t

theorem pair_infix_cons_iff {a b c : Char} {t : Text} :
    [a, b] <:+: c :: t ↔ a = c ∧ t.head? = some b ∨ [a, b] <:+: t := by
  rw [List.infix_cons_iff, List.cons_prefix_cons]
  cases t with
  | nil => simp
  | cons d t => simp [List.cons_prefix_cons, eq_comm]

theorem tight_cons_iff {c : Char} {t : Text} :
    Tight (c :: t) ↔
      (c = ' ' → t.head? ≠ some ':') ∧ (c = ':' → t.head? ≠ some ' ') ∧ Tight t := by
  constructor
  · intro h
    obtain ⟨hbefore, hbehind⟩ := h
    rw [pair_infix_cons_iff, not_or, not_and] at hbefore hbehind
    exact ⟨fun hc => hbefore.1 hc.symm, fun hc => hbehind.1 hc.symm, hbefore.2, hbehind.2⟩
  · intro h
    obtain ⟨hspace, hcolon, hbefore, hbehind⟩ := h
    refine ⟨?_, ?_⟩
    · rw [pair_infix_cons_iff, not_or, not_and]
      exact ⟨fun hc => hspace hc.symm, hbefore⟩
    · rw [pair_infix_cons_iff, not_or, not_and]
      exact ⟨fun hc => hcolon hc.symm, hbehind⟩

theorem Tight.of_suffix {s t : Text} (ht : Tight t) (h : s <:+ t) : Tight s :=
  ⟨fun hs => ht.before (hs.trans h.isInfix), fun hs => ht.behind (hs.trans h.isInfix)⟩

/-- Spaces keep a text tight that does not start with a colon. -/
theorem tight_spaces_append {sp t : Text} (hsp : Spaces sp) (ht : Tight t)
    (hcolon : t.head? ≠ some ':') : Tight (sp ++ t) := by
  induction sp with
  | nil => exact ht
  | cons c sp ih =>
    have hrest : Spaces sp := fun d hd => hsp d (List.mem_cons_of_mem c hd)
    obtain rfl : c = ' ' := hsp c List.mem_cons_self
    refine tight_cons_iff.mpr ⟨fun _ => ?_, by simp, ih hrest⟩
    cases sp with
    | nil => exact hcolon
    | cons d sp =>
      obtain rfl : d = ' ' := hrest d List.mem_cons_self
      simp

/-- A text that does not start with a space keeps its first character when its colons are
tightened. -/
theorem head?_tightenColons {t : Text} (h : t.head? ≠ some ' ') :
    (tightenColons t).head? = t.head? := by
  cases t with
  | nil => rfl
  | cons c t =>
    rw [tightenColons, substitute_cons]
    cases hrule : tightColon (c :: t) with
    | none => rfl
    | some answer =>
      obtain ⟨new, count⟩ := answer
      rcases tightColon_cases hrule with
        ⟨sp, sp', rest, hsp, -, -, htext, rfl, -⟩ | ⟨rest, hsp, hne, -, htext, -⟩
      · cases sp with
        | nil => rw [htext]; rfl
        | cons d sp =>
          obtain rfl : d = ' ' := hsp d List.mem_cons_self
          exact absurd (by rw [htext]; rfl) h
      · obtain ⟨d, new, rfl⟩ := List.exists_cons_of_ne_nil hne
        obtain rfl : d = ' ' := hsp d List.mem_cons_self
        exact absurd (by rw [htext]; rfl) h

theorem tight_tightenColons (t : Text) : Tight (tightenColons t) := by
  refine substitute_induction (P := fun _ u => Tight u) ⟨by simp, by simp⟩ ?_ ?_ t
  · intro c t hrule ht
    have hc : Solid c := tightColon_eq_none_iff.mp hrule c rfl
    exact tight_cons_iff.mpr ⟨fun h => absurd h hc.1, fun h => absurd h hc.2, ht⟩
  · intro c t new count hrule ht
    rcases tightColon_cases hrule with
      ⟨sp, sp', rest, -, -, hstops, htext, rfl, rfl⟩ | ⟨rest, hsp, hne, hsolid, htext, rfl⟩
    · -- what the pass goes on with does not start with a space
      rw [drop_of_cons_eq_append (by simp) htext] at ht ⊢
      have hspace : rest.head? ≠ some ' ' := fun hhead => by
        simpa using hstops ' ' hhead
      refine tight_cons_iff.mpr ⟨by simp, fun _ => ?_, ht⟩
      show (tightenColons rest).head? ≠ some ' '
      rw [head?_tightenColons hspace]
      exact hspace
    · -- what the pass goes on with starts with neither a space nor a colon
      rw [drop_of_cons_eq_append hne htext] at ht ⊢
      have hspace : rest.head? ≠ some ' ' := fun hhead => (hsolid ' ' hhead).1 rfl
      refine tight_spaces_append hsp ht ?_
      show (tightenColons rest).head? ≠ some ':'
      rw [head?_tightenColons hspace]
      exact fun hhead => (hsolid ':' hhead).2 rfl

/-- Only a text with a space beside a colon is tightened. -/
theorem tightenColons_eq_self_iff {t : Text} : tightenColons t = t ↔ Tight t := by
  constructor
  · intro h
    rw [← h]
    exact tight_tightenColons t
  · intro ht
    refine substitute_eq_self_of_kept fun pre post new count hsplit hrule => ?_
    have hpost : Tight post := ht.of_suffix ⟨pre, hsplit.symm⟩
    rcases tightColon_cases hrule with
      ⟨sp, sp', rest, hsp, hsp', -, rfl, rfl, rfl⟩ | ⟨rest, -, hne, -, rfl, rfl⟩
    · have hnil : sp = [] := by
        cases List.eq_nil_or_concat sp with
        | inl hnil => exact hnil
        | inr hlast =>
          obtain ⟨front, c, rfl⟩ := hlast
          obtain rfl : c = ' ' := hsp c (by simp)
          exact absurd ⟨front, sp' ++ rest, by simp⟩ hpost.before
      have hnil' : sp' = [] := by
        cases sp' with
        | nil => rfl
        | cons c sp' =>
          obtain rfl : c = ' ' := hsp' c List.mem_cons_self
          exact absurd ⟨sp, sp' ++ rest, by simp⟩ hpost.behind
      subst hnil hnil'
      exact ⟨by simp, rfl⟩
    · exact ⟨List.length_pos_iff.mpr hne, by simp⟩

/-! ## Fixed points -/

/-- The flat texts are those in which no step has anything to do and no space touches a colon. -/
theorem flatten_eq_self_iff {t : Text} :
    flatten t = t ↔ (∀ step ∈ substitutions, ¬step.1 <:+: t) ∧ Tight t := by
  constructor
  · intro h
    obtain ⟨hsteps, hcolons⟩ := steps_of_flatten_eq_self h
    exact ⟨hsteps, tightenColons_eq_self_iff.mp hcolons⟩
  · intro h
    obtain ⟨hsteps, hcolons⟩ := h
    rw [flatten_eq, replaceEach_eq_self hsteps]
    exact tightenColons_eq_self_iff.mpr hcolons

/-! ## What steps leave -/

/-- A step that puts in something, and nothing that is part of `lit`. -/
def Foreign (lit : Text) (step : Text × Text) : Prop := step.2 ≠ [] ∧ ∀ c ∈ step.2, c ∉ lit

-- the instance for lists, as there is one that goes through all characters
instance (lit : Text) : DecidablePred (Foreign lit) := fun step =>
  @instDecidableAnd _ _ _ (List.decidableBAll (· ∉ lit) step.2)

section

variable {steps : List (Text × Text)} {lit t : Text} {c : Char}

theorem replaceEach_append (steps steps' : List (Text × Text)) (t : Text) :
    replaceEach (steps ++ steps') t = replaceEach steps' (replaceEach steps t) :=
  List.foldl_append

/-- What a list of steps brings about must come from a step that puts in a part of it. -/
theorem infix_of_infix_replaceEach (hsteps : ∀ step ∈ steps, Foreign lit step)
    (h : lit <:+: replaceEach steps t) : lit <:+: t := by
  induction steps generalizing t with
  | nil => exact h
  | cons step steps ih =>
    obtain ⟨hne, hnew⟩ := hsteps step List.mem_cons_self
    have hrest := ih (fun s hs => hsteps s (List.mem_cons_of_mem _ hs)) h
    exact infix_of_infix_replaceAll hne hnew hrest

theorem mem_of_mem_replaceEach (hsteps : ∀ step ∈ steps, c ∈ step.2 → c ∈ step.1)
    (h : c ∈ replaceEach steps t) : c ∈ t := by
  induction steps generalizing t with
  | nil => exact h
  | cons step steps ih =>
    have hrest := ih (fun s hs => hsteps s (List.mem_cons_of_mem _ hs)) h
    exact mem_of_mem_replaceAll (hsteps step List.mem_cons_self) hrest

/-- Steps that put in nothing of what one of them takes out leave nothing of that. -/
theorem not_infix_replaceEach (hmem : lit ∈ steps.map Prod.fst) (hne : lit ≠ [])
    (hsteps : ∀ step ∈ steps, Foreign lit step) :
    ¬lit <:+: replaceEach steps t := by
  obtain ⟨step, hstep, rfl⟩ := List.mem_map.mp hmem
  obtain ⟨earlier, later, rfl⟩ := List.append_of_mem hstep
  obtain ⟨hnew, hforeign⟩ := hsteps step hstep
  rw [replaceEach_append]
  intro h
  have hthere := infix_of_infix_replaceEach
    (fun s hs => hsteps s (List.mem_append_right _ (List.mem_cons_of_mem _ hs))) h
  exact not_infix_replaceAll hne hnew hforeign hthere

/-- A character that a step takes out and none puts in is gone. -/
theorem notMem_replaceEach (hmem : [c] ∈ steps.map Prod.fst)
    (hsteps : ∀ step ∈ steps, c ∉ step.2) : c ∉ replaceEach steps t := by
  obtain ⟨step, hstep, hold⟩ := List.mem_map.mp hmem
  obtain ⟨earlier, later, rfl⟩ := List.append_of_mem hstep
  rw [replaceEach_append]
  intro h
  have hthere : c ∈ replaceAll step.1 step.2 (replaceEach earlier t) :=
    mem_of_mem_replaceEach (fun s hs hc => absurd hc
      (hsteps s (List.mem_append_right _ (List.mem_cons_of_mem _ hs)))) h
  rw [hold] at hthere
  exact notMem_replaceAll_singleton (hsteps step hstep) hthere

end

section

variable {lit t : Text} {c : Char}

theorem mem_of_mem_tightenColons (h : c ∈ tightenColons t) : c ∈ t := by
  refine mem_of_mem_substitute (fun s new count hrule hc => ?_) h
  rcases tightColon_cases hrule with ⟨sp, sp', rest, -, -, -, rfl, rfl, -⟩ | ⟨rest, -, -, -, rfl, -⟩
  · obtain rfl : c = ':' := by simpa using hc
    simp
  · exact List.mem_append_left rest hc

/-- Something without spaces and colons is not brought about by tightening colons. -/
theorem infix_of_infix_tightenColons (hspace : ' ' ∉ lit) (hcolon : ':' ∉ lit)
    (h : lit <:+: tightenColons t) : lit <:+: t := by
  refine infix_of_infix_substitute (fun s new count hrule => ?_) h
  rcases tightColon_cases hrule with ⟨-, -, -, -, -, -, -, rfl, -⟩ | ⟨-, hsp, hne, -, -, -⟩
  · simpa using hcolon
  · refine ⟨hne, fun c hc => ?_⟩
    rw [hsp c hc]
    exact hspace

end

/-! ## The flattened form -/

/-- The characters that flattening takes out wherever they stand. -/
def removed : Text := ['\r', '\n', '\t', 'É', '–', '—']

/-- The character references that flattening undoes wherever they stand, and however they have come
about. -/
def removedReferences : List Text :=
  ["&iuml;".toList, "&#8220;".toList, "&#8221;".toList, "&#58;".toList]

theorem notMem_flatten_of_removed {c : Char} (hc : c ∈ removed) (t : Text) : c ∉ flatten t := by
  have hsteps : removed.all fun c => [c] ∈ substitutions.map Prod.fst ∧
      ∀ step ∈ substitutions, c ∉ step.2 := by decide +kernel
  obtain ⟨hstep, hnew⟩ := of_decide_eq_true (List.all_eq_true.mp hsteps c hc)
  intro h
  rw [flatten_eq] at h
  exact notMem_replaceEach hstep hnew (mem_of_mem_tightenColons h)

theorem not_infix_flatten_of_removed {lit : Text} (hlit : lit ∈ removedReferences) (t : Text) :
    ¬lit <:+: flatten t := by
  -- from this step on, nothing is put in that could be a part of one of the references
  have hlast : ∀ lit ∈ removedReferences, lit ≠ [] ∧ ' ' ∉ lit ∧ ':' ∉ lit ∧
      lit ∈ (substitutions.drop 34).map Prod.fst ∧
      ∀ step ∈ substitutions.drop 34, Foreign lit step := by decide +kernel
  obtain ⟨hne, hspace, hcolon, hstep, hforeign⟩ := hlast lit hlit
  intro h
  rw [flatten_eq, ← List.take_append_drop 34 substitutions, replaceEach_append] at h
  exact not_infix_replaceEach hstep hne hforeign (infix_of_infix_tightenColons hspace hcolon h)

/-- A text without ampersands and backslashes is flat once it has been flattened. -/
theorem flatten_flatten {t : Text} (hampersand : '&' ∉ t) (hbackslash : '\\' ∉ t) :
    flatten (flatten t) = flatten t := by
  -- neither character is put in but for itself, and without them only single characters are left
  have hput : ['&', '\\'].all fun c => ∀ step ∈ substitutions, c ∈ step.2 → c ∈ step.1 := by
    decide +kernel
  have hsingle : ∀ step ∈ substitutions,
      '&' ∈ step.1 ∨ '\\' ∈ step.1 ∨ step.1 ∈ removed.map ([·]) := by decide +kernel
  have hkept {c : Char} (hc : c ∈ ['&', '\\']) (h : c ∈ flatten t) : c ∈ t := by
    rw [flatten_eq] at h
    have hsteps := of_decide_eq_true (List.all_eq_true.mp hput c hc)
    exact mem_of_mem_replaceEach hsteps (mem_of_mem_tightenColons h)
  rw [flatten_eq_self_iff]
  refine ⟨fun step hstep h => ?_, tight_tightenColons _⟩
  rcases hsingle step hstep with hmem | hmem | hmem
  · exact hampersand (hkept (by simp) (h.subset hmem))
  · exact hbackslash (hkept (by simp) (h.subset hmem))
  · obtain ⟨c, hc, hold⟩ := List.mem_map.mp hmem
    rw [← hold] at h
    exact notMem_flatten_of_removed hc t (h.subset List.mem_cons_self)

/-- Flattening makes no text larger; it leaves exactly the texts as they are in which no step has
anything to do and no space touches a colon; whatever the text, what comes out has no line breaks,
tabs, dashes and the like, no reference that one of the last steps undoes, and no space beside a
colon; and flattening twice is flattening once, if the text has neither ampersands nor
backslashes. -/
theorem flatten_form (t : Text) :
    byteLength (flatten t) ≤ byteLength t ∧
    (flatten t = t ↔ (∀ step ∈ substitutions, ¬step.1 <:+: t) ∧ Tight t) ∧
    ((∀ c ∈ ['\r', '\n', '\t', 'É', '–', '—'], c ∉ flatten t) ∧
      (∀ lit ∈ ["&iuml;", "&#8220;", "&#8221;", "&#58;"], ¬lit.toList <:+: flatten t) ∧
      Tight (flatten t)) ∧
    ('&' ∉ t → '\\' ∉ t → flatten (flatten t) = flatten t) := by
  refine ⟨byteLength_flatten_le t, flatten_eq_self_iff, ⟨?_, ?_, tight_tightenColons _⟩,
    flatten_flatten⟩
  · exact fun c hc => notMem_flatten_of_removed hc t
  · intro lit hlit
    exact not_infix_flatten_of_removed (List.mem_map_of_mem (f := String.toList) hlit) t

/-- A text with a tab and a space before a colon, a capital letter with an accent and a dash. -/
theorem flatten_form_dash :
    flatten "a :\tÉ – b".toList = "a:E - b".toList ∧ flatten "a:E - b".toList = "a:E - b".toList := by
  have hflat : flatten "a :\tÉ – b".toList = "a:E - b".toList := by decide +kernel
  have htwice := (flatten_form "a :\tÉ – b".toList).2.2.2 (by decide) (by decide)
  rw [hflat] at htwice
  exact ⟨hflat, htwice⟩

-- a reference that the step for ampersands brings about, too late for its own step
example : flatten "&#038;quot;".toList = "&quot;".toList := by decide +kernel

end PackedScript.Page

import PackedScript.Page.Block
import PackedScript.Proofs.Text.Class
import PackedScript.Proofs.Text.Substitute

/-!
# Flattening around a call site

Every step of the flattening makes a text smaller or leaves it as it is, so a text that comes out
unchanged is left alone by each step (`steps_of_flatten_eq_self`). A call site of that kind, with
the end of its script behind it, is moreover a border: nothing that a step looks for ends within the
start of the call, nothing holds its closing parenthesis, and nothing starts within the end of the
script. So each step works before and behind the call site on its own, whatever earlier steps have
put there, and so does the flattening (`keeps_flatten`).
-/

namespace PackedScript.Page

open Text

/-- The steps of a list of replacements, one after the other. -/
def replaceEach (steps : List (Text × Text)) (t : Text) : Text :=
  steps.foldl (fun t step => replaceAll step.1 step.2 t) t

theorem flatten_eq (t : Text) : flatten t = tightenColons (replaceEach substitutions t) := rfl

/-! ## Steps make a text smaller -/

/-- A step that puts something smaller in the place of something. -/
def Shrinks (step : Text × Text) : Prop := step.1 ≠ [] ∧ byteLength step.2 < byteLength step.1

instance : DecidablePred Shrinks := fun _ => inferInstanceAs (Decidable (_ ∧ _))

theorem shrinks_substitutions : ∀ step ∈ substitutions, Shrinks step := by decide +kernel

theorem replaceEach_eq_self {steps : List (Text × Text)} {t : Text}
    (h : ∀ step ∈ steps, ¬step.1 <:+: t) : replaceEach steps t = t := by
  induction steps with
  | nil => rfl
  | cons step steps ih =>
    show replaceEach steps (replaceAll step.1 step.2 t) = t
    rw [replaceAll_eq_self (h step List.mem_cons_self)]
    exact ih fun s hs => h s (List.mem_cons_of_mem _ hs)

/-- Steps make a text smaller together, or there is nothing to replace for any of them. -/
theorem byteLength_replaceEach_lt_or {steps : List (Text × Text)}
    (hsteps : ∀ step ∈ steps, Shrinks step) (t : Text) :
    byteLength (replaceEach steps t) < byteLength t ∨ ∀ step ∈ steps, ¬step.1 <:+: t := by
  induction steps generalizing t with
  | nil => exact .inr fun step hstep => nomatch hstep
  | cons step steps ih =>
    obtain ⟨hne, hlt⟩ := hsteps step List.mem_cons_self
    have hrest := ih (fun s hs => hsteps s (List.mem_cons_of_mem _ hs)) (replaceAll step.1 step.2 t)
    show byteLength (replaceEach steps (replaceAll step.1 step.2 t)) < byteLength t ∨ _
    rcases byteLength_replaceAll_lt_or hne hlt t with hless | hnot
    · left
      rcases hrest with hless' | hnot'
      · exact hless'.trans hless
      · rw [replaceEach_eq_self hnot']
        exact hless
    · rw [replaceAll_eq_self hnot] at hrest ⊢
      refine hrest.imp_right fun hnot' s hs => ?_
      rcases List.mem_cons.mp hs with rfl | hs
      · exact hnot
      · exact hnot' s hs

/-! ## Colons -/

/-- Neither a space nor a colon. -/
def Solid (c : Char) : Prop := c ≠ ' ' ∧ c ≠ ':'

instance : DecidablePred Solid := fun _ => inferInstanceAs (Decidable (_ ∧ _))

theorem Solid.stopsAt {c : Char} (hc : Solid c) (t : Text) : StopsAt (· == ' ') (c :: t) :=
  .cons (by simpa using hc.1) t

/-- Nothing is to be done at a place with neither a space nor a colon. -/
theorem tightColon_eq_none_iff {t : Text} : tightColon t = none ↔ ∀ c ∈ t.head?, Solid c := by
  cases t with
  | nil => simp [tightColon, skipSpaces]
  | cons c t =>
    by_cases hspace : c = ' '
    · subst hspace
      have hskip : skipSpaces (' ' :: t) = skipSpaces t := rfl
      simp only [tightColon, hskip, List.takeWhile_cons_of_pos, beq_self_eq_true, List.isEmpty_cons]
      cases skipSpaces t with
      | nil => simp [Solid]
      | cons d rest =>
        by_cases hd : d = ':' <;> simp [hd, Solid]
    · have htake : (c :: t).takeWhile (· == ' ') = [] :=
        List.takeWhile_cons_of_neg (by simpa using hspace)
      have hskip : skipSpaces (c :: t) = c :: t :=
        List.dropWhile_cons_of_neg (by simpa using hspace)
      by_cases hcolon : c = ':'
      · subst hcolon
        simp [tightColon, hskip, Solid]
      · simp [tightColon, hskip, htake, hcolon, hspace, Solid]

/-- An answer of `tightColon` is a colon for a colon and all spaces around it, or a run of spaces,
as it is, with no colon behind it. -/
theorem tightColon_cases {t new : Text} {count : Nat} (h : tightColon t = some (new, count)) :
    (∃ sp sp' rest, Spaces sp ∧ Spaces sp' ∧ StopsAt (· == ' ') rest ∧
        t = (sp ++ ':' :: sp') ++ rest ∧ new = [':'] ∧ count = (sp ++ ':' :: sp').length) ∨
      ∃ rest, Spaces new ∧ new ≠ [] ∧ (∀ c ∈ rest.head?, Solid c) ∧ t = new ++ rest ∧
        count = new.length := by
  have hspaces (s : Text) : Spaces (s.takeWhile (· == ' ')) := fun c hc => by
    simpa using List.mem_takeWhile_imp hc
  have hstops (s : Text) : StopsAt (· == ' ') (skipSpaces s) := stopsAt_dropWhile _ s
  have hsplit (s : Text) : s = s.takeWhile (· == ' ') ++ skipSpaces s :=
    List.takeWhile_append_dropWhile.symm
  unfold tightColon at h
  dsimp only at h
  split at h
  · next rest hskip =>
    obtain ⟨rfl, rfl⟩ := Prod.mk.inj (Option.some.inj h)
    refine .inl ⟨_, _, skipSpaces rest, hspaces t, hspaces rest, hstops rest, ?_, rfl, ?_⟩
    · rw [List.append_assoc, List.cons_append, ← hsplit rest, ← hskip]
      exact hsplit t
    · rw [List.length_append, List.length_cons]
      omega
  · next hcolon =>
    split at h
    · cases h
    · next hne =>
      obtain ⟨rfl, rfl⟩ := Prod.mk.inj (Option.some.inj h)
      refine .inr ⟨skipSpaces t, hspaces t, by simpa using hne, ?_, hsplit t, rfl⟩
      intro c hc
      refine ⟨by simpa using hstops t c hc, ?_⟩
      rintro rfl
      cases hskip : skipSpaces t with
      | nil => simp [hskip] at hc
      | cons d rest =>
        obtain rfl : d = ':' := by simpa [hskip] using hc
        exact hcolon rest hskip

/-- An answer of `tightColon` stands for the front of a text and is no larger. -/
theorem exists_of_tightColon {t new : Text} {count : Nat} (h : tightColon t = some (new, count)) :
    ∃ covered rest, t = covered ++ rest ∧ count = covered.length ∧
      byteLength new ≤ byteLength covered := by
  rcases tightColon_cases h with ⟨sp, sp', rest, -, -, -, rfl, rfl, rfl⟩ | ⟨rest, -, -, -, rfl, rfl⟩
  · refine ⟨sp ++ ':' :: sp', rest, rfl, rfl, ?_⟩
    simp only [byteLength_append, byteLength_cons, byteLength_nil]
    omega
  · exact ⟨new, rest, rfl, rfl, le_rfl⟩

/-- What a solid character stands behind does not depend on it. -/
theorem tightColon_append {c : Char} (hc : Solid c) (t b : Text) :
    tightColon (t ++ c :: b) = tightColon t := by
  have hspaces := takeWhile_append_left t (hc.stopsAt b)
  have hskip : skipSpaces (t ++ c :: b) = skipSpaces t ++ c :: b :=
    dropWhile_append_left t (hc.stopsAt b)
  unfold tightColon
  rw [hspaces, hskip]
  cases skipSpaces t with
  | nil =>
    have hcolon : c ≠ ':' := hc.2
    simp [hcolon]
  | cons d rest =>
    by_cases hd : d = ':'
    · subst hd
      simp only [List.cons_append, takeWhile_append_left rest (hc.stopsAt b)]
    · simp [hd]

/-- A solid character separates the colons before it from those behind it. -/
theorem tightenColons_append {c : Char} (hc : Solid c) (a b : Text) :
    tightenColons (a ++ c :: b) = tightenColons a ++ tightenColons (c :: b) := by
  refine substitute_append (fun _ t _ _ => tightColon_append hc t b) fun t new count hrule => ?_
  obtain ⟨covered, rest, rfl, rfl, -⟩ := exists_of_tightColon hrule
  exact (List.prefix_append covered rest).length_le

theorem tightenColons_cons {c : Char} (hc : Solid c) (b : Text) :
    tightenColons (c :: b) = c :: tightenColons b := by
  have hnone : tightColon (c :: b) = none := tightColon_append hc [] b
  rw [tightenColons, substitute_cons, hnone]
  rfl

theorem tightenColons_append_of_notMem {a : Text} (hspace : ' ' ∉ a) (hcolon : ':' ∉ a) (b : Text) :
    tightenColons (a ++ b) = a ++ tightenColons b := by
  induction a with
  | nil => rfl
  | cons c a ih =>
    rw [List.mem_cons, not_or] at hspace hcolon
    have hc : Solid c := ⟨Ne.symm hspace.1, Ne.symm hcolon.1⟩
    rw [List.cons_append, tightenColons_cons hc, ih hspace.2 hcolon.2, List.cons_append]

theorem byteLength_tightenColons_le (t : Text) : byteLength (tightenColons t) ≤ byteLength t := by
  refine byteLength_substitute_le (fun t new count hrule => ?_) t
  obtain ⟨covered, rest, rfl, rfl, hle⟩ := exists_of_tightColon hrule
  rwa [List.take_left]

/-- Flattening makes no text larger. -/
theorem byteLength_flatten_le (t : Text) : byteLength (flatten t) ≤ byteLength t := by
  have htight := byteLength_tightenColons_le (replaceEach substitutions t)
  rw [flatten_eq]
  rcases byteLength_replaceEach_lt_or shrinks_substitutions t with hless | hnot
  · omega
  · rw [replaceEach_eq_self hnot] at htight ⊢
    exact htight

/-! ## Flat texts -/

/-- In a text that flattening leaves as it is, no step has anything to do. -/
theorem steps_of_flatten_eq_self {t : Text} (h : flatten t = t) :
    (∀ step ∈ substitutions, ¬step.1 <:+: t) ∧ tightenColons t = t := by
  rcases byteLength_replaceEach_lt_or shrinks_substitutions t with hless | hnot
  · have hle := byteLength_tightenColons_le (replaceEach substitutions t)
    rw [← flatten_eq, h] at hle
    omega
  · refine ⟨hnot, ?_⟩
    rw [flatten_eq, replaceEach_eq_self hnot] at h
    exact h

/-! ## Borders -/

/-- A call site: its start, its closing parenthesis and what is between them. -/
def site (middle : Text) : Text := blockStart ++ (middle ++ [')'])

/-- The end of a script. -/
def scriptEnd : Text := "</script>".toList

/-- A rewriting that does not look across the front of a call, across a closing parenthesis or
across the end of a script. -/
structure Separates (rewriting : Text → Text) : Prop where
  nil : rewriting [] = []
  start : ∀ a b, rewriting (a ++ (blockStart ++ b)) = rewriting a ++ rewriting (blockStart ++ b)
  parenthesis : ∀ a b, rewriting (a ++ ')' :: b) = rewriting a ++ ')' :: rewriting b
  ending : ∀ b, rewriting (scriptEnd ++ b) = scriptEnd ++ rewriting b

/-- A rewriting that works before and behind `block` on its own and keeps `block`. -/
def Keeps (block : Text) (rewriting : Text → Text) : Prop :=
  ∀ before behind,
    rewriting (before ++ (block ++ behind)) = rewriting before ++ (block ++ rewriting behind)

theorem Keeps.comp {block : Text} {f g : Text → Text} (hf : Keeps block f) (hg : Keeps block g) :
    Keeps block fun t => f (g t) := by
  intro before behind
  simp only [hg before behind, hf (g before) (g behind)]

/-- A rewriting that separates works around a call site which it leaves as it is. -/
theorem Separates.keeps {f : Text → Text} (hf : Separates f) {middle : Text}
    (hsite : f (site middle) = site middle) : Keeps (site middle ++ scriptEnd) f := by
  have hcall : f (blockStart ++ middle) = blockStart ++ middle := by
    have hclosed := hf.parenthesis (blockStart ++ middle) []
    rw [hf.nil, List.append_assoc, ← site, hsite, site, ← List.append_assoc] at hclosed
    exact (List.append_cancel_right hclosed).symm
  intro before behind
  have htext : before ++ (site middle ++ scriptEnd ++ behind)
      = before ++ (blockStart ++ (middle ++ ')' :: (scriptEnd ++ behind))) := by
    simp [site]
  rw [htext, hf.start, ← List.append_assoc blockStart, hf.parenthesis, hcall, hf.ending]
  simp [site]

/-! ## The borders of the steps -/

/-- A step that looks for something which is no longer than the start of a call, does not end with a
character of that, has no closing parenthesis and does not start with a character of the end of a
script. -/
structure Misses (step : Text × Text) : Prop where
  length_le : step.1.length ≤ blockStart.length
  last : step.1.getLast? ∉ blockStart.map some
  parenthesis : ')' ∉ step.1
  first : step.1.head? ∉ scriptEnd.map some

theorem misses_substitutions : ∀ step ∈ substitutions, Misses step := by
  have hcheck : ∀ step ∈ substitutions, step.1.length ≤ blockStart.length ∧
      step.1.getLast? ∉ blockStart.map some ∧ ')' ∉ step.1 ∧
      step.1.head? ∉ scriptEnd.map some := by
    decide +kernel
  intro step hstep
  obtain ⟨hlength, hlast, hparenthesis, hfirst⟩ := hcheck step hstep
  exact ⟨hlength, hlast, hparenthesis, hfirst⟩

theorem separates_replaceAll {step : Text × Text} (hne : step.1 ≠ []) (hstep : Misses step) :
    Separates (replaceAll step.1 step.2) where
  nil := replaceAll_eq_self (by rw [List.infix_nil]; exact hne)
  parenthesis := replaceAll_append_cons hne hstep.parenthesis
  start a b := by
    -- what reaches into the start of the call would end there
    refine replaceAll_append fun u v hsplit _ hv _ hprefix => ?_
    have hlength : v.length ≤ blockStart.length := by
      have hle := hstep.length_le
      rw [hsplit, List.length_append] at hle
      omega
    have hinside : v <+: blockStart :=
      List.prefix_of_prefix_length_le hprefix (List.prefix_append _ b) hlength
    have hlast : step.1.getLast? = some (v.getLast hv) := by
      rw [hsplit, List.getLast?_append_of_ne_nil u hv, List.getLast?_eq_some_getLast hv]
    refine hstep.last ?_
    rw [hlast]
    exact List.mem_map_of_mem (hinside.subset (List.getLast_mem hv))
  ending b := by
    refine replaceAll_append_of_no_start fun front t hsplit ht hprefix => ?_
    cases hold : step.1 with
    | nil => exact hne hold
    | cons c old =>
      cases t with
      | nil => exact ht rfl
      | cons d t =>
        have hfirst := hstep.first
        rw [hold] at hprefix hfirst
        rw [hsplit, (List.cons_prefix_cons.mp hprefix).1] at hfirst
        exact hfirst (by simp)

theorem separates_tightenColons : Separates tightenColons where
  nil := rfl
  parenthesis a b := by
    have hc : Solid ')' := by decide
    rw [tightenColons_append hc, tightenColons_cons hc]
  start a b := tightenColons_append (by decide : Solid 'e') a _
  ending := tightenColons_append_of_notMem (by decide) (by decide)

theorem keeps_replaceEach {steps : List (Text × Text)}
    (hsteps : ∀ step ∈ steps, Separates (replaceAll step.1 step.2)) {middle : Text}
    (hnot : ∀ step ∈ steps, ¬step.1 <:+: site middle) :
    Keeps (site middle ++ scriptEnd) (replaceEach steps) := by
  induction steps with
  | nil => exact fun _ _ => rfl
  | cons step steps ih =>
    have hfirst := (hsteps step List.mem_cons_self).keeps
      (replaceAll_eq_self (hnot step List.mem_cons_self))
    have hrest := ih (fun s hs => hsteps s (List.mem_cons_of_mem _ hs))
      fun s hs => hnot s (List.mem_cons_of_mem _ hs)
    exact hrest.comp hfirst

/-- Flattening works before and behind a flat call site on its own. -/
theorem keeps_flatten {middle : Text} (h : flatten (site middle) = site middle) :
    Keeps (site middle ++ scriptEnd) flatten := by
  obtain ⟨hnot, hcolons⟩ := steps_of_flatten_eq_self h
  have hsteps := keeps_replaceEach (fun step hstep => separates_replaceAll
    (shrinks_substitutions step hstep).1 (misses_substitutions step hstep)) hnot
  exact (separates_tightenColons.keeps hcolons).comp hsteps

end PackedScript.Page

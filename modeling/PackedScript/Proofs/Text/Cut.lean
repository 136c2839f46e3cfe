import PackedScript.Proofs.Text.Occurrence
import PackedScript.Text.Cut

/-!
# Where the cuts lie

A cut is found as soon as one remainder is accepted, and the first cut lies no later, the last cut
no earlier than that remainder (`cutFirst_of_suffix`, `cutLast_of_recognised`). When the accepted
texts need more of some character than is left behind a place, the last cut is there
(`cutLast_eq_of_count`). The first cut at a fixed text is where that text first stands
(`cutFirst_after?_eq`).
-/

namespace PackedScript.Text

variable {α β : Type} {recognise : List α → Option β}

/-! ## Suffixes -/

/-- A suffix that starts with an element that is not in `w` starts behind `w`. -/
theorem suffix_of_suffix_append {c : α} {s w t : List α} (h : s <:+ w ++ t) (hs : s.head? = some c)
    (hc : c ∉ w) : s <:+ t := by
  induction w with
  | nil => exact h
  | cons y w ih =>
    rcases List.suffix_cons_iff.mp h with rfl | htail
    · have hy : y = c := by simpa using hs
      exact absurd (by simp [hy]) hc
    · exact ih htail fun hmem => hc (List.mem_cons_of_mem _ hmem)

/-- What stands behind the same text at two places is ordered as the places are. -/
theorem suffix_of_append_suffix_append {l s t : List α} (h : l ++ s <:+ l ++ t) : s <:+ t := by
  refine List.suffix_of_suffix_length_le ((List.suffix_append l s).trans h)
    (List.suffix_append l t) ?_
  have hlen := h.length_le
  rw [List.length_append, List.length_append] at hlen
  omega

/-! ## First cuts -/

/-- What lies behind a first cut is accepted. -/
theorem exists_of_cutFirst {list pre : List α} {found : β}
    (h : cutFirst recognise list = some (pre, found)) :
    ∃ post, list = pre ++ post ∧ recognise post = some found := by
  obtain ⟨post, hlist, hpost, -⟩ := cutFirst_eq_some_iff.mp h
  exact ⟨post, hlist, hpost⟩

theorem eq_append_of_cutFirst_after? [BEq α] [LawfulBEq α] {lit list pre post : List α}
    (h : cutFirst (after? lit) list = some (pre, post)) : list = pre ++ (lit ++ post) := by
  obtain ⟨rest, hlist, hrest⟩ := exists_of_cutFirst h
  rw [hlist, after?_eq_some_iff.mp hrest]

/-- A text that is accepted wherever it stands does not stand where there is no cut. -/
theorem not_infix_of_cutFirst {w list : List α} (hread : ∀ rest, recognise (w ++ rest) ≠ none)
    (h : cutFirst recognise list = none) : ¬w <:+: list := by
  rintro ⟨before, behind, rfl⟩
  exact hread behind (cutFirst_eq_none_iff.mp h before (w ++ behind) (List.append_assoc _ _ _))

/-- An accepted remainder makes a first cut, at that place or before it. -/
theorem cutFirst_of_suffix {list post : List α} {found : β} (hpost : recognise post = some found)
    (hsuffix : post <:+ list) :
    ∃ pre post' found', cutFirst recognise list = some (pre, found') ∧ list = pre ++ post' ∧
      recognise post' = some found' ∧ post <:+ post' := by
  obtain ⟨front, rfl⟩ := hsuffix
  cases hcut : cutFirst recognise (front ++ post) with
  | none =>
    have hnone := cutFirst_eq_none_iff.mp hcut front post rfl
    rw [hpost] at hnone
    simp at hnone
  | some cut =>
    obtain ⟨pre, found'⟩ := cut
    obtain ⟨post', hlist, hrec, hfirst⟩ := cutFirst_eq_some_iff.mp hcut
    refine ⟨pre, post', found', rfl, hlist, hrec, ?_⟩
    rcases List.append_eq_append_iff.mp hlist with ⟨mid, hpre, hmid⟩ | ⟨mid, -, hmid⟩
    · -- the cut would lie behind the accepted remainder, so that remainder must be its own
      cases mid with
      | nil => exact ⟨[], hmid⟩
      | cons x mid =>
        have hnone := hfirst front (x :: mid) hpre (by simp)
        rw [← hmid, hpost] at hnone
        simp at hnone
    · exact ⟨mid, hmid.symm⟩

/-- A text that starts with `x` and has no other `x` is found where it stands first. -/
theorem cutFirst_after?_eq [BEq α] [LawfulBEq α] {x : α} {lit pre post : List α} (hx : x ∉ lit)
    (hpre : ¬x :: lit <:+: pre) :
    cutFirst (after? (x :: lit)) (pre ++ (x :: lit ++ post)) = some (pre, post) := by
  refine cutFirst_eq_some_iff.mpr ⟨x :: lit ++ post, rfl, after?_append _ _, ?_⟩
  intro front mid hsplit hmid
  rw [Option.eq_none_iff_forall_ne_some]
  intro rest hrest
  cases mid with
  | nil => exact hmid rfl
  | cons y mid =>
    -- the earlier occurrence cannot reach the `x` at which the later one starts
    obtain ⟨hy, htail⟩ := List.cons.inj (after?_eq_some_iff.mp hrest)
    have hlit : lit <+: mid :=
      (prefix_append_cons_iff (b := lit ++ post) hx).mp ⟨rest, by simpa using htail.symm⟩
    refine hpre ?_
    rw [hsplit, hy]
    exact (List.cons_prefix_cons.mpr ⟨rfl, hlit⟩).isInfix.trans
      (List.suffix_append front (x :: mid)).isInfix

/-- Where a recogniser goes on from another one, the first cut of the other one is its first cut if
it accepts what lies there. -/
theorem cutFirst_bind {γ : Type} {next : β → Option γ} {list pre : List α} {found : β} {found' : γ}
    (h : cutFirst recognise list = some (pre, found)) (hnext : next found = some found') :
    cutFirst (fun t => (recognise t).bind next) list = some (pre, found') := by
  obtain ⟨post, hlist, hpost, hfirst⟩ := cutFirst_eq_some_iff.mp h
  refine cutFirst_eq_some_iff.mpr ⟨post, hlist, ?_, ?_⟩
  · rw [hpost]
    exact hnext
  · intro front mid hsplit hmid
    rw [hfirst front mid hsplit hmid]
    rfl

/-! ## Last cuts -/

/-- There is no last cut exactly when the recogniser rejects every remainder. -/
theorem cutLast_eq_none_iff {list : List α} :
    cutLast recognise list = none ↔ ∀ pre post, list = pre ++ post → recognise post = none := by
  induction list with
  | nil =>
    simp only [cutLast_nil, Option.map_eq_none_iff]
    constructor
    · intro h pre post hsplit
      rw [(List.append_eq_nil_iff.mp hsplit.symm).2]
      exact h
    · intro h
      exact h [] [] rfl
  | cons x rest ih =>
    rw [cutLast_cons]
    constructor
    · intro h pre post hsplit
      cases hrest : cutLast recognise rest with
      | some cut => simp [hrest] at h
      | none =>
        cases pre with
        | nil =>
          rw [List.nil_append] at hsplit
          rw [← hsplit]
          simpa [hrest] using h
        | cons y pre => exact ih.mp hrest pre post (List.cons.inj hsplit).2
    · intro h
      have hrest : cutLast recognise rest = none :=
        ih.mpr fun pre post hsplit => h (x :: pre) post (by rw [hsplit]; rfl)
      rw [hrest, h [] (x :: rest) rfl]
      rfl

/-- The last cut lies before an accepted remainder, and every shorter remainder is rejected. -/
theorem cutLast_eq_some_iff {list pre : List α} {found : β} :
    cutLast recognise list = some (pre, found) ↔
      ∃ post, list = pre ++ post ∧ recognise post = some found ∧
        ∀ mid post', post = mid ++ post' → mid ≠ [] → recognise post' = none := by
  induction list generalizing pre found with
  | nil =>
    simp only [cutLast_nil, Option.map_eq_some_iff, Prod.mk.injEq]
    constructor
    · intro h
      obtain ⟨_, h, rfl, rfl⟩ := h
      exact ⟨[], rfl, h, by simp⟩
    · intro h
      obtain ⟨post, hsplit, h, -⟩ := h
      obtain ⟨rfl, rfl⟩ := List.append_eq_nil_iff.mp hsplit.symm
      exact ⟨_, h, rfl, rfl⟩
  | cons x rest ih =>
    rw [cutLast_cons]
    cases hrest : cutLast recognise rest with
    | some cut =>
      obtain ⟨front, found'⟩ := cut
      obtain ⟨post', hsplit', hrec', hlast'⟩ := ih.mp hrest
      simp only [Option.some.injEq, Prod.mk.injEq]
      constructor
      · intro h
        obtain ⟨rfl, rfl⟩ := h
        exact ⟨post', by rw [hsplit']; rfl, hrec', hlast'⟩
      · intro h
        obtain ⟨post, hsplit, hrec, hlast⟩ := h
        cases pre with
        | nil =>
          -- a cut at the front would not be the last one
          have hpost : post = x :: front ++ post' := by
            rw [← List.nil_append post, ← hsplit, hsplit']
            rfl
          have hnone := hlast (x :: front) post' hpost (by simp)
          rw [hrec'] at hnone
          simp at hnone
        | cons y pre =>
          obtain ⟨rfl, hrest'⟩ := List.cons.inj hsplit
          have hcut := ih.mpr ⟨post, hrest', hrec, hlast⟩
          rw [hrest] at hcut
          obtain ⟨rfl, rfl⟩ := Prod.mk.inj (Option.some.inj hcut)
          exact ⟨rfl, rfl⟩
    | none =>
      have hnone := cutLast_eq_none_iff.mp hrest
      simp only [Option.map_eq_some_iff, Prod.mk.injEq]
      constructor
      · intro h
        obtain ⟨_, hrec, rfl, rfl⟩ := h
        refine ⟨x :: rest, rfl, hrec, ?_⟩
        intro mid post' hsplit hmid
        cases mid with
        | nil => exact absurd rfl hmid
        | cons y mid => exact hnone mid post' (List.cons.inj hsplit).2
      · intro h
        obtain ⟨post, hsplit, hrec, -⟩ := h
        cases pre with
        | nil =>
          rw [List.nil_append] at hsplit
          exact ⟨found, by rw [hsplit]; exact hrec, rfl, rfl⟩
        | cons y pre =>
          have := hnone pre post (List.cons.inj hsplit).2
          rw [hrec] at this
          simp at this

/-- What lies behind a last cut is accepted. -/
theorem exists_of_cutLast {list pre : List α} {found : β}
    (h : cutLast recognise list = some (pre, found)) :
    ∃ post, list = pre ++ post ∧ recognise post = some found := by
  obtain ⟨post, hlist, hpost, -⟩ := cutLast_eq_some_iff.mp h
  exact ⟨post, hlist, hpost⟩

theorem eq_append_of_cutLast_after? [BEq α] [LawfulBEq α] {lit list pre post : List α}
    (h : cutLast (after? lit) list = some (pre, post)) : list = pre ++ (lit ++ post) := by
  obtain ⟨rest, hlist, hrest⟩ := exists_of_cutLast h
  rw [hlist, after?_eq_some_iff.mp hrest]

/-- An accepted remainder makes a last cut, at that place or behind it. -/
theorem cutLast_of_recognised {post : List α} {found : β} (hpost : recognise post = some found)
    (pre : List α) :
    ∃ pre' found', cutLast recognise (pre ++ post) = some (pre', found') ∧ pre <+: pre' := by
  cases hcut : cutLast recognise (pre ++ post) with
  | none =>
    have hnone := cutLast_eq_none_iff.mp hcut pre post rfl
    rw [hpost] at hnone
    simp at hnone
  | some cut =>
    obtain ⟨pre', found'⟩ := cut
    obtain ⟨post', hlist, -, hlast⟩ := cutLast_eq_some_iff.mp hcut
    refine ⟨pre', found', rfl, ?_⟩
    rcases List.append_eq_append_iff.mp hlist with ⟨mid, hpre, -⟩ | ⟨mid, hpre, hmid⟩
    · exact ⟨mid, hpre.symm⟩
    · cases mid with
      | nil => exact ⟨[], by rw [hpre, List.append_nil, List.append_nil]⟩
      | cons x mid =>
        have hnone := hlast (x :: mid) post hmid (by simp)
        rw [hpost] at hnone
        simp at hnone

/-- When whatever is accepted holds `n` times the element `c`, and fewer are left behind an accepted
remainder's first element, the last cut is there. -/
theorem cutLast_eq_of_count [BEq α] {n : Nat} {c x : α} {pre post : List α} {found : β}
    (hneeds : ∀ t found', recognise t = some found' → n ≤ t.count c)
    (hpost : recognise (x :: post) = some found) (hcount : post.count c < n) :
    cutLast recognise (pre ++ x :: post) = some (pre, found) := by
  refine cutLast_eq_some_iff.mpr ⟨x :: post, rfl, hpost, ?_⟩
  intro mid post' hsplit hmid
  rw [Option.eq_none_iff_forall_ne_some]
  intro found' hrec
  cases mid with
  | nil => exact hmid rfl
  | cons y mid =>
    have hpost' : post = mid ++ post' := (List.cons.inj hsplit).2
    have hle : post'.count c ≤ post.count c := by
      rw [hpost', List.count_append]
      omega
    have := hneeds post' found' hrec
    omega

/-- A text at the front is counted in full. -/
theorem count_le_of_after? [BEq α] [LawfulBEq α] {lit t rest : List α} (c : α)
    (h : after? lit t = some rest) : lit.count c ≤ t.count c := by
  rw [after?_eq_some_iff.mp h, List.count_append]
  omega

/-- A text that starts with `c` is found where it stands last, when no `c` is left behind it. -/
theorem cutLast_after?_eq [BEq α] [LawfulBEq α] {c : α} {lit pre post : List α} (hpost : c ∉ post) :
    cutLast (after? (c :: lit)) (pre ++ (c :: lit ++ post)) = some (pre, post) := by
  have hcount : (lit ++ post).count c < (c :: lit).count c := by
    rw [List.count_append, List.count_eq_zero.mpr hpost, List.count_cons_self]
    omega
  exact cutLast_eq_of_count (fun _ _ h => count_le_of_after? c h) (after?_append _ _) hcount

end PackedScript.Text

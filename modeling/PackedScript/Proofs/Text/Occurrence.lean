import Mathlib.Data.List.Infix
import PackedScript.Text.Basic

/-!
# Where a text stands in another one

`lit <:+: t` says that `lit` stands somewhere in `t`. A character that is not in `lit` is a wall: an
occurrence lies on one side of it (`infix_append_cons_iff`), and in a text of pieces with walls
between them it lies in a piece (`infix_intercalate_iff`).
-/

namespace PackedScript.Text

variable {α : Type} {lit a b : List α} {c x : α}

/-! ## Walls -/

/-- A prefix of two texts in a row is a prefix of the first one if it does not reach into the second
one. -/
theorem prefix_append_iff (h : ∀ v, lit = a ++ v → v ≠ [] → ¬v <+: b) :
    lit <+: a ++ b ↔ lit <+: a := by
  refine ⟨fun hacross => ?_, fun hinside => hinside.trans (List.prefix_append a b)⟩
  rcases List.prefix_or_prefix_of_prefix hacross (List.prefix_append a b) with hold | ⟨v, rfl⟩
  · exact hold
  · by_cases hv : v = []
    · rw [hv, List.append_nil]
    · exact absurd ((List.prefix_append_right_inj a).mp hacross) (h v rfl hv)

theorem mem_of_prefix_cons {v : List α} (hv : v ≠ []) (h : v <+: c :: b) : c ∈ v := by
  cases v with
  | nil => exact absurd rfl hv
  | cons d v =>
    rw [(List.cons_prefix_cons.mp h).1]
    exact List.mem_cons_self

/-- A prefix without `c` ends before the first `c`. -/
theorem prefix_append_cons_iff (hc : c ∉ lit) : lit <+: a ++ c :: b ↔ lit <+: a := by
  refine prefix_append_iff fun v hsplit hv hprefix => hc ?_
  rw [hsplit]
  exact List.mem_append_right a (mem_of_prefix_cons hv hprefix)

/-- An occurrence without `c` lies before `c` or behind it. -/
theorem infix_append_cons_iff (hc : c ∉ lit) : lit <:+: a ++ c :: b ↔ lit <:+: a ∨ lit <:+: b := by
  induction a with
  | nil =>
    rw [List.nil_append, List.infix_cons_iff, List.infix_nil]
    have hfront : lit <+: c :: b ↔ lit <+: [] := prefix_append_cons_iff (a := []) hc
    rw [hfront, List.prefix_nil]
  | cons y a ih =>
    rw [List.cons_append, List.infix_cons_iff, ih, List.infix_cons_iff, ← List.cons_append,
      prefix_append_cons_iff hc, or_assoc]

/-- What shares nothing with the first text stands in the second one. -/
theorem infix_of_infix_append_of_notMem (h : ∀ x ∈ a, x ∉ lit) (hstands : lit <:+: a ++ b) :
    lit <:+: b := by
  induction a with
  | nil => exact hstands
  | cons c a ih =>
    have hwall : lit <:+: [] ++ c :: (a ++ b) ↔ lit <:+: [] ∨ lit <:+: a ++ b :=
      infix_append_cons_iff (h c List.mem_cons_self)
    rcases hwall.mp hstands with hnil | hrest
    · rw [List.infix_nil.mp hnil]
      exact List.nil_infix
    · exact ih (fun x hx => h x (List.mem_cons_of_mem c hx)) hrest

/-- An occurrence of two characters that end in `c` lies before a `c`, behind it, or ends with it.
-/
theorem pair_infix_append_cons_iff (hx : x ≠ c) :
    [x, c] <:+: a ++ c :: b ↔ [x, c] <:+: a ∨ a.getLast? = some x ∨ [x, c] <:+: b := by
  induction a with
  | nil => simp [List.infix_cons_iff, List.cons_prefix_cons, hx]
  | cons y a ih =>
    rw [List.cons_append, List.infix_cons_iff, ih, List.infix_cons_iff]
    cases a with
    | nil =>
      simp [List.cons_prefix_cons]
      tauto
    | cons z a =>
      rw [List.getLast?_cons_cons, List.cons_append, List.cons_prefix_cons, List.cons_prefix_cons,
        List.cons_prefix_cons, List.cons_prefix_cons]
      simp only [List.nil_prefix, and_true]
      tauto

/-- An occurrence that ends in `c` does not reach into a text without `c`. -/
theorem infix_of_infix_append (hlast : lit.getLast? = some c) (hc : c ∉ b) (h : lit <:+: a ++ b) :
    lit <:+: a := by
  obtain ⟨before, behind, heq⟩ := h
  rcases List.append_eq_append_iff.mp heq with ⟨rest, rfl, -⟩ | ⟨across, hacross, rfl⟩
  · exact ⟨before, rest, rfl⟩
  · by_cases hne : across = []
    · exact ⟨before, [], by simp [hacross, hne]⟩
    · have hmem : c ∈ across := by
        refine List.mem_of_getLast? ?_
        rw [← List.getLast?_append_of_ne_nil a hne, ← hacross, List.getLast?_append, hlast]
        rfl
      exact absurd (List.mem_append_left behind hmem) hc

/-- In a text of pieces with `c` between them stand the elements of the pieces and `c`. -/
theorem eq_or_mem_of_mem_intercalate {pieces : List (List α)} (h : x ∈ [c].intercalate pieces) :
    x = c ∨ ∃ piece ∈ pieces, x ∈ piece := by
  induction pieces with
  | nil => simp at h
  | cons piece pieces ih =>
    cases pieces with
    | nil => exact .inr ⟨piece, List.mem_cons_self, by simpa using h⟩
    | cons next pieces =>
      rw [List.intercalate_cons_cons, List.mem_append, List.mem_append] at h
      rcases h with (hpiece | hc) | hrest
      · exact .inr ⟨piece, List.mem_cons_self, hpiece⟩
      · exact .inl (List.mem_singleton.mp hc)
      · rcases ih hrest with hc | ⟨other, hother, hx⟩
        · exact .inl hc
        · exact .inr ⟨other, List.mem_cons_of_mem _ hother, hx⟩

/-- In a text of pieces with `c` between them, an occurrence without `c` lies in a piece. -/
theorem infix_intercalate_iff (hc : c ∉ lit) {pieces : List (List α)} (hne : pieces ≠ []) :
    lit <:+: [c].intercalate pieces ↔ ∃ piece ∈ pieces, lit <:+: piece := by
  induction pieces with
  | nil => exact absurd rfl hne
  | cons piece pieces ih =>
    cases pieces with
    | nil => simp
    | cons next pieces =>
      rw [List.intercalate_cons_cons, List.append_assoc, List.singleton_append,
        infix_append_cons_iff hc, ih (by simp)]
      simp only [List.mem_cons, exists_eq_or_imp]

/-- In a text of pieces with `c` between them, nothing ends in `c` that no piece holds or ends
with. -/
theorem not_pair_infix_intercalate (hx : x ≠ c) {pieces : List (List α)}
    (hpieces : ∀ piece ∈ pieces, ¬[x, c] <:+: piece ∧ piece.getLast? ≠ some x) :
    ¬[x, c] <:+: [c].intercalate pieces := by
  induction pieces with
  | nil => simp
  | cons piece pieces ih =>
    obtain ⟨hpiece, hlast⟩ := hpieces piece List.mem_cons_self
    have hrest := ih fun p hp => hpieces p (List.mem_cons_of_mem _ hp)
    cases pieces with
    | nil => simpa using hpiece
    | cons next pieces =>
      rw [List.intercalate_cons_cons, List.append_assoc, List.singleton_append,
        pair_infix_append_cons_iff hx]
      simp only [hpiece, hlast, hrest, or_self, not_false_eq_true]

end PackedScript.Text

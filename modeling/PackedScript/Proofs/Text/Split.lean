import PackedScript.Proofs.Text.Cut
import PackedScript.Text.Split

/-!
# Joined pieces are split again

A piece is cut off where the separator first ends behind it (`splitOn_append`). `IsSplit` says of
some pieces that each of them ends where the separator does so for the first time. Every list has
such pieces and no list has two ways to be cut so: they are what the list is split into
(`splitOn_eq_iff`). Pieces without the first character of the separator are of this kind, so
splitting undoes joining (`splitOn_intercalate`).
-/

namespace PackedScript.Text

variable {α : Type} {separator piece list rest : List α} {pieces : List (List α)} {c : α}

/-! ## Pieces -/

/-- The separator stands in the piece with a separator behind it only at the end. -/
def EndsFirst (separator piece : List α) : Prop :=
  ∀ front behind, piece ++ separator = front ++ (separator ++ behind) → behind = []

/-- The list is cut into pieces at separators: behind each piece but the last the separator ends for
the first time, and it does not stand in the last one. -/
structure IsSplit (separator list : List α) (pieces : List (List α)) : Prop where
  ne_nil : pieces ≠ []
  joined : separator.intercalate pieces = list
  inner : ∀ piece ∈ pieces.dropLast, EndsFirst separator piece
  last : ∀ piece ∈ pieces.getLast?, ¬separator <:+: piece

/-- A separator that ends earlier begins earlier, inside the piece. -/
theorem endsFirst_iff : EndsFirst separator piece ↔
    ∀ front mid, piece = front ++ mid → mid ≠ [] → ¬separator <+: mid ++ separator := by
  constructor
  · intro h front mid hsplit hmid hstarts
    obtain ⟨behind, hbehind⟩ := hstarts
    have hnil := h front behind (by rw [hsplit, List.append_assoc, hbehind])
    have hlength := congrArg List.length hbehind
    have hpos := List.length_pos_iff.mpr hmid
    rw [hnil, List.append_nil, List.length_append] at hlength
    omega
  · intro h front behind heq
    by_contra hbehind
    have hlength := congrArg List.length heq
    have hpos := List.length_pos_iff.mpr hbehind
    simp only [List.length_append] at hlength
    obtain ⟨mid, rfl⟩ : front <+: piece :=
      List.prefix_of_prefix_length_le ⟨_, heq.symm⟩ (List.prefix_append _ _) (by omega)
    have hmid : mid ≠ [] := by
      intro hnil
      rw [hnil, List.append_nil] at hlength
      omega
    rw [List.append_assoc, List.append_cancel_left_eq] at heq
    exact h front mid rfl hmid ⟨behind, heq.symm⟩

/-- What begins with a character that is not in the piece does not begin in it. -/
theorem endsFirst_of_notMem (hc : c ∉ piece) : EndsFirst (c :: separator) piece := by
  rw [endsFirst_iff]
  intro front mid hsplit hmid hstarts
  cases mid with
  | nil => exact hmid rfl
  | cons y mid =>
    obtain ⟨rfl, -⟩ := List.cons_prefix_cons.mp hstarts
    exact hc (by rw [hsplit]; simp)

theorem isSplit_singleton_iff :
    IsSplit separator list [piece] ↔ list = piece ∧ ¬separator <:+: piece := by
  constructor
  · intro h
    exact ⟨by simpa using h.joined.symm, h.last piece rfl⟩
  · intro h
    obtain ⟨rfl, hpiece⟩ := h
    exact ⟨by simp, by simp, by simp, by simpa using hpiece⟩

theorem isSplit_cons_iff (hne : pieces ≠ []) :
    IsSplit separator list (piece :: pieces) ↔
      ∃ rest, list = piece ++ (separator ++ rest) ∧ EndsFirst separator piece ∧
        IsSplit separator rest pieces := by
  obtain ⟨next, pieces, rfl⟩ := List.exists_cons_of_ne_nil hne
  constructor
  · intro h
    obtain ⟨-, hjoined, hinner, hlast⟩ := h
    rw [List.dropLast_cons_cons, List.forall_mem_cons] at hinner
    rw [List.getLast?_cons_cons] at hlast
    rw [List.intercalate_cons_cons, List.append_assoc] at hjoined
    exact ⟨_, hjoined.symm, hinner.1, hne, rfl, hinner.2, hlast⟩
  · intro h
    obtain ⟨rest, rfl, hpiece, hrest⟩ := h
    refine ⟨by simp, ?_, ?_, ?_⟩
    · rw [List.intercalate_cons_cons, hrest.joined, List.append_assoc]
    · rw [List.dropLast_cons_cons, List.forall_mem_cons]
      exact ⟨hpiece, hrest.inner⟩
    · rw [List.getLast?_cons_cons]
      exact hrest.last

/-! ## Splitting -/

variable [BEq α] [LawfulBEq α]

/-- A piece is cut off when the separator stands nowhere before the one behind it. -/
theorem splitOn_append (hne : separator ≠ []) (hpiece : EndsFirst separator piece) :
    splitOn separator (piece ++ (separator ++ rest)) = piece :: splitOn separator rest := by
  rw [endsFirst_iff] at hpiece
  induction piece with
  | nil =>
    cases separator with
    | nil => exact absurd rfl hne
    | cons x separator =>
      have hstarts : (x :: separator).isPrefixOf (x :: (separator ++ rest)) = true :=
        List.isPrefixOf_iff_prefix.mpr ⟨rest, rfl⟩
      have hdrop : (separator ++ rest).drop ((x :: separator).length - 1) = rest := by simp
      rw [List.nil_append, List.cons_append, splitOn_cons, if_pos hstarts, hdrop]
  | cons x piece ih =>
    -- a separator at the front would end before the one behind the piece does
    have hfront : ¬separator.isPrefixOf (x :: (piece ++ (separator ++ rest))) = true := by
      rw [List.isPrefixOf_iff_prefix]
      intro hstarts
      refine hpiece [] (x :: piece) rfl (by simp) ?_
      refine List.prefix_of_prefix_length_le hstarts ⟨rest, by simp⟩ ?_
      rw [List.length_append]
      omega
    have hrest := ih fun front mid hsplit hmid => hpiece (x :: front) mid (by rw [hsplit]; rfl) hmid
    rw [List.cons_append, splitOn_cons, if_neg hfront, hrest]
    rfl

/-- What does not hold the separator is one piece. -/
theorem splitOn_eq_singleton (h : ¬separator <:+: piece) :
    splitOn separator piece = [piece] := by
  induction piece with
  | nil => rfl
  | cons x piece ih =>
    rw [List.infix_cons_iff, not_or] at h
    rw [splitOn_cons, if_neg fun hstarts => h.1 (List.isPrefixOf_iff_prefix.mp hstarts), ih h.2]
    rfl

/-- Before the first separator stands a piece. -/
theorem endsFirst_of_cutFirst (h : cutFirst (after? separator) list = some (piece, rest)) :
    EndsFirst separator piece := by
  obtain ⟨post, -, hpost, hfirst⟩ := cutFirst_eq_some_iff.mp h
  obtain rfl := after?_eq_some_iff.mp hpost
  rw [endsFirst_iff]
  intro front mid hsplit hmid hstarts
  obtain ⟨behind, hbehind⟩ := hstarts
  have hnone := hfirst front mid hsplit hmid
  rw [← List.append_assoc, ← hbehind, List.append_assoc, after?_append] at hnone
  cases hnone

/-- A piece is what lies before the first separator exactly when the one behind it is the first. -/
theorem cutFirst_after?_append_iff :
    cutFirst (after? separator) (piece ++ (separator ++ rest)) = some (piece, rest) ↔
      EndsFirst separator piece := by
  constructor
  · exact endsFirst_of_cutFirst
  · intro h
    refine cutFirst_eq_some_iff.mpr ⟨_, rfl, after?_append _ _, fun front mid hsplit hmid => ?_⟩
    rw [Option.eq_none_iff_forall_ne_some]
    intro behind hbehind
    have hstarts : separator <+: mid ++ (separator ++ rest) :=
      ⟨behind, (after?_eq_some_iff.mp hbehind).symm⟩
    refine endsFirst_iff.mp h front mid hsplit hmid ?_
    refine List.prefix_of_prefix_length_le hstarts ⟨rest, List.append_assoc _ _ _⟩ ?_
    rw [List.length_append]
    omega

theorem isSplit_splitOn (hne : separator ≠ []) (list : List α) :
    IsSplit separator list (splitOn separator list) := by
  induction hn : list.length using Nat.strongRecOn generalizing list with
  | ind n ih =>
    cases hcut : cutFirst (after? separator) list with
    | none =>
      have hstands : ¬separator <:+: list := not_infix_of_cutFirst (by simp) hcut
      rw [splitOn_eq_singleton hstands, isSplit_singleton_iff]
      exact ⟨rfl, hstands⟩
    | some cut =>
      obtain ⟨piece, rest⟩ := cut
      have hpiece := endsFirst_of_cutFirst hcut
      obtain rfl := eq_append_of_cutFirst_after? hcut
      have hlt : rest.length < n := by
        have hpos := List.length_pos_iff.mpr hne
        rw [← hn, List.length_append, List.length_append]
        omega
      rw [splitOn_append hne hpiece, isSplit_cons_iff (splitOn_ne_nil _ _)]
      exact ⟨rest, rfl, hpiece, ih _ hlt rest rfl⟩

/-- The pieces of a list are those it is split into, and no others. -/
theorem splitOn_eq_iff (hne : separator ≠ []) :
    splitOn separator list = pieces ↔ IsSplit separator list pieces := by
  constructor
  · intro h
    rw [← h]
    exact isSplit_splitOn hne list
  · intro h
    induction pieces generalizing list with
    | nil => exact absurd rfl h.ne_nil
    | cons piece pieces ih =>
      by_cases hpieces : pieces = []
      · subst hpieces
        obtain ⟨rfl, hstands⟩ := isSplit_singleton_iff.mp h
        exact splitOn_eq_singleton hstands
      · obtain ⟨rest, rfl, hpiece, hrest⟩ := (isSplit_cons_iff hpieces).mp h
        rw [splitOn_append hne hpiece, ih hrest]

/-- Pieces that do not hold the first character of the separator are what a text of them with the
separator between is split into. -/
theorem splitOn_intercalate (hne : pieces ≠ []) (hpieces : ∀ piece ∈ pieces, c ∉ piece) :
    splitOn (c :: separator) ((c :: separator).intercalate pieces) = pieces := by
  rw [splitOn_eq_iff (by simp)]
  refine ⟨hne, rfl, fun piece hpiece => ?_, fun piece hpiece hstands => ?_⟩
  · exact endsFirst_of_notMem (hpieces piece (List.mem_of_mem_dropLast hpiece))
  · exact hpieces piece (List.mem_of_getLast? hpiece) (hstands.subset List.mem_cons_self)

end PackedScript.Text

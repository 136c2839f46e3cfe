import PackedScript.Text.Basic

/-!
# Splitting at a separator

`splitOn` cuts a list at every occurrence of a separator, from left to right, the way a table of
symbols or of strings is cut into its entries. `splitOn_cons` is its recursion equation.
-/

namespace PackedScript.Text

variable {α : Type}

/-- The loop of `splitOn`: `skip` elements belong to the separator just read, `piece` is the current
piece and `pieces` are the earlier ones, both last first. -/
def splitLoop [BEq α] (separator : List α) :
    (skip : Nat) → (piece : List α) → (pieces : List (List α)) → List α → List (List α)
  | _, piece, pieces, [] => (piece.reverse :: pieces).reverse
  | skip + 1, piece, pieces, _ :: rest => splitLoop separator skip piece pieces rest
  | 0, piece, pieces, x :: rest =>
    if separator.isPrefixOf (x :: rest) then
      splitLoop separator (separator.length - 1) [] (piece.reverse :: pieces) rest
    else splitLoop separator 0 (x :: piece) pieces rest

/-- The pieces of a list between the occurrences of a separator that is not empty, which are found
from left to right and do not overlap. There is always at least one piece. -/
def splitOn [BEq α] (separator list : List α) : List (List α) := splitLoop separator 0 [] [] list

/-- `splitLoop` returns the earlier pieces and then those of the rest, the first of which continues
the current piece. -/
theorem splitLoop_eq [BEq α] (separator : List α) (skip : Nat) (piece : List α)
    (pieces : List (List α)) (list : List α) :
    splitLoop separator skip piece pieces list
      = pieces.reverse ++ (splitOn separator (list.drop skip)).modifyHead (piece.reverse ++ ·) := by
  induction list generalizing skip piece pieces with
  | nil => simp [splitOn, splitLoop]
  | cons x rest ih =>
    cases skip with
    | succ skip => simp [splitLoop, ih]
    | zero =>
      rw [List.drop_zero, splitOn, splitLoop, splitLoop]
      split
      · rw [ih, ih]
        simp
      · rw [ih, ih 0 [x]]
        cases splitOn separator (rest.drop 0) <;> simp

@[simp] theorem splitOn_nil [BEq α] (separator : List α) : splitOn separator [] = [[]] := rfl

theorem splitOn_cons [BEq α] (separator : List α) (x : α) (rest : List α) :
    splitOn separator (x :: rest) =
      if separator.isPrefixOf (x :: rest) then
        [] :: splitOn separator (rest.drop (separator.length - 1))
      else (splitOn separator rest).modifyHead (x :: ·) := by
  rw [splitOn, splitLoop]
  split
  · rw [splitLoop_eq]
    cases splitOn separator (rest.drop (separator.length - 1)) <;> simp
  · rw [splitLoop_eq]
    simp only [List.drop_zero]
    cases splitOn separator rest <;> simp

theorem splitOn_ne_nil [BEq α] (separator list : List α) : splitOn separator list ≠ [] := by
  induction list with
  | nil => simp
  | cons x rest ih =>
    rw [splitOn_cons]
    split
    · simp
    · simpa using ih

/-- A list in which the separator stands first is the separator and what lies behind it. -/
theorem eq_append_drop_of_isPrefixOf [BEq α] [LawfulBEq α] {separator : List α} {x : α}
    {rest : List α} (hne : separator ≠ []) (h : separator.isPrefixOf (x :: rest)) :
    x :: rest = separator ++ rest.drop (separator.length - 1) := by
  obtain ⟨behind, hbehind⟩ := List.isPrefixOf_iff_prefix.1 h
  cases separator with
  | nil => exact absurd rfl hne
  | cons y separator =>
    obtain ⟨rfl, rfl⟩ := List.cons.inj hbehind
    simp

end PackedScript.Text

import PackedScript.Text.Basic

/-!
# Substitution from left to right

All substitution in this library is one pass from left to right. At each place a rule looks at what
is left of the list. It either declines, and the element at the front is kept, or it answers with
the new elements and the number of old ones they stand for, and the pass goes on behind those. What
a rule has put in is never looked at again.

`substituteWith_cons` is the recursion equation. `substituteWith_eq_flatMap` and
`substitute_eq_self` say that a rule which declines everywhere changes nothing. `replaceAll` is the
case of a fixed list in the place of another one, by `replaceAll_eq_substitute`.
-/

namespace PackedScript.Text

variable {α β : Type}

/-- What a rule answers: the new elements, and how many old ones they stand for. An answer always
covers the element at the front, so a count of zero is read as one. -/
abbrev Rule (α β : Type) := List α → Option (List β × Nat)

/-- The loop of `substituteWith`: `skip` old elements are covered by the last answer, and `written`
is the result so far, last element first. -/
@[specialize] def substituteLoop (keep : α → List β) (rule : Rule α β) :
    (skip : Nat) → (written : List β) → List α → List β
  | _, written, [] => written.reverse
  | skip + 1, written, _ :: rest => substituteLoop keep rule skip written rest
  | 0, written, x :: rest =>
    match rule (x :: rest) with
    | none => substituteLoop keep rule 0 ((keep x).reverseAux written) rest
    | some (new, count) => substituteLoop keep rule (count - 1) (new.reverseAux written) rest

/-- One pass of `rule` from left to right, where an element that no answer covers becomes
`keep x`. -/
@[inline] def substituteWith (keep : α → List β) (rule : Rule α β) (list : List α) : List β :=
  substituteLoop keep rule 0 [] list

/-- One pass of `rule` from left to right, where an element that no answer covers stays. -/
@[inline] def substitute (rule : Rule α α) (list : List α) : List α :=
  substituteWith (fun x => [x]) rule list

theorem substituteLoop_eq (keep : α → List β) (rule : Rule α β) (skip : Nat) (written : List β)
    (list : List α) :
    substituteLoop keep rule skip written list
      = written.reverse ++ substituteWith keep rule (list.drop skip) := by
  induction list generalizing skip written with
  | nil => simp [substituteWith, substituteLoop]
  | cons x rest ih =>
    cases skip with
    | succ skip => simp [substituteLoop, ih]
    | zero =>
      rw [List.drop_zero, substituteWith, substituteLoop, substituteLoop]
      cases rule (x :: rest) with
      | none => simp [ih]
      | some answer => simp [ih]

@[simp] theorem substituteWith_nil (keep : α → List β) (rule : Rule α β) :
    substituteWith keep rule [] = [] := rfl

theorem substituteWith_cons (keep : α → List β) (rule : Rule α β) (x : α) (rest : List α) :
    substituteWith keep rule (x :: rest) =
      match rule (x :: rest) with
      | none => keep x ++ substituteWith keep rule rest
      | some (new, count) => new ++ substituteWith keep rule (rest.drop (count - 1)) := by
  rw [substituteWith, substituteLoop]
  cases rule (x :: rest) with
  | none => simp [substituteLoop_eq]
  | some answer => simp [substituteLoop_eq]

/-- Where the rule declines at every place, each element is kept. -/
theorem substituteWith_eq_flatMap {keep : α → List β} {rule : Rule α β} {list : List α}
    (h : ∀ pre post, list = pre ++ post → post ≠ [] → rule post = none) :
    substituteWith keep rule list = list.flatMap keep := by
  induction list with
  | nil => rfl
  | cons x rest ih =>
    rw [substituteWith_cons, h [] (x :: rest) rfl (by simp), List.flatMap_cons]
    simp only
    rw [ih]
    intro pre post hsplit
    exact h (x :: pre) post (by rw [hsplit]; rfl)

@[simp] theorem substitute_nil (rule : Rule α α) : substitute rule [] = [] := rfl

theorem substitute_cons (rule : Rule α α) (x : α) (rest : List α) :
    substitute rule (x :: rest) =
      match rule (x :: rest) with
      | none => x :: substitute rule rest
      | some (new, count) => new ++ substitute rule (rest.drop (count - 1)) :=
  substituteWith_cons _ rule x rest

/-- Where the rule declines at every place, nothing changes. -/
theorem substitute_eq_self {rule : Rule α α} {list : List α}
    (h : ∀ pre post, list = pre ++ post → post ≠ [] → rule post = none) :
    substitute rule list = list := by
  rw [substitute, substituteWith_eq_flatMap h, List.flatMap_singleton']

/-- The rule that puts `new` in the place of `old`. -/
@[inline] def replaceFront [BEq α] (old new : List α) : Rule α α := fun list =>
  if old.isPrefixOf list then some (new, old.length) else none

/-- Whether `old` stands somewhere in a list. -/
@[specialize] def occursIn [BEq α] (old : List α) : List α → Bool
  | [] => old.isEmpty
  | x :: rest => old.isPrefixOf (x :: rest) || occursIn old rest

/-- Where `old` does not stand in a list, it stands at the front of no remainder. -/
theorem isPrefixOf_eq_false_of_occursIn [BEq α] {old list : List α} (h : occursIn old list = false)
    {pre post : List α} (hsplit : list = pre ++ post) (hpost : post ≠ []) :
    old.isPrefixOf post = false := by
  induction list generalizing pre with
  | nil => exact absurd (List.append_eq_nil_iff.1 hsplit.symm).2 hpost
  | cons x rest ih =>
    obtain ⟨hfront, hrest⟩ := Bool.or_eq_false_iff.1 h
    cases pre with
    | nil => rw [List.nil_append] at hsplit; rw [← hsplit]; exact hfront
    | cons y pre => exact ih hrest (List.cons.inj hsplit).2

/-- The list with every `old` replaced by `new`, from left to right. A list in which `old` does not
stand is not built anew. -/
@[specialize] def replaceAll [BEq α] (old new list : List α) : List α :=
  if occursIn old list then substitute (replaceFront old new) list else list

theorem replaceAll_eq_substitute [BEq α] (old new list : List α) :
    replaceAll old new list = substitute (replaceFront old new) list := by
  unfold replaceAll
  split
  · rfl
  · next h =>
    refine (substitute_eq_self fun pre post hsplit hpost => ?_).symm
    have := isPrefixOf_eq_false_of_occursIn (Bool.eq_false_iff.2 h) hsplit hpost
    simp [replaceFront, this]

end PackedScript.Text

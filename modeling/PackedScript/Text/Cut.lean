import PackedScript.Text.Basic

/-!
# Cutting a list in two

Most of the structure of a packed script is found by cutting: everything up to the first place, or
up to the last place, where something recognisable begins. What counts as recognisable is a
recogniser, a function that looks at a remainder and either rejects it or says what it read there.

`cutFirst` cuts at the first remainder that the recogniser accepts and `cutLast` at the last one.
`cutFirst_cons` and `cutLast_cons` are their recursion equations, `cutFirst_eq_some_iff` and
`cutFirst_eq_none_iff` say exactly where the first cut lies.
-/

namespace PackedScript.Text

variable {α β : Type}

/-- The loop of `cutFirst`: `passed` is what lies before the remainder, last element first. -/
def cutFirstLoop (recognise : List α → Option β) (passed : List α) : List α → Option (List α × β)
  | [] => (recognise []).map (passed.reverse, ·)
  | x :: rest =>
    match recognise (x :: rest) with
    | some found => some (passed.reverse, found)
    | none => cutFirstLoop recognise (x :: passed) rest

/-- What lies before the first remainder that the recogniser accepts, and what it read there. -/
def cutFirst (recognise : List α → Option β) (list : List α) : Option (List α × β) :=
  cutFirstLoop recognise [] list

/-- The loop of `cutLast`: `best` is the last cut so far. -/
def cutLastLoop (recognise : List α → Option β) (passed : List α) (best : Option (List α × β)) :
    List α → Option (List α × β)
  | [] =>
    match recognise [] with
    | some found => some (passed.reverse, found)
    | none => best.map fun cut => (cut.1.reverse, cut.2)
  | x :: rest =>
    match recognise (x :: rest) with
    | some found => cutLastLoop recognise (x :: passed) (some (passed, found)) rest
    | none => cutLastLoop recognise (x :: passed) best rest

/-- What lies before the last remainder that the recogniser accepts, and what it read there. -/
def cutLast (recognise : List α → Option β) (list : List α) : Option (List α × β) :=
  cutLastLoop recognise [] none list

theorem cutFirstLoop_eq (recognise : List α → Option β) (passed list : List α) :
    cutFirstLoop recognise passed list
      = (cutFirst recognise list).map fun cut => (passed.reverse ++ cut.1, cut.2) := by
  induction list generalizing passed with
  | nil => cases h : recognise [] <;> simp [cutFirst, cutFirstLoop, h]
  | cons x rest ih =>
    cases h : recognise (x :: rest) with
    | some found => simp [cutFirst, cutFirstLoop, h]
    | none =>
      simp only [cutFirst, cutFirstLoop, h]
      rw [ih, ih [x]]
      cases cutFirst recognise rest <;> simp

@[simp] theorem cutFirst_nil (recognise : List α → Option β) :
    cutFirst recognise [] = (recognise []).map ([], ·) := rfl

theorem cutFirst_cons (recognise : List α → Option β) (x : α) (rest : List α) :
    cutFirst recognise (x :: rest) =
      match recognise (x :: rest) with
      | some found => some ([], found)
      | none => (cutFirst recognise rest).map fun cut => (x :: cut.1, cut.2) := by
  cases h : recognise (x :: rest) with
  | some found => simp [cutFirst, cutFirstLoop, h]
  | none => simp [cutFirst, cutFirstLoop, h, cutFirstLoop_eq recognise [x] rest]

/-- There is no first cut exactly when the recogniser rejects every remainder. -/
theorem cutFirst_eq_none_iff {recognise : List α → Option β} {list : List α} :
    cutFirst recognise list = none ↔ ∀ pre post, list = pre ++ post → recognise post = none := by
  induction list with
  | nil =>
    simp only [cutFirst_nil, Option.map_eq_none_iff]
    constructor
    · rintro h pre post hsplit
      obtain ⟨_, rfl⟩ := List.append_eq_nil_iff.1 hsplit.symm
      exact h
    · intro h
      exact h [] [] rfl
  | cons x rest ih =>
    rw [cutFirst_cons]
    cases hx : recognise (x :: rest) with
    | some found =>
      simp only [reduceCtorEq, false_iff]
      intro h
      simp [h [] (x :: rest) rfl] at hx
    | none =>
      simp only [Option.map_eq_none_iff, ih]
      constructor
      · intro h pre post hsplit
        cases pre with
        | nil => rw [← List.nil_append post, ← hsplit]; exact hx
        | cons y pre => exact h pre post (List.cons.inj hsplit).2
      · intro h pre post hsplit
        exact h (x :: pre) post (by rw [hsplit]; rfl)

/-- The first cut lies before an accepted remainder, and every longer remainder is rejected. -/
theorem cutFirst_eq_some_iff {recognise : List α → Option β} {list pre : List α} {found : β} :
    cutFirst recognise list = some (pre, found) ↔
      ∃ post, list = pre ++ post ∧ recognise post = some found ∧
        ∀ pre' mid, pre = pre' ++ mid → mid ≠ [] → recognise (mid ++ post) = none := by
  induction list generalizing pre with
  | nil =>
    simp only [cutFirst_nil, Option.map_eq_some_iff, Prod.mk.injEq]
    constructor
    · rintro ⟨_, h, rfl, rfl⟩
      exact ⟨[], rfl, h, by simp⟩
    · rintro ⟨post, hsplit, h, -⟩
      obtain ⟨rfl, rfl⟩ := List.append_eq_nil_iff.1 hsplit.symm
      exact ⟨_, h, rfl, rfl⟩
  | cons x rest ih =>
    rw [cutFirst_cons]
    cases hx : recognise (x :: rest) with
    | some other =>
      simp only [Option.some.injEq, Prod.mk.injEq]
      constructor
      · rintro ⟨rfl, rfl⟩
        exact ⟨x :: rest, rfl, hx, by simp⟩
      · rintro ⟨post, hsplit, h, hfirst⟩
        cases pre with
        | nil =>
          rw [List.nil_append] at hsplit
          rw [hsplit, h] at hx
          exact ⟨rfl, (Option.some.inj hx).symm⟩
        | cons y pre =>
          have := hfirst [] (y :: pre) rfl (by simp)
          rw [← hsplit, hx] at this
          simp at this
    | none =>
      simp only [Option.map_eq_some_iff, Prod.mk.injEq, Prod.exists]
      constructor
      · rintro ⟨pre, found, hcut, rfl, rfl⟩
        obtain ⟨post, rfl, h, hfirst⟩ := ih.1 hcut
        refine ⟨post, rfl, h, ?_⟩
        intro pre' mid hsplit hmid
        cases pre' with
        | nil => rw [← List.nil_append mid, ← hsplit]; exact hx
        | cons y pre' => exact hfirst pre' mid (List.cons.inj hsplit).2 hmid
      · rintro ⟨post, hsplit, h, hfirst⟩
        cases pre with
        | nil => rw [hsplit, List.nil_append, h] at hx; simp at hx
        | cons y pre =>
          obtain ⟨rfl, rfl⟩ := List.cons.inj hsplit
          refine ⟨pre, found, ih.2 ⟨post, rfl, h, ?_⟩, rfl, rfl⟩
          intro pre' mid hsplit hmid
          exact hfirst (x :: pre') mid (by rw [hsplit]; rfl) hmid

theorem cutLastLoop_eq (recognise : List α → Option β) (passed : List α)
    (best : Option (List α × β)) (list : List α) :
    cutLastLoop recognise passed best list =
      match cutLast recognise list with
      | some cut => some (passed.reverse ++ cut.1, cut.2)
      | none => best.map fun cut => (cut.1.reverse, cut.2) := by
  induction list generalizing passed best with
  | nil => cases h : recognise [] <;> simp [cutLast, cutLastLoop, h]
  | cons x rest ih =>
    cases h : recognise (x :: rest) with
    | some found =>
      simp only [cutLast, cutLastLoop, h]
      rw [ih, ih [x]]
      cases cutLast recognise rest <;> simp
    | none =>
      simp only [cutLast, cutLastLoop, h]
      rw [ih, ih [x]]
      cases cutLast recognise rest <;> simp

@[simp] theorem cutLast_nil (recognise : List α → Option β) :
    cutLast recognise [] = (recognise []).map ([], ·) := by
  cases h : recognise [] <;> simp [cutLast, cutLastLoop, h]

theorem cutLast_cons (recognise : List α → Option β) (x : α) (rest : List α) :
    cutLast recognise (x :: rest) =
      match cutLast recognise rest with
      | some cut => some (x :: cut.1, cut.2)
      | none => (recognise (x :: rest)).map ([], ·) := by
  cases h : recognise (x :: rest) <;>
    · simp only [cutLast, cutLastLoop, h, cutLastLoop_eq recognise [x]]
      cases cutLastLoop recognise [] none rest <;> simp

end PackedScript.Text

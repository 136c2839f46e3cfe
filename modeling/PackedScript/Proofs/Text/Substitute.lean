import PackedScript.Proofs.Text.Occurrence
import PackedScript.Proofs.Text.Split
import PackedScript.Text.Substitute

/-!
# Substitution in parts

A pass over two texts in a row is a pass over each of them, if no place in the first one is decided
by the second one and no answer reaches into it (`substitute_append`). For a replacement that means
that nothing to be replaced lies across the border (`replaceAll_append`), and nothing does where the
border is a character that is not replaced. That is how the quotes of a call keep a rewriting of one
field away from the others (`replaceAll_intercalate`).

What a pass does to a whole list follows from what it does with the element or the answer at the
front (`substitute_induction`). In this way a measure of a text that no answer raises is not raised
by a pass, and one that no answer lowers is not lowered. What a pass leaves has stood there before,
if no answer puts in anything of it (`infix_of_infix_substitute`). A replacement by something smaller
makes a text smaller or has nothing to do (`byteLength_replaceAll_lt_or`), so in a sequence of such
steps none can undo what another one has done.

A replacement is a change of separators: the pieces between the old ones are what is left between the
new ones (`replaceAll_eq_intercalate`).
-/

namespace PackedScript.Text

/-! ## Replacement -/

section

variable {α : Type} [BEq α] [LawfulBEq α] {old new : List α}

theorem occursIn_iff {list : List α} : occursIn old list = true ↔ old <:+: list := by
  induction list with
  | nil => simp [occursIn, List.isEmpty_iff]
  | cons y list ih => rw [occursIn, Bool.or_eq_true, List.isPrefixOf_iff_prefix, ih,
      List.infix_cons_iff]

/-- A replacement of what does not occur changes nothing. -/
theorem replaceAll_eq_self {list : List α} (h : ¬old <:+: list) : replaceAll old new list = list := by
  unfold replaceAll
  rw [if_neg]
  exact fun hocc => h (occursIn_iff.mp hocc)

theorem replaceFront_congr {s t : List α} (h : old <+: s ↔ old <+: t) :
    replaceFront old new s = replaceFront old new t := by
  simp only [← List.isPrefixOf_iff_prefix] at h
  rw [replaceFront, replaceFront, Bool.eq_iff_iff.mpr h]

theorem replaceAll_cons_of_front {list : List α} {y : α} (h : old <+: y :: list) :
    replaceAll old new (y :: list) = new ++ replaceAll old new (list.drop (old.length - 1)) := by
  rw [replaceAll_eq_substitute, replaceAll_eq_substitute, substitute_cons, replaceFront,
    if_pos (List.isPrefixOf_iff_prefix.mpr h)]

theorem replaceAll_cons_of_not_front {list : List α} {y : α} (h : ¬old <+: y :: list) :
    replaceAll old new (y :: list) = y :: replaceAll old new list := by
  rw [replaceAll_eq_substitute, replaceAll_eq_substitute, substitute_cons, replaceFront,
    if_neg fun hfront => h (List.isPrefixOf_iff_prefix.mp hfront)]

end

/-! ## Whole passes -/

section

variable {α : Type} {rule : Rule α α}

/-- What holds of nothing, and is handed on by an element that is kept and by an answer with what it
covers, holds of a whole pass. -/
theorem substitute_induction {P : List α → List α → Prop} (hnil : P [] [])
    (hkeep : ∀ x rest, rule (x :: rest) = none → P rest (substitute rule rest) →
      P (x :: rest) (x :: substitute rule rest))
    (hanswer : ∀ x rest new count, rule (x :: rest) = some (new, count) →
      P (rest.drop (count - 1)) (substitute rule (rest.drop (count - 1))) →
      P (x :: rest) (new ++ substitute rule (rest.drop (count - 1))))
    (list : List α) : P list (substitute rule list) := by
  induction hn : list.length using Nat.strongRecOn generalizing list with
  | ind n ih =>
    cases list with
    | nil => exact hnil
    | cons x rest =>
      rw [List.length_cons] at hn
      rw [substitute_cons]
      cases hrule : rule (x :: rest) with
      | none => exact hkeep x rest hrule (ih rest.length (by omega) rest rfl)
      | some answer =>
        obtain ⟨new, count⟩ := answer
        refine hanswer x rest new count hrule (ih _ ?_ _ rfl)
        rw [List.length_drop]
        omega

/-- What an answer covers, which is the element at the front at least, and what is behind it. -/
theorem cons_take_append_drop (x : α) (rest : List α) {count : Nat} (hcount : 0 < count) :
    (x :: rest).take count ++ rest.drop (count - 1) = x :: rest := by
  obtain ⟨n, rfl⟩ := Nat.exists_eq_succ_of_ne_zero hcount.ne'
  simp

/-- What a pass goes on with is what is behind the elements that an answer covers. -/
theorem drop_of_cons_eq_append {x : α} {rest covered behind : List α} (hne : covered ≠ [])
    (h : x :: rest = covered ++ behind) : rest.drop (covered.length - 1) = behind := by
  obtain ⟨y, covered, rfl⟩ := List.exists_cons_of_ne_nil hne
  obtain ⟨rfl, rfl⟩ := List.cons.inj h
  simp

/-- A pass with answers that put back what they cover changes nothing. -/
theorem substitute_eq_self_of_kept {list : List α}
    (h : ∀ pre post new count, list = pre ++ post → rule post = some (new, count) →
      0 < count ∧ new = post.take count) : substitute rule list = list := by
  refine substitute_induction (P := fun t u => t <:+ list → u = t) ?_ ?_ ?_ list List.suffix_rfl
  · intro _
    rfl
  · intro x rest _ ih hsuffix
    rw [ih ((List.suffix_cons x rest).trans hsuffix)]
  · intro x rest new count hrule ih hsuffix
    obtain ⟨pre, hpre⟩ := hsuffix
    obtain ⟨hcount, rfl⟩ := h pre (x :: rest) new count hpre.symm hrule
    have hdrop : rest.drop (count - 1) <:+ list :=
      (List.drop_suffix _ _).trans ((List.suffix_cons x rest).trans ⟨pre, hpre⟩)
    rw [ih hdrop, cons_take_append_drop x rest hcount]

/-- A pass lowers no number of elements that no answer lowers. -/
theorem count_le_count_substitute [BEq α] {c : α}
    (h : ∀ t new count, rule t = some (new, count) →
      0 < count ∧ (t.take count).count c ≤ new.count c) (list : List α) :
    list.count c ≤ (substitute rule list).count c := by
  refine substitute_induction (P := fun t u => t.count c ≤ u.count c) (Nat.le_refl _) ?_ ?_ list
  · intro x rest _ ih
    rw [List.count_cons, List.count_cons]
    omega
  · intro x rest new count hrule ih
    obtain ⟨hcount, hnew⟩ := h _ _ _ hrule
    rw [← cons_take_append_drop x rest hcount, List.count_append, List.count_append]
    omega

end

/-! ## What a pass leaves -/

section

variable {α : Type} {rule : Rule α α} {lit list : List α} {c : α}

/-- The answers of a rule put in something, and nothing that is part of `lit`. -/
def Spares (rule : Rule α α) (lit : List α) : Prop :=
  ∀ t new count, rule t = some (new, count) → new ≠ [] ∧ ∀ x ∈ new, x ∉ lit

/-- What stands at the front behind the pass has stood there before. -/
theorem prefix_of_prefix_substitute (h : Spares rule lit)
    (hstarts : lit <+: substitute rule list) : lit <+: list := by
  -- the tail of `lit` is asked for behind an element that is kept
  suffices hparts : ∀ l, l ⊆ lit → l <+: substitute rule list → l <+: list from
    hparts lit (List.Subset.refl lit) hstarts
  refine substitute_induction
    (P := fun t u => ∀ l, l ⊆ lit → l <+: u → l <+: t) (fun l _ hl => hl) ?_ ?_ list
  · intro x rest _ ih l hl hfront
    cases l with
    | nil => exact List.nil_prefix
    | cons y l =>
      obtain ⟨rfl, htail⟩ := List.cons_prefix_cons.mp hfront
      have hl' : l ⊆ lit := fun z hz => hl (List.mem_cons_of_mem y hz)
      exact List.cons_prefix_cons.mpr ⟨rfl, ih l hl' htail⟩
  · intro x rest new count hrule _ l hl hfront
    obtain ⟨hne, hnew⟩ := h _ _ _ hrule
    cases l with
    | nil => exact List.nil_prefix
    | cons y l =>
      cases new with
      | nil => exact absurd rfl hne
      | cons z new =>
        obtain ⟨rfl, -⟩ := List.cons_prefix_cons.mp hfront
        exact absurd (hl List.mem_cons_self) (hnew y List.mem_cons_self)

theorem substitute_cons_of_none {x : α} {rest : List α} (hrule : rule (x :: rest) = none) :
    substitute rule (x :: rest) = x :: substitute rule rest := by
  rw [substitute_cons, hrule]

/-- What stands anywhere behind the pass has stood somewhere before. -/
theorem infix_of_infix_substitute (h : Spares rule lit)
    (hstands : lit <:+: substitute rule list) : lit <:+: list := by
  revert hstands
  refine substitute_induction (P := fun t u => lit <:+: u → lit <:+: t) (fun hl => hl) ?_ ?_ list
  · intro x rest hrule ih hstands
    rcases List.infix_cons_iff.mp hstands with hfront | hrest
    · rw [← substitute_cons_of_none hrule] at hfront
      exact (prefix_of_prefix_substitute h hfront).isInfix
    · exact (ih hrest).trans (List.suffix_cons x rest).isInfix
  · intro x rest new count hrule ih hstands
    have hbehind := ih (infix_of_infix_append_of_notMem (h _ _ _ hrule).2 hstands)
    exact hbehind.trans ((List.drop_suffix _ _).trans (List.suffix_cons x rest)).isInfix

/-- A pass with an answer wherever `lit` stands leaves it nowhere. -/
theorem not_infix_substitute (h : Spares rule lit) (hne : lit ≠ [])
    (hanswers : ∀ t, lit <+: t → rule t ≠ none) : ¬lit <:+: substitute rule list := by
  refine substitute_induction (P := fun _ u => ¬lit <:+: u) ?_ ?_ ?_ list
  · rw [List.infix_nil]
    exact hne
  · intro x rest hrule ih hstands
    rcases List.infix_cons_iff.mp hstands with hfront | hrest
    · rw [← substitute_cons_of_none hrule] at hfront
      exact hanswers _ (prefix_of_prefix_substitute h hfront) hrule
    · exact ih hrest
  · intro x rest new count hrule ih hstands
    exact ih (infix_of_infix_append_of_notMem (h _ _ _ hrule).2 hstands)

/-- An element that no answer brings in has been there before. -/
theorem mem_of_mem_substitute (h : ∀ t new count, rule t = some (new, count) → c ∈ new → c ∈ t)
    (hc : c ∈ substitute rule list) : c ∈ list := by
  revert hc
  refine substitute_induction (P := fun t u => c ∈ u → c ∈ t) (fun hl => hl) ?_ ?_ list
  · intro x rest _ ih hmem
    rcases List.mem_cons.mp hmem with rfl | hrest
    · exact List.mem_cons_self
    · exact List.mem_cons_of_mem x (ih hrest)
  · intro x rest new count hrule ih hmem
    rcases List.mem_append.mp hmem with hnew | hrest
    · exact h _ _ _ hrule hnew
    · exact List.mem_cons_of_mem x (List.mem_of_mem_drop (ih hrest))

end

section

variable {α : Type} [BEq α] [LawfulBEq α] {old new lit list : List α} {c : α}

theorem replaceFront_eq_some_iff {t new' : List α} {count : Nat} :
    replaceFront old new t = some (new', count) ↔
      old <+: t ∧ new' = new ∧ count = old.length := by
  unfold replaceFront
  split
  · next h => simp [List.isPrefixOf_iff_prefix.mp h, eq_comm]
  · next h =>
    have hnot : ¬old <+: t := fun hfront => h (List.isPrefixOf_iff_prefix.mpr hfront)
    simp [hnot]

theorem spares_replaceFront (hne : new ≠ []) (h : ∀ x ∈ new, x ∉ lit) :
    Spares (replaceFront old new) lit := by
  intro t new' count hrule
  obtain ⟨-, rfl, -⟩ := replaceFront_eq_some_iff.mp hrule
  exact ⟨hne, h⟩

/-- A replacement brings nothing about of which it puts nothing in. -/
theorem infix_of_infix_replaceAll (hne : new ≠ []) (h : ∀ x ∈ new, x ∉ lit)
    (hstands : lit <:+: replaceAll old new list) : lit <:+: list := by
  rw [replaceAll_eq_substitute] at hstands
  exact infix_of_infix_substitute (spares_replaceFront hne h) hstands

/-- A replacement that puts in nothing of what it takes out leaves nothing to be replaced. -/
theorem not_infix_replaceAll (hold : old ≠ []) (hne : new ≠ []) (h : ∀ x ∈ new, x ∉ old) :
    ¬old <:+: replaceAll old new list := by
  rw [replaceAll_eq_substitute]
  refine not_infix_substitute (spares_replaceFront hne h) hold fun t hfront hnone => ?_
  have hsome : replaceFront old new t = some (new, old.length) :=
    replaceFront_eq_some_iff.mpr ⟨hfront, rfl, rfl⟩
  rw [hnone] at hsome
  cases hsome

/-- A replacement brings in no element but those of its own that it takes out elsewhere. -/
theorem mem_of_mem_replaceAll (h : c ∈ new → c ∈ old) (hc : c ∈ replaceAll old new list) :
    c ∈ list := by
  rw [replaceAll_eq_substitute] at hc
  refine mem_of_mem_substitute (fun t new' count hrule hnew => ?_) hc
  obtain ⟨hfront, rfl, -⟩ := replaceFront_eq_some_iff.mp hrule
  exact hfront.subset (h hnew)

/-- A single element that is replaced is gone, also where nothing takes its place. -/
theorem notMem_replaceAll_singleton (h : c ∉ new) : c ∉ replaceAll [c] new list := by
  rw [replaceAll_eq_substitute]
  refine substitute_induction (P := fun _ u => c ∉ u) (by simp) ?_ ?_ list
  · intro x rest hrule ih hmem
    rcases List.mem_cons.mp hmem with rfl | hrest
    · have hsome : replaceFront [c] new (c :: rest) = some (new, 1) :=
        replaceFront_eq_some_iff.mpr ⟨⟨rest, rfl⟩, rfl, rfl⟩
      rw [hrule] at hsome
      cases hsome
    · exact ih hrest
  · intro x rest new' count hrule ih hmem
    obtain ⟨-, rfl, -⟩ := replaceFront_eq_some_iff.mp hrule
    rcases List.mem_append.mp hmem with hnew | hrest
    · exact h hnew
    · exact ih hrest

end

/-! ## Two texts in a row -/

section

variable {α : Type} {rule : Rule α α} {a b : List α}

/-- A pass keeps a text in which the rule declines at every place. -/
theorem substitute_append_of_declines
    (h : ∀ front t, a = front ++ t → t ≠ [] → rule (t ++ b) = none) :
    substitute rule (a ++ b) = a ++ substitute rule b := by
  induction a with
  | nil => rfl
  | cons x a ih =>
    have hfront := h [] (x :: a) rfl (by simp)
    have hrest := ih fun front t hsplit => h (x :: front) t (by rw [hsplit]; rfl)
    rw [List.cons_append] at hfront ⊢
    rw [substitute_cons, hfront, List.cons_append, ← hrest]

/-- An answer at the front takes the place of what it covers. -/
theorem substitute_append_of_answer {new : List α} (ha : a ≠ [])
    (h : rule (a ++ b) = some (new, a.length)) :
    substitute rule (a ++ b) = new ++ substitute rule b := by
  obtain ⟨x, a, rfl⟩ := List.exists_cons_of_ne_nil ha
  rw [List.cons_append] at h ⊢
  rw [substitute_cons, h]
  simp

/-- A rule that decides each place of a text regardless of what is behind the text works on the text
on its own. -/
theorem substitute_append
    (hlocal : ∀ front t, a = front ++ t → t ≠ [] → rule (t ++ b) = rule t)
    (hcount : ∀ t new count, rule t = some (new, count) → count ≤ t.length) :
    substitute rule (a ++ b) = substitute rule a ++ substitute rule b := by
  induction hn : a.length using Nat.strongRecOn generalizing a with
  | ind n ih =>
    cases a with
    | nil => rfl
    | cons x a =>
      have hfront := hlocal [] (x :: a) rfl (by simp)
      rw [List.cons_append] at hfront ⊢
      rw [substitute_cons, substitute_cons, hfront]
      cases hrule : rule (x :: a) with
      | none =>
        have hrest := ih a.length (by rw [← hn, List.length_cons]; omega)
          (fun front t hsplit => hlocal (x :: front) t (by rw [hsplit]; rfl)) rfl
        simp only [hrest, List.cons_append]
      | some answer =>
        obtain ⟨new, count⟩ := answer
        -- the answer covers no more than is left of the first text
        have hle := hcount _ _ _ hrule
        rw [List.length_cons] at hle
        have hrest := ih (a.drop (count - 1)).length
          (by rw [← hn, List.length_drop, List.length_cons]; omega)
          (fun front t hsplit => hlocal (x :: (a.take (count - 1) ++ front)) t (by
            rw [List.cons_append, List.append_assoc, ← hsplit, List.take_append_drop])) rfl
        simp only [List.drop_append_of_le_length (by omega : count - 1 ≤ a.length), hrest,
          List.append_assoc]

end

section

variable {α : Type} [BEq α] [LawfulBEq α] {old new a b : List α} {c : α}

/-- A replacement works on two texts in a row on their own if nothing to be replaced lies across the
border. -/
theorem replaceAll_append (h : ∀ u v, old = u ++ v → u ≠ [] → v ≠ [] → u <:+ a → ¬v <+: b) :
    replaceAll old new (a ++ b) = replaceAll old new a ++ replaceAll old new b := by
  rw [replaceAll_eq_substitute, replaceAll_eq_substitute, replaceAll_eq_substitute]
  refine substitute_append (fun front t hsplit ht => ?_) (fun t new' count hrule => ?_)
  · refine replaceFront_congr (prefix_append_iff fun v hold hv => ?_)
    exact h t v hold ht hv ⟨front, hsplit.symm⟩
  · obtain ⟨hfront, -, rfl⟩ := replaceFront_eq_some_iff.mp hrule
    exact hfront.length_le

/-- A replacement keeps a text in which nothing to be replaced begins, whatever is behind it. -/
theorem replaceAll_append_of_no_start
    (h : ∀ front t, a = front ++ t → t ≠ [] → ¬old <+: t ++ b) :
    replaceAll old new (a ++ b) = a ++ replaceAll old new b := by
  rw [replaceAll_eq_substitute, replaceAll_eq_substitute]
  refine substitute_append_of_declines fun front t hsplit ht => ?_
  rw [replaceFront, if_neg]
  exact fun hfront => h front t hsplit ht (List.isPrefixOf_iff_prefix.mp hfront)

/-- What stands at the front is replaced. -/
theorem replaceAll_old_append (hne : old ≠ []) (b : List α) :
    replaceAll old new (old ++ b) = new ++ replaceAll old new b := by
  rw [replaceAll_eq_substitute, replaceAll_eq_substitute]
  refine substitute_append_of_answer hne ?_
  exact replaceFront_eq_some_iff.mpr ⟨List.prefix_append old b, rfl, rfl⟩

/-- A replacement joins the pieces between the old separators by new ones. -/
theorem replaceAll_eq_intercalate {list : List α} {pieces : List (List α)} (hne : old ≠ [])
    (h : IsSplit old list pieces) : replaceAll old new list = new.intercalate pieces := by
  induction pieces generalizing list with
  | nil => exact absurd rfl h.ne_nil
  | cons piece pieces ih =>
    cases pieces with
    | nil =>
      obtain ⟨rfl, hpiece⟩ := isSplit_singleton_iff.mp h
      rw [replaceAll_eq_self hpiece, List.intercalate_singleton]
    | cons next pieces =>
      obtain ⟨rest, rfl, hpiece, hrest⟩ := (isSplit_cons_iff (by simp)).mp h
      have hstart : ∀ front t, piece = front ++ t → t ≠ [] → ¬old <+: t ++ (old ++ rest) := by
        intro front t hsplit ht hprefix
        -- what begins in the piece would end before the separator behind it does
        refine endsFirst_iff.mp hpiece front t hsplit ht ?_
        rw [← List.append_assoc] at hprefix
        exact List.prefix_of_prefix_length_le hprefix (List.prefix_append _ _) (by simp)
      rw [replaceAll_append_of_no_start hstart, replaceAll_old_append hne, ih hrest,
        List.intercalate_cons_cons, List.append_assoc]

/-- A replacement works on its own on either side of a character that is not in what it replaces. -/
theorem replaceAll_append_cons (hne : old ≠ []) (hc : c ∉ old) (a b : List α) :
    replaceAll old new (a ++ c :: b) = replaceAll old new a ++ c :: replaceAll old new b := by
  have hfront : ¬old <+: c :: b := by
    rw [← List.nil_append (c :: b), prefix_append_cons_iff hc, List.prefix_nil]
    exact hne
  rw [← replaceAll_cons_of_not_front hfront]
  refine replaceAll_append fun u v hsplit _ hv _ hprefix => hc ?_
  rw [hsplit]
  exact List.mem_append_right u (mem_of_prefix_cons hv hprefix)

/-- A replacement works on each piece of a text on its own. -/
theorem replaceAll_intercalate (hne : old ≠ []) (hc : c ∉ old) (pieces : List (List α)) :
    replaceAll old new ([c].intercalate pieces)
      = [c].intercalate (pieces.map (replaceAll old new)) := by
  induction pieces with
  | nil => exact replaceAll_eq_self (by simpa using hne)
  | cons piece pieces ih =>
    cases pieces with
    | nil => simp
    | cons next pieces =>
      rw [List.intercalate_cons_cons, List.append_assoc, List.singleton_append,
        replaceAll_append_cons hne hc, ih]
      simp only [List.map_cons, List.intercalate_cons_cons, List.append_assoc,
        List.singleton_append]

end

/-! ## Sizes -/

/-- A pass makes a text no larger if no answer is larger than what it covers. -/
theorem byteLength_substitute_le {rule : Rule Char Char}
    (h : ∀ t new count, rule t = some (new, count) → byteLength new ≤ byteLength (t.take count))
    (t : Text) : byteLength (substitute rule t) ≤ byteLength t := by
  refine substitute_induction (P := fun t u => byteLength u ≤ byteLength t) (Nat.le_refl _) ?_ ?_ t
  · intro c t _ ih
    simp only [byteLength_cons]
    omega
  · intro c t new count hrule ih
    have hnew := h _ _ _ hrule
    -- what the answer covers and what the pass goes on with are parts of the text
    have hcovered : byteLength (List.take count (c :: t))
        ≤ c.utf8Size + byteLength (t.take (count - 1)) := by
      cases count <;> simp
    have hparts : byteLength (t.take (count - 1)) + byteLength (t.drop (count - 1))
        = byteLength t := by
      rw [← byteLength_append, List.take_append_drop]
    simp only [byteLength_append, byteLength_cons]
    omega

/-- A replacement by something smaller makes a text smaller, or there is nothing to replace. -/
theorem byteLength_replaceAll_lt_or {old new : Text} (hne : old ≠ [])
    (hlt : byteLength new < byteLength old) (t : Text) :
    byteLength (replaceAll old new t) < byteLength t ∨ ¬old <:+: t := by
  induction hn : t.length using Nat.strongRecOn generalizing t with
  | ind n ih =>
    cases t with
    | nil => exact .inr (by rw [List.infix_nil]; exact hne)
    | cons c t =>
      rw [List.length_cons] at hn
      by_cases hfront : old <+: c :: t
      · left
        have hrest : byteLength (replaceAll old new (t.drop (old.length - 1)))
            ≤ byteLength (t.drop (old.length - 1)) := by
          rcases ih _ (by rw [List.length_drop]; omega) (t.drop (old.length - 1)) rfl with hless | hnot
          · exact hless.le
          · rw [replaceAll_eq_self hnot]
        rw [replaceAll_cons_of_front hfront, eq_append_drop_of_isPrefixOf hne
          (List.isPrefixOf_iff_prefix.mpr hfront), byteLength_append, byteLength_append]
        omega
      · rw [replaceAll_cons_of_not_front hfront, List.infix_cons_iff, byteLength_cons,
          byteLength_cons]
        rcases ih t.length (by omega) t rfl with hless | hnot
        · exact .inl (by omega)
        · exact .inr fun hinfix => hinfix.elim hfront hnot

/-- There, a text comes back as it is only if there is nothing to replace. -/
theorem replaceAll_eq_self_iff {old new : Text} (hne : old ≠ [])
    (hlt : byteLength new < byteLength old) {t : Text} :
    replaceAll old new t = t ↔ ¬old <:+: t := by
  refine ⟨fun h => ?_, replaceAll_eq_self⟩
  rcases byteLength_replaceAll_lt_or hne hlt t with hless | hnot
  · rw [h] at hless
    omega
  · exact hnot

end PackedScript.Text

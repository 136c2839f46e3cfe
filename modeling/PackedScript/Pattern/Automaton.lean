import PackedScript.Pattern.Search

/-!
# The engine of programs

`automaton` is the engine that reads patterns with `Node.read?` and searches with the programs they
are written to. Its notation is a part of what other engines read, and its limit is one of its own:

* classes by name, such as `\p` with a property, and the flag that switches `u` off are refused;
* a pattern is too large if its program is longer than `Pattern.sizeLimit`, where others count the
  bytes of what they build, and so refuse some of the repetitions that are read here;
* what is wrong with a pattern is not put into words.

What is found stands in the searched text, for each search goes on in the text behind the last match
(`Within.next`).
-/

namespace PackedScript.Pattern

theorem isInfix_between (t : Text) (start stop : Nat) : between t start stop <:+: t :=
  (List.take_prefix _ _).isInfix.trans (List.drop_suffix _ _).isInfix

/-- What a match holds stands in the text, whatever its places are. -/
theorem Match.found_standsIn (m : Match) (t : Text) : (m.found t).StandsIn t := by
  refine ⟨isInfix_between t m.start m.stop, fun content hcontent => ?_⟩
  obtain ⟨⟨start, stop⟩, -, rfl⟩ := Option.map_eq_some_iff.mp hcontent
  exact isInfix_between t start stop

/-- The loop looks for matches in what is left of `page`, and what it has found stands in `page`. -/
structure Within (page t : Text) (found : List Found) : Prop where
  suffix : t <:+ page
  found : ∀ f ∈ found, f.StandsIn page

/-- A match in what is left is found as well, and less is left behind it. -/
theorem Within.next {page t : Text} {found : List Found} (h : Within page t found) (m : Match) :
    Within page (t.drop m.stop) (m.found t :: found) where
  suffix := (List.drop_suffix _ _).trans h.suffix
  found := by
    intro f hf
    rcases List.mem_cons.mp hf with rfl | hf
    · have hm := m.found_standsIn t
      have hpage := h.suffix.isInfix
      exact ⟨hm.whole.trans hpage, fun content hcontent => (hm.group content hcontent).trans hpage⟩
    · exact h.found f hf

theorem standsIn_of_mem_allLoop (pattern : Pattern) {page : Text} :
    ∀ (fuel : Nat) (fresh : Bool) (before : Option Char) (t : Text) (found : List Found),
      Within page t found →
        ∀ f ∈ allLoop pattern fuel fresh before t found, f.StandsIn page := by
  intro fuel
  induction fuel with
  | zero =>
    intro fresh before t found h f hf
    exact h.found f (List.mem_reverse.mp hf)
  | succ fuel ih =>
    intro fresh before t found h f hf
    unfold allLoop at hf
    split at hf
    next => exact h.found f (List.mem_reverse.mp hf)
    next m _ =>
      split at hf
      next =>
        -- an empty match where the last one ended: the search goes on one character further
        cases t with
        | nil => exact h.found f (List.mem_reverse.mp hf)
        | cons c rest =>
          dsimp only at hf
          have hrest : Within page rest found := ⟨(List.suffix_cons c rest).trans h.suffix, h.found⟩
          split at hf
          next => exact h.found f (List.mem_reverse.mp hf)
          next m _ => exact ih _ _ _ _ (hrest.next m) f hf
      next => exact ih _ _ _ _ (h.next m) f hf

theorem standsIn_of_mem_all {pattern : Pattern} {t : Text} {found : Found}
    (h : found ∈ pattern.all t) : found.StandsIn t := by
  have hstart : Within t t [] := ⟨List.suffix_refl t, fun _ hf => nomatch hf⟩
  exact standsIn_of_mem_allLoop pattern _ _ _ _ _ hstart found h

/-- The engine of programs. -/
instance automaton : Engine where
  Pattern := Pattern
  read caseless t :=
    match ofText? caseless t with
    | some pattern => .ok pattern
    | none => .error ""
  first? := first?
  all := all
  standsIn_of_mem_all := standsIn_of_mem_all

end PackedScript.Pattern

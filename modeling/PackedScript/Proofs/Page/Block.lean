import PackedScript.Pattern.Automaton
import PackedScript.Proofs.Page.Flatten
import PackedScript.Proofs.Text.Cut
import PackedScript.Unpacker

/-!
# The call site of a page

Two texts have the same letters if they differ in nothing but case, and the reader of a block reads
exactly the texts with the letters of its literal (`afterCaseless?_eq_some_iff`). A block ends with
the first end of a script that a closing parenthesis precedes, so a call site without an end of a
script is the block whose start is its own (`standardBlock?_site`). Together with the borders of the
flattening that makes the page around a flat call site irrelevant: the page is unpacked like the call
site (`unpackPage_site`).
-/

namespace PackedScript

namespace Page

open Text

/-! ## Letters regardless of case -/

/-- Two texts that differ in nothing but the case of their letters. -/
def SameLetters (s t : Text) : Prop := s.map Unicode.simpleFold = t.map Unicode.simpleFold

theorem SameLetters.refl (t : Text) : SameLetters t t := rfl

theorem SameLetters.length_eq {s t : Text} (h : SameLetters s t) : s.length = t.length := by
  simpa using congrArg List.length h

/-- A character whose case a text does not have in any form is not in a text of the same letters. -/
theorem SameLetters.notMem {s t : Text} {c : Char} (h : SameLetters s t)
    (hc : Unicode.simpleFold c ∉ s.map Unicode.simpleFold) : c ∉ t := by
  intro hmem
  rw [h] at hc
  exact hc (List.mem_map_of_mem hmem)

theorem sameLetters_cons {x y : Char} {s t : Text} :
    SameLetters (x :: s) (y :: t) ↔ Unicode.sameFold x y = true ∧ SameLetters s t := by
  simp [SameLetters, Unicode.sameFold]

/-- What is read in the place of a literal has the letters of the literal. -/
theorem afterCaseless?_eq_some_iff {lit t w rest : Text} :
    afterCaseless? lit t = some (w, rest) ↔ t = w ++ rest ∧ SameLetters lit w := by
  induction lit generalizing t w with
  | nil =>
    simp only [afterCaseless?, Option.some.injEq, Prod.mk.injEq, SameLetters, List.map_nil]
    constructor
    · rintro ⟨rfl, rfl⟩
      exact ⟨rfl, rfl⟩
    · rintro ⟨ht, hw⟩
      obtain rfl := List.map_eq_nil_iff.mp hw.symm
      exact ⟨rfl, ht⟩
  | cons x lit ih =>
    cases t with
    | nil =>
      simp only [afterCaseless?, reduceCtorEq, false_iff]
      rintro ⟨ht, hw⟩
      obtain ⟨rfl, -⟩ := List.append_eq_nil_iff.mp ht.symm
      simpa using hw.length_eq
    | cons y t =>
      rw [afterCaseless?]
      constructor
      · intro h
        split at h
        · next hxy =>
          obtain ⟨⟨w', rest'⟩, hread, heq⟩ := Option.map_eq_some_iff.mp h
          obtain ⟨rfl, rfl⟩ := Prod.mk.inj heq
          obtain ⟨rfl, hletters⟩ := ih.mp hread
          exact ⟨rfl, sameLetters_cons.mpr ⟨hxy, hletters⟩⟩
        · cases h
      · rintro ⟨ht, hletters⟩
        cases w with
        | nil => simpa using hletters.length_eq
        | cons z w =>
          rw [List.cons_append] at ht
          obtain ⟨rfl, rfl⟩ := List.cons.inj ht
          obtain ⟨hxy, hletters⟩ := sameLetters_cons.mp hletters
          rw [if_pos hxy, ih.mpr ⟨rfl, hletters⟩]
          rfl

/-- Somewhere in a text stands a literal, regardless of case. -/
def Stands (lit t : Text) : Prop := ∃ w, SameLetters lit w ∧ w <:+: t

/-- In a text of two parts stands a literal that starts in the first one, regardless of case. -/
def StartsIn (lit first second : Text) : Prop :=
  ∃ front rest w, first = front ++ rest ∧ rest ≠ [] ∧ SameLetters lit w ∧ w <+: rest ++ second

theorem not_stands_of_cutFirst {lit t : Text} (h : cutFirst (afterCaseless? lit) t = none) :
    ¬Stands lit t := by
  rintro ⟨w, hletters, hstands⟩
  refine not_infix_of_cutFirst (fun rest hnone => ?_) h hstands
  rw [afterCaseless?_eq_some_iff.mpr ⟨rfl, hletters⟩] at hnone
  cases hnone

theorem not_startsIn_of_cutFirst {lit first second : Text} {found : Text × Text}
    (h : cutFirst (afterCaseless? lit) (first ++ second) = some (first, found)) :
    ¬StartsIn lit first second := by
  rintro ⟨front, rest, w, hsplit, hrest, hletters, behind, hw⟩
  obtain ⟨post, hpost, -, hfirst⟩ := cutFirst_eq_some_iff.mp h
  obtain rfl := List.append_cancel_left hpost
  have hread := hfirst front rest hsplit hrest
  rw [afterCaseless?_eq_some_iff.mpr ⟨hw.symm, hletters⟩] at hread
  cases hread

/-! ## The standard block -/

/-- The first start of a call in a text is that of a call site if none starts before it. -/
theorem cutFirst_blockStart {before middle : Text} (behind : Text)
    (hbefore : ¬StartsIn blockStart before (site middle)) :
    cutFirst (afterCaseless? blockStart) (before ++ (site middle ++ behind))
      = some (before, blockStart, middle ++ ')' :: behind) := by
  have htext : site middle ++ behind = blockStart ++ (middle ++ ')' :: behind) := by simp [site]
  have hsite := afterCaseless?_eq_some_iff.mpr ⟨htext, SameLetters.refl blockStart⟩
  refine cutFirst_eq_some_iff.mpr ⟨site middle ++ behind, rfl, hsite, fun front mid hsplit hmid => ?_⟩
  rw [Option.eq_none_iff_forall_ne_some]
  rintro ⟨w, rest⟩ hread
  obtain ⟨hw, hletters⟩ := afterCaseless?_eq_some_iff.mp hread
  -- an earlier start is no longer than this one, so it ends within the call site
  have hlength : w.length ≤ (mid ++ site middle).length := by
    rw [← hletters.length_eq, List.length_append, site, List.length_append]
    omega
  have hprefix : w <+: mid ++ site middle := by
    refine List.prefix_of_prefix_length_le ⟨rest, hw.symm⟩ ?_ hlength
    rw [← List.append_assoc]
    exact List.prefix_append _ _
  exact hbefore ⟨front, mid, w, hsplit, hmid, hletters, hprefix⟩

theorem blockEnd_eq : blockEnd = ')' :: scriptEnd := by decide

/-- The first end of a block is where no end of a script is before it. -/
theorem cutFirst_blockEnd {body : Text} (behind : Text) (hbody : ¬Stands scriptEnd body) :
    cutFirst (afterCaseless? blockEnd) (body ++ (blockEnd ++ behind))
      = some (body, blockEnd, behind) := by
  refine cutFirst_eq_some_iff.mpr ⟨blockEnd ++ behind, rfl,
    afterCaseless?_eq_some_iff.mpr ⟨rfl, .refl _⟩, fun front mid hsplit hmid => ?_⟩
  rw [Option.eq_none_iff_forall_ne_some]
  rintro ⟨w, rest⟩ hread
  obtain ⟨hw, hletters⟩ := afterCaseless?_eq_some_iff.mp hread
  rw [blockEnd_eq] at hw hletters
  cases w with
  | nil => cases hletters.length_eq
  | cons d ending =>
    cases mid with
    | nil => exact hmid rfl
    | cons e mid =>
      obtain ⟨-, hending⟩ := sameLetters_cons.mp hletters
      obtain ⟨-, htail⟩ := List.cons.inj hw
      -- the closing parenthesis of the block keeps an earlier end of a script apart from its own
      have hnot : ')' ∉ ending := hending.notMem (by decide +kernel)
      have hprefix : ending <+: mid :=
        (prefix_append_cons_iff (b := scriptEnd ++ behind) hnot).mp ⟨rest, htail.symm⟩
      have hinfix : mid <:+: body := by
        rw [hsplit]
        exact ((List.suffix_cons e mid).trans (List.suffix_append front _)).isInfix
      exact hbody ⟨ending, hending, hprefix.isInfix.trans hinfix⟩

/-- The standard block of a text around a call site is the call site. -/
theorem standardBlock?_site {before middle : Text} (behind : Text) (hmiddle : middle ≠ [])
    (hbefore : ¬StartsIn blockStart before (site middle)) (hend : ¬Stands scriptEnd (site middle)) :
    standardBlock? (before ++ (site middle ++ scriptEnd ++ behind)) = some (site middle) := by
  have hstart := cutFirst_blockStart (scriptEnd ++ behind) hbefore
  cases middle with
  | nil => exact absurd rfl hmiddle
  | cons c body =>
    have hbody : ¬Stands scriptEnd body := by
      rintro ⟨w, hletters, hw⟩
      refine hend ⟨w, hletters, hw.trans ⟨blockStart ++ [c], [')'], ?_⟩⟩
      simp [site]
    have hstop := cutFirst_blockEnd behind hbody
    rw [List.append_assoc, standardBlock?, hstart]
    simp only [Option.bind_eq_bind, Option.bind_some, List.cons_append]
    rw [← List.cons_append, ← blockEnd_eq, hstop]
    simp [site]

end Page

/-! ## Unpacking a page -/

theorem Reporter.watch_ofExcept_ok {α : Type} (reporter : Reporter) (a : α) :
    reporter.watch (Run.ofExcept (.ok a)) = Run.ofExcept (.ok a) := rfl

theorem Run.ofExcept_ok_bind {α β : Type} (a : α) (next : α → Run β) :
    (Run.ofExcept (.ok a) >>= next) = next a := rfl

namespace Unpacker

open Page

/-- A page with a flat call site and the end of its script behind it is unpacked like the call site,
with the same lines in the log and the same reports, if no end of a script stands in the call site
and no start of a call before it. -/
theorem unpackPage_site [Engine] (u : Unpacker) {pre middle post : Text} (hmiddle : middle ≠ [])
    (hflat : flatten (site middle) = site middle) (hend : ¬Stands scriptEnd (site middle))
    (hpre : ¬StartsIn blockStart (flatten pre) (site middle))
    (hsize : Text.byteLength (pre ++ (site middle ++ scriptEnd ++ post)) ≤ u.options.maxLength) :
    u.unpackPage (pre ++ (site middle ++ scriptEnd ++ post)) none
      = u.unpackUnchecked (site middle) := by
  have hcheck : u.options.check (pre ++ (site middle ++ scriptEnd ++ post)) = .ok () :=
    if_neg (by omega)
  have hblock : Page.block none (pre ++ (site middle ++ scriptEnd ++ post))
      = .ok (some (site middle)) := by
    rw [Page.block, keeps_flatten hflat, standardBlock?_site _ hmiddle hpre hend]
  rw [unpackPage, hcheck, hblock]
  simp only [Reporter.watch_ofExcept_ok, Run.ofExcept_ok_bind]

/-- A page with entities and line breaks around the call, and with parts of starts of calls. -/
theorem unpackPage_site_entities :
    Unpacker.unpackPage ⟨⟨true, 200⟩, .log⟩
        ("<p title=&quot;EVAL(FUNCTION&quot;>\r\n<script>".toList
          ++ (site ",d)\x7b\x7d('0 1',10,3,'a|b'.split('|'))".toList ++ scriptEnd
            ++ "\t&amp;quot;eval(function(p,a,c</script>".toList)) none
      = Unpacker.unpackUnchecked ⟨⟨true, 200⟩, .log⟩
        (site ",d)\x7b\x7d('0 1',10,3,'a|b'.split('|'))".toList) := by
  have hstart : Text.cutFirst (afterCaseless? blockStart)
      (flatten "<p title=&quot;EVAL(FUNCTION&quot;>\r\n<script>".toList
        ++ site ",d)\x7b\x7d('0 1',10,3,'a|b'.split('|'))".toList)
      = some (flatten "<p title=&quot;EVAL(FUNCTION&quot;>\r\n<script>".toList, blockStart,
        ",d)\x7b\x7d('0 1',10,3,'a|b'.split('|')))".toList) := by
    decide +kernel
  exact unpackPage_site ⟨⟨true, 200⟩, .log⟩ (by decide) (by decide +kernel)
    (not_stands_of_cutFirst (by decide +kernel)) (not_startsIn_of_cutFirst hstart)
    (by decide +kernel)

end Unpacker

end PackedScript

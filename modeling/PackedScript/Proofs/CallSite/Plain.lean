import PackedScript.CallSite.Extract
import PackedScript.Proofs.Text.Substitute

/-!
# Plain scripts and escaped quotes

Making a script plain undoes `Escaped`, which puts a backslash before any of its single quotes, and
leaves alone a script without the placeholder of the radix (`plain_of_escaped`).
-/

namespace PackedScript.CallSite

open Text

/-- The placeholder of the radix with the commas around it. -/
def placeholder : Text := [',', '[', ']', ',']

/-- An escaped single quote. -/
def escapedQuote : Text := ['\\', '\'']

/-- The second text is the first one with a backslash before some of its single quotes. -/
inductive Escaped : Text → Text → Prop where
  | nil : Escaped [] []
  | keep (c : Char) {t t' : Text} (h : Escaped t t') : Escaped (c :: t) (c :: t')
  | escape {t t' : Text} (h : Escaped t t') : Escaped ('\'' :: t) ('\\' :: '\'' :: t')

namespace Escaped

theorem refl (t : Text) : Escaped t t := by
  induction t with
  | nil => exact .nil
  | cons c t ih => exact .keep c ih

theorem append {s s' t t' : Text} (hs : Escaped s s') (ht : Escaped t t') :
    Escaped (s ++ t) (s' ++ t') := by
  induction hs with
  | nil => exact ht
  | keep c _ ih => exact .keep c ih
  | escape _ ih => exact .escape ih

/-- Escapes put no text without a backslash at the front. -/
theorem prefix_unescaped {lit t t' : Text} (h : Escaped t t') (hlit : '\\' ∉ lit)
    (hstarts : lit <+: t') : lit <+: t := by
  induction h generalizing lit with
  | nil => exact hstarts
  | keep c _ ih =>
    cases lit with
    | nil => exact List.nil_prefix
    | cons d lit =>
      obtain ⟨rfl, htail⟩ := List.cons_prefix_cons.mp hstarts
      exact List.cons_prefix_cons.mpr ⟨rfl, ih (fun hmem => hlit (List.mem_cons_of_mem _ hmem)) htail⟩
  | escape _ _ =>
    cases lit with
    | nil => exact List.nil_prefix
    | cons d lit =>
      obtain ⟨rfl, -⟩ := List.cons_prefix_cons.mp hstarts
      exact absurd List.mem_cons_self hlit

/-- Escapes put no text without a backslash anywhere. -/
theorem infix_unescaped {lit t t' : Text} (h : Escaped t t') (hlit : '\\' ∉ lit)
    (hstands : lit <:+: t') : lit <:+: t := by
  induction h with
  | nil => exact hstands
  | keep c htail ih =>
    rcases List.infix_cons_iff.mp hstands with hfront | hrest
    · exact ((Escaped.keep c htail).prefix_unescaped hlit hfront).isInfix
    · exact List.infix_cons_iff.mpr (.inr (ih hrest))
  | escape htail ih =>
    rcases List.infix_cons_iff.mp hstands with hfront | hbehind
    · exact ((Escaped.escape htail).prefix_unescaped hlit hfront).isInfix
    · rcases List.infix_cons_iff.mp hbehind with hfront | hrest
      · exact ((Escaped.keep '\'' htail).prefix_unescaped hlit hfront).isInfix
      · exact List.infix_cons_iff.mpr (.inr (ih hrest))

/-- Where a backslash stands before a quote, the quote is an escaped one or the backslash stood there
before. -/
theorem replaceAll_eq {t t' : Text} (h : Escaped t t') (ht : ¬escapedQuote <:+: t) :
    replaceAll escapedQuote ['\''] t' = t := by
  induction h with
  | nil => exact replaceAll_eq_self ht
  | @keep c t t' htail ih =>
    rw [List.infix_cons_iff, not_or] at ht
    -- the quote behind a kept backslash would be a kept one too
    have hfront : ¬escapedQuote <+: c :: t' := by
      intro hstarts
      obtain ⟨rfl, hquote⟩ := List.cons_prefix_cons.mp hstarts
      exact ht.1 (List.cons_prefix_cons.mpr
        ⟨rfl, htail.prefix_unescaped (by decide) hquote⟩)
    rw [replaceAll_cons_of_not_front hfront, ih ht.2]
  | @escape t t' _ ih =>
    rw [List.infix_cons_iff, not_or] at ht
    have hfront : escapedQuote <+: '\\' :: '\'' :: t' := ⟨t', rfl⟩
    rw [replaceAll_cons_of_front hfront]
    exact congrArg ('\'' :: ·) (ih ht.2)

end Escaped

/-- Making a script plain undoes escapes of its quotes and nothing else, where the script itself has
neither a placeholder nor an escaped quote. -/
theorem plain_of_escaped {t t' : Text} (h : Escaped t t') (hplaceholder : ¬placeholder <:+: t)
    (hquote : ¬escapedQuote <:+: t) : plain t' = t := by
  have hplaceholder' : ¬placeholder <:+: t' := fun hstands =>
    hplaceholder (h.infix_unescaped (by decide) hstands)
  rw [plain]
  exact (congrArg _ (replaceAll_eq_self hplaceholder')).trans (h.replaceAll_eq hquote)

end PackedScript.CallSite

import Mathlib.Data.List.Infix
import PackedScript.Literal
import PackedScript.Proofs.Text.Class
import PackedScript.Proofs.Text.Occurrence
import PackedScript.Proofs.Text.Substitute

/-!
# Quoted texts in pieces

A quoted text may be written in pieces with joins between them. Between the two quotes of a join
stand white space and a plus sign, and no quote. So a join that begins in a piece ends with the
quote behind the piece at the latest (`joinText_prefix_append_iff`), and a piece in which none ends
is kept as it is, with any quotes and plus signs it holds. The pieces are read one by one
(`readPieces_append_join`, `readPieces_append_quote`), and the whole is their concatenation
(`read_quotedText`).
-/

namespace PackedScript.Literal

open Text

/-- A join of two pieces: the quote behind the first one, a plus sign in white space, and the quote
in front of the second one. -/
def joinText (quote : Char) (before after : Text) : Text :=
  quote :: (before ++ '+' :: (after ++ [quote]))

/-- No join stands in the piece with the quote behind it. -/
def Unjoined (quote : Char) (piece : Text) : Prop :=
  ∀ before after, Blank before → Blank after → ¬joinText quote before after <:+: piece ++ [quote]

/-- A piece that is joined to what is in front of it, with the white space around the plus sign. -/
structure Joined where
  before : Text
  after : Text
  piece : Text

/-- The piece with the join in front of it. -/
def Joined.text (quote : Char) (joined : Joined) : Text :=
  joinText quote joined.before joined.after ++ joined.piece

/-- There is white space in the join, and no join in the piece. -/
structure Joined.Proper (quote : Char) (joined : Joined) : Prop where
  before : Blank joined.before
  after : Blank joined.after
  piece : Unjoined quote joined.piece

/-- A quoted text in one piece or more. -/
def quotedText (quote : Char) (first : Text) (more : List Joined) : Text :=
  quote :: (first ++ (more.flatMap (Joined.text quote) ++ [quote]))

/-! ## Joins -/

theorem isQuote_iff {c : Char} : isQuote c = true ↔ c = '"' ∨ c = '\'' := by
  simp [isQuote]

section

variable {quote : Char}

theorem joinText_append (before after rest : Text) : joinText quote before after ++ rest
    = quote :: (before ++ '+' :: (after ++ quote :: rest)) := by
  simp [joinText]

theorem length_joinText (before after : Text) :
    (joinText quote before after).length = 3 + before.length + after.length := by
  simp only [joinText, List.length_cons, List.length_append, List.length_nil]
  omega

/-- What is read as a join is one. -/
theorem prefix_of_joinLength? {t : Text} {n : Nat} (h : joinLength? quote t = some n) :
    ∃ before after, Blank before ∧ Blank after ∧ joinText quote before after <+: t := by
  unfold joinLength? at h
  split at h
  · cases h
  · next c rest =>
    split at h
    · next hc =>
      split at h
      · next more hmore =>
        split at h
        · next d behind hbehind =>
          split at h
          · next hd =>
            refine ⟨_, _, blank_takeWhile rest, blank_takeWhile more, behind, ?_⟩
            rw [joinText_append, ← hd, ← hbehind, takeWhile_append_trimStart, ← hmore,
              takeWhile_append_trimStart, hd, hc]
          · cases h
        · cases h
      · cases h
    · cases h

/-- Where no join starts, none is read. -/
theorem joinLength?_eq_none {t : Text} (h : ∀ before after, Blank before → Blank after →
    ¬joinText quote before after <+: t) : joinLength? quote t = none := by
  rw [Option.eq_none_iff_forall_ne_some]
  intro n hn
  obtain ⟨before, after, hbefore, hafter, hstarts⟩ := prefix_of_joinLength? hn
  exact h before after hbefore hafter hstarts

variable (hquote : isQuote quote = true)

include hquote

theorem isSpace_quote : Unicode.isSpace quote = false := by
  rcases isQuote_iff.mp hquote with rfl | rfl <;> decide

/-- A join is read as one. -/
theorem joinLength?_append {before after : Text} (hbefore : Blank before) (hafter : Blank after)
    (rest : Text) : joinLength? quote (joinText quote before after ++ rest)
      = some (joinText quote before after).length := by
  have hplus : StopsAt Unicode.isSpace ('+' :: (after ++ quote :: rest)) := .cons (by decide) _
  have hstop : StopsAt Unicode.isSpace (quote :: rest) := .cons (isSpace_quote hquote) _
  rw [joinText_append, length_joinText]
  simp only [joinLength?, if_true, trimStart_append_of_stopsAt hbefore hplus,
    trimStart_append_of_stopsAt hafter hstop, takeWhile_append_of_stopsAt hbefore hplus,
    takeWhile_append_of_stopsAt hafter hstop]

/-- A join that begins in front of a quote ends there at the latest. -/
theorem joinText_prefix_append_iff {t before after : Text} (ht : t ≠ []) (hbefore : Blank before)
    (hafter : Blank after) (more : Text) :
    joinText quote before after <+: t ++ quote :: more ↔
      joinText quote before after <+: t ++ [quote] := by
  obtain ⟨x, t, rfl⟩ := List.exists_cons_of_ne_nil ht
  rw [List.append_cons]
  refine prefix_append_iff fun v hsplit hv _ => hv ?_
  -- between the quotes of a join there is none
  have hne : quote ≠ '+' := by
    rcases isQuote_iff.mp hquote with rfl | rfl <;> decide
  have hinside : quote ∉ before ++ '+' :: after := by
    have hspace := isSpace_quote hquote
    simp [hne, notMem_of_blank hspace hbefore, notMem_of_blank hspace hafter]
  have heq : (before ++ '+' :: after) ++ quote :: [] = t ++ quote :: v := by
    simpa [joinText] using (List.cons.inj hsplit).2
  exact ((List.append_cons_inj_of_notMem hinside (by simp)).mp heq).2.2.symm

end

/-! ## Pieces -/

/-- In front of the last character only joins are dropped. -/
theorem dropQuotes_of_lt {quote : Char} {t : Text} (ht : 1 < t.length) :
    dropQuotes quote t = (joinLength? quote t).map fun count => ([], count) := by
  unfold dropQuotes
  split
  · simp at ht
  · rfl

section

variable {quote : Char} (hquote : isQuote quote = true)

include hquote

/-- Whether a piece holds no join is found out by looking for one at each place. -/
theorem unjoined_iff {piece : Text} :
    Unjoined quote piece ↔ ∀ t ∈ (piece ++ [quote]).tails, joinLength? quote t = none := by
  constructor
  · intro h t ht
    have hinfix := ((List.mem_tails _ _).mp ht).isInfix
    exact joinLength?_eq_none fun before after hbefore hafter hstarts =>
      h before after hbefore hafter (hstarts.isInfix.trans hinfix)
  · rintro h before after hbefore hafter ⟨front, rest, heq⟩
    have hnone := h (joinText quote before after ++ rest)
      ((List.mem_tails _ _).mpr ⟨front, by rw [← heq, List.append_assoc]⟩)
    rw [joinLength?_append hquote hbefore hafter] at hnone
    cases hnone

/-- In a piece without joins nothing is dropped. -/
theorem dropQuotes_eq_none {piece : Text} (hpiece : Unjoined quote piece) {front t : Text}
    (hsplit : piece = front ++ t) (ht : t ≠ []) (more : Text) :
    dropQuotes quote (t ++ quote :: more) = none := by
  have hjoin : joinLength? quote (t ++ quote :: more) = none := by
    refine joinLength?_eq_none fun before after hbefore hafter hstarts => ?_
    have hinside := (joinText_prefix_append_iff hquote ht hbefore hafter more).mp hstarts
    refine hpiece before after hbefore hafter (hinside.isInfix.trans ?_)
    rw [hsplit, List.append_assoc]
    exact (List.suffix_append _ _).isInfix
  have hlt : 1 < (t ++ quote :: more).length := by
    have hpos := List.length_pos_iff.mpr ht
    simp only [List.length_append, List.length_cons]
    omega
  rw [dropQuotes_of_lt hlt, hjoin, Option.map_none]

/-- The quote behind the last piece is dropped. -/
theorem readPieces_append_quote {piece : Text} (hpiece : Unjoined quote piece) :
    readPieces quote (piece ++ [quote]) = piece := by
  have hlast : substitute (dropQuotes quote) [quote] = [] := by
    simp [substitute_cons, dropQuotes]
  rw [readPieces, substitute_append_of_declines fun front t hsplit ht =>
    dropQuotes_eq_none hquote hpiece hsplit ht [], hlast, List.append_nil]

/-- The join behind a piece is dropped. -/
theorem readPieces_append_join {piece before after : Text} (hpiece : Unjoined quote piece)
    (hbefore : Blank before) (hafter : Blank after) (rest : Text) :
    readPieces quote (piece ++ (joinText quote before after ++ rest))
      = piece ++ readPieces quote rest := by
  have hne : joinText quote before after ≠ [] := by simp [joinText]
  have hanswer : dropQuotes quote (joinText quote before after ++ rest)
      = some ([], (joinText quote before after).length) := by
    have hlt : 1 < (joinText quote before after ++ rest).length := by
      rw [List.length_append, length_joinText]
      omega
    rw [dropQuotes_of_lt hlt, joinLength?_append hquote hbefore hafter, Option.map_some]
  have hdeclines : ∀ front t, piece = front ++ t → t ≠ [] →
      dropQuotes quote (t ++ (joinText quote before after ++ rest)) = none := by
    intro front t hsplit ht
    rw [joinText_append]
    exact dropQuotes_eq_none hquote hpiece hsplit ht _
  rw [readPieces, substitute_append_of_declines hdeclines,
    substitute_append_of_answer hne hanswer, List.nil_append, readPieces]

/-- Pieces with joins between them are read as their concatenation. -/
theorem readPieces_append_flatMap {first : Text} {more : List Joined}
    (hfirst : Unjoined quote first) (hmore : ∀ joined ∈ more, joined.Proper quote) :
    readPieces quote (first ++ (more.flatMap (Joined.text quote) ++ [quote]))
      = first ++ more.flatMap Joined.piece := by
  induction more generalizing first with
  | nil =>
    rw [List.flatMap_nil, List.nil_append, List.flatMap_nil, List.append_nil]
    exact readPieces_append_quote hquote hfirst
  | cons joined more ih =>
    obtain ⟨hjoined, hmore⟩ := List.forall_mem_cons.mp hmore
    rw [List.flatMap_cons, List.flatMap_cons, Joined.text, List.append_assoc, List.append_assoc,
      readPieces_append_join hquote hfirst hjoined.before hjoined.after, ih hjoined.piece hmore]

end

/-- A quoted text is read as the concatenation of its pieces, whatever white space is around the
joins and around the whole. -/
theorem read_quotedText {quote : Char} {lead trail first : Text} {more : List Joined}
    (hquote : isQuote quote = true) (hlead : Blank lead) (htrail : Blank trail)
    (hfirst : Unjoined quote first) (hmore : ∀ joined ∈ more, joined.Proper quote) :
    read (lead ++ (quotedText quote first more ++ trail)) = first ++ more.flatMap Joined.piece := by
  have htrim : trim (lead ++ (quotedText quote first more ++ trail)) = quotedText quote first more := by
    have hconcat : quotedText quote first more
        = (quote :: (first ++ more.flatMap (Joined.text quote))) ++ [quote] := by
      simp [quotedText]
    refine trim_append_of_stopsAt hlead htrail (.cons (isSpace_quote hquote) _) ?_
    rw [hconcat, List.reverse_concat]
    exact .cons (isSpace_quote hquote) _
  rw [read, htrim, ← readPieces_append_flatMap hquote hfirst hmore]
  rcases isQuote_iff.mp hquote with rfl | rfl <;> rfl

/-- A piece that is a plus sign, one that starts with a plus sign and a quote, and an empty one. -/
theorem read_quotedText_plus :
    read " \"+\"  +\n\"+\"x'\" + \"\"\t".toList = "++\"x'".toList := by
  have hquote : isQuote '"' = true := by decide
  have hfirst : Unjoined '"' ['+'] := (unjoined_iff hquote).mpr (by decide)
  have hmore : ∀ joined ∈ [(⟨[' ', ' '], ['\n'], ['+', '"', 'x', '\'']⟩ : Joined),
      ⟨[' '], [' '], []⟩], joined.Proper '"' := by
    simp only [List.forall_mem_cons]
    refine ⟨⟨by decide, by decide, (unjoined_iff hquote).mpr (by decide)⟩,
      ⟨by decide, by decide, (unjoined_iff hquote).mpr (by decide)⟩, by simp⟩
  have htext : " \"+\"  +\n\"+\"x'\" + \"\"\t".toList = [' '] ++ (quotedText '"' ['+']
      [⟨[' ', ' '], ['\n'], ['+', '"', 'x', '\'']⟩, ⟨[' '], [' '], []⟩] ++ ['\t']) := by
    decide
  rw [htext, read_quotedText hquote (by decide) (by decide) hfirst hmore]
  decide

end PackedScript.Literal

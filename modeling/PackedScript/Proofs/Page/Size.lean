import PackedScript.Proofs.Page.Block
import PackedScript.Proofs.Text.Occurrence

/-!
# A block is no larger than its page

What an engine finds in a text is a part of it. The standard block is not always a part: its last
character is a closing parenthesis of its own, in the place of the end that was read. Either way a
block has no more bytes than the flattened page, and flattening only takes bytes away
(`byteLength_block_le`).
-/

namespace PackedScript

theorem Text.byteLength_le_of_infix {s t : Text} (h : s <:+: t) : byteLength s ≤ byteLength t := by
  obtain ⟨before, behind, rfl⟩ := h
  simp only [byteLength_append]
  omega

namespace Page

open Text

/-- The closing parenthesis of a standard block takes the place of an end that has a byte at
least. -/
theorem byteLength_standardBlock?_le {t source : Text} (h : standardBlock? t = some source) :
    byteLength source ≤ byteLength t := by
  obtain ⟨⟨pre, start, rest⟩, hstart, hrest⟩ := Option.bind_eq_some_iff.mp h
  obtain ⟨front, rfl, hfront⟩ := exists_of_cutFirst hstart
  obtain ⟨rfl, -⟩ := afterCaseless?_eq_some_iff.mp hfront
  cases rest with
  | nil => cases hrest
  | cons c rest =>
    obtain ⟨⟨body, ending, behind⟩, hend, hsource⟩ := Option.bind_eq_some_iff.mp hrest
    obtain ⟨back, rfl, hback⟩ := exists_of_cutFirst hend
    obtain ⟨rfl, hending⟩ := afterCaseless?_eq_some_iff.mp hback
    obtain rfl := Option.some.inj hsource
    have hbyte : 1 ≤ byteLength ending := by
      cases ending with
      | nil => cases hending.length_eq
      | cons d ending =>
        have hd := Char.utf8Size_pos d
        rw [byteLength_cons]
        omega
    have hparenthesis : byteLength [')'] = 1 := rfl
    simp only [byteLength_append, byteLength_cons, hparenthesis]
    omega

/-- A block of a page, standard or not, is no larger than the page. -/
theorem byteLength_block_le [Engine] {pattern? : Option Text} {page source : Text}
    (h : block pattern? page = .ok (some source)) : byteLength source ≤ byteLength page := by
  refine le_trans ?_ (byteLength_flatten_le page)
  cases pattern? with
  | none =>
    have hstandard := Except.ok.inj h
    exact byteLength_standardBlock?_le hstandard
  | some text =>
    unfold block firstBlock blocks at h
    cases hread : Engine.read true text with
    | error fault => simp [hread, Except.map] at h
    | ok pattern =>
      simp only [hread, Except.map, Except.ok.injEq] at h
      have hmem := (List.mem_filter.mp (List.mem_of_head? h)).1
      obtain ⟨found, hfound, rfl⟩ := List.mem_map.mp hmem
      exact byteLength_le_of_infix (Engine.standsIn_of_mem_all hfound).content

end Page

end PackedScript

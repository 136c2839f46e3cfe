import PackedScript.Proofs.Numeral.Written
import PackedScript.Proofs.Payload.Words

/-!
# Texts with places for words

A packer takes the words out of a script and writes numerals in their places. The script and the
payload are then one template, filled in in two ways, and decoding turns the one filling into the
other (`decode_fill`, `decode_packed`).
-/

namespace PackedScript.Payload

open Text

/-- A text with places for words: what stands before the first place, and for each place the index
of its word with what stands behind it. -/
structure Template where
  front : Text
  places : List (Nat × Text)

namespace Template

/-- The template with a word for each index. -/
def fill (word : Nat → Text) (template : Template) : Text :=
  template.front ++ template.places.flatMap fun place => word place.1 ++ place.2

theorem fill_nil (word : Nat → Text) (front : Text) : fill word ⟨front, []⟩ = front := by
  simp [fill]

theorem fill_cons (word : Nat → Text) (front gap : Text) (i : Nat) (places : List (Nat × Text)) :
    fill word ⟨front, (i, gap) :: places⟩ = front ++ (word i ++ fill word ⟨gap, places⟩) := by
  simp [fill]

/-- No word character stands outside the places, and something stands between any two of them. -/
structure Separated (template : Template) : Prop where
  front : ∀ c ∈ template.front, isWordChar c = false
  gaps : ∀ place ∈ template.places, ∀ c ∈ place.2, isWordChar c = false
  apart : ∀ place ∈ template.places.dropLast, place.2 ≠ []

/-- Behind a place that is followed by another one, no word character stands. -/
theorem stopsAt_gap {gap t : Text} (hgap : ∀ c ∈ gap, isWordChar c = false)
    (hne : gap ≠ [] ∨ t = []) : StopsAt isWordChar (gap ++ t) := by
  cases gap with
  | nil =>
    rcases hne with hne | ht
    · exact absurd rfl hne
    · rw [ht]
      simp [StopsAt]
  | cons c gap => exact .cons (hgap c List.mem_cons_self) _

/-- Words with gaps behind them are decoded to the decoded words with the same gaps. -/
theorem decode_flatMap (symbols : SymbolTable) (radix : Radix) {word : Nat → Text}
    {places : List (Nat × Text)} (hgaps : ∀ place ∈ places, ∀ c ∈ place.2, isWordChar c = false)
    (hapart : ∀ place ∈ places.dropLast, place.2 ≠ []) (hne : ∀ i, word i ≠ [])
    (hword : ∀ i, ∀ c ∈ word i, isWordChar c = true) :
    decode symbols radix (places.flatMap fun place => word place.1 ++ place.2)
      = places.flatMap fun place =>
          (symbol? symbols radix (word place.1)).getD (word place.1) ++ place.2 := by
  induction places with
  | nil => rfl
  | cons place places ih =>
    obtain ⟨i, gap⟩ := place
    have hgap : ∀ c ∈ gap, isWordChar c = false := hgaps (i, gap) List.mem_cons_self
    have hstop : StopsAt isWordChar
        (gap ++ places.flatMap fun place => word place.1 ++ place.2) := by
      refine stopsAt_gap hgap ?_
      cases places with
      | nil => exact .inr rfl
      | cons next places => exact .inl (hapart (i, gap) List.mem_cons_self)
    -- the last place of the rest is the last place of all
    have hapart' : ∀ place ∈ places.dropLast, place.2 ≠ [] := by
      intro place hplace
      cases places with
      | nil => simp at hplace
      | cons next places => exact hapart place (List.mem_cons_of_mem (i, gap) hplace)
    have hrest := ih (fun place hplace => hgaps place (List.mem_cons_of_mem _ hplace)) hapart'
    rw [List.flatMap_cons, List.flatMap_cons, List.append_assoc, List.append_assoc,
      decode_append_of_word symbols radix (hne i) (hword i) hstop,
      decode_append_of_no_word symbols radix hgap, hrest]

/-- Decoding a filled template decodes each of its words. -/
theorem decode_fill (symbols : SymbolTable) (radix : Radix) {word : Nat → Text}
    {template : Template} (hsep : template.Separated) (hne : ∀ i, word i ≠ [])
    (hword : ∀ i, ∀ c ∈ word i, isWordChar c = true) :
    decode symbols radix (template.fill word)
      = template.fill fun i => (symbol? symbols radix (word i)).getD (word i) := by
  rw [fill, decode_append_of_no_word symbols radix hsep.front,
    decode_flatMap symbols radix hsep.gaps hsep.apart hne hword, fill]

/-- What the text of a template depends on is the words of its places. -/
theorem fill_congr {template : Template} {word word' : Nat → Text}
    (h : ∀ place ∈ template.places, word place.1 = word' place.1) :
    template.fill word = template.fill word' := by
  unfold fill
  congr 1
  exact List.flatMap_congr fun place hplace => by rw [h place hplace]

/-- The payload of a packer: each place has the numeral of its index. -/
def packed (base : Nat) (template : Template) : Text := template.fill (Numeral.written base)

/-- The script of a packer: each place has the symbol of its index, or its numeral where the symbol
is empty. -/
def unpacked (base : Nat) (symbols : List Text) (template : Template) : Text :=
  template.fill fun i =>
    if symbols.getD i [] = [] then Numeral.written base i else symbols.getD i []

/-- The numeral of an index in the table becomes the symbol there. -/
theorem getD_symbol?_written {r : Radix} (hr : r.base ≤ 62) {symbols : List Text} {i : Nat}
    (hi : i < symbols.length) (hlength : symbols.length < Numeral.sizeLimit) :
    (symbol? symbols.toArray r (Numeral.written r.base i)).getD (Numeral.written r.base i)
      = if symbols.getD i [] = [] then Numeral.written r.base i else symbols.getD i [] := by
  have hget : symbols.getD i [] = symbols[i] := by simp [hi]
  rw [symbol?, Radix.decode_written hr (by omega), hget]
  simp only [List.getElem?_toArray, List.getElem?_eq_getElem hi]
  by_cases hempty : symbols[i] = []
  · simp [hempty, Option.filter_some]
  · simp [hempty, Option.filter_some]

/-- The payload of a packer is decoded to its script. -/
theorem decode_packed {r : Radix} (hr : r.base ≤ 62) {symbols : List Text} {template : Template}
    (hsep : template.Separated) (hindex : ∀ place ∈ template.places, place.1 < symbols.length)
    (hlength : symbols.length < Numeral.sizeLimit) :
    decode symbols.toArray r (template.packed r.base) = template.unpacked r.base symbols := by
  rw [packed, decode_fill symbols.toArray r hsep (Numeral.written_ne_nil r.base)
    fun i c hc => Numeral.isWordChar_of_mem_written r.two_le_base hr hc]
  exact fill_congr fun place hplace => getD_symbol?_written hr (hindex place hplace) hlength

end Template

end PackedScript.Payload

import PackedScript.Payload
import PackedScript.Proofs.Text.Class

/-!
# Words are decoded one by one

A character that is in no word is a wall for the tokens of a payload (`tokens_append_cons`), and a
run of word characters is one token (`tokens_word`). So the decoding of a payload is put together
from the decodings of its words and the text between them, and what it does is settled by what it
does to single words: `WordByWord` lists these laws, and decoding is the one function that obeys
them (`wordByWord_iff_eq_decode`). `Reworded` relates a whole payload to what it becomes, word by
word, with the text between words the same on both sides (`reworded_decode`).
-/

namespace PackedScript.Payload

open Text

theorem tokens_nil : tokens [] = [] := rfl

theorem tokens_cons_of_other {c : Char} (hc : isWordChar c = false) (t : Text) :
    tokens (c :: t) = .other c :: tokens t := by
  have hword : word (c :: t) = none := by
    rw [word, List.takeWhile_cons_of_neg (by simp [hc])]
  rw [tokens, substituteWith_cons, hword]
  rfl

/-- The word at the front of a text is one token. -/
theorem tokens_cons_of_wordChar {c : Char} (hc : isWordChar c = true) (t : Text) :
    tokens (c :: t)
      = .word ((c :: t).takeWhile isWordChar) :: tokens ((c :: t).dropWhile isWordChar) := by
  have hword : word (c :: t) = some ([.word (c :: t.takeWhile isWordChar)],
      (c :: t.takeWhile isWordChar).length) := by
    rw [word, List.takeWhile_cons_of_pos hc]
  rw [tokens, substituteWith_cons, hword, List.takeWhile_cons_of_pos hc,
    List.dropWhile_cons_of_pos hc]
  have hdrop : t.drop (t.takeWhile isWordChar).length = t.dropWhile isWordChar := by
    have happend := List.takeWhile_append_dropWhile (p := isWordChar) (l := t)
    calc t.drop (t.takeWhile isWordChar).length
        = (t.takeWhile isWordChar ++ t.dropWhile isWordChar).drop
            (t.takeWhile isWordChar).length := by rw [happend]
      _ = t.dropWhile isWordChar := List.drop_left
  simp [tokens, hdrop]

/-- The tokens before a character that is in no word do not depend on what follows it. -/
theorem tokens_append_cons {c : Char} (hc : isWordChar c = false) (a b : Text) :
    tokens (a ++ c :: b) = tokens a ++ .other c :: tokens b := by
  induction hn : a.length using Nat.strongRecOn generalizing a with
  | ind n ih =>
    cases a with
    | nil => rw [List.nil_append, tokens_cons_of_other hc, tokens_nil, List.nil_append]
    | cons x a =>
      rw [List.length_cons] at hn
      by_cases hx : isWordChar x = true
      · -- the word at the front ends before `c`, so it is the same word without what follows `c`
        have htake : (x :: (a ++ c :: b)).takeWhile isWordChar = (x :: a).takeWhile isWordChar := by
          rw [← List.cons_append, List.takeWhile_append]
          split
          · next hall =>
            rw [List.takeWhile_cons_of_neg (by simp [hc]), List.append_nil]
            exact (List.takeWhile_prefix _).eq_of_length hall |>.symm
          · rfl
        have hdrop : (x :: (a ++ c :: b)).dropWhile isWordChar
            = (x :: a).dropWhile isWordChar ++ c :: b := by
          rw [← List.cons_append, List.dropWhile_append]
          split
          · next hall =>
            rw [List.dropWhile_cons_of_neg (by simp [hc]), List.isEmpty_iff.mp hall,
              List.nil_append]
          · rfl
        have hlt : ((x :: a).dropWhile isWordChar).length < n := by
          rw [List.dropWhile_cons_of_pos hx]
          have := (List.dropWhile_suffix isWordChar (l := a)).length_le
          omega
        rw [List.cons_append, tokens_cons_of_wordChar hx, tokens_cons_of_wordChar hx, htake, hdrop,
          ih _ hlt _ rfl, List.cons_append]
      · have hx : isWordChar x = false := Bool.eq_false_iff.mpr hx
        rw [List.cons_append, tokens_cons_of_other hx, tokens_cons_of_other hx,
          ih a.length (by omega) a rfl, List.cons_append]

/-- A run of word characters is one word. -/
theorem tokens_word {w : Text} (hne : w ≠ []) (hw : ∀ c ∈ w, isWordChar c = true) :
    tokens w = [.word w] := by
  cases w with
  | nil => exact absurd rfl hne
  | cons c w =>
    rw [tokens_cons_of_wordChar (hw c List.mem_cons_self), List.takeWhile_eq_self_iff.mpr hw,
      List.dropWhile_eq_nil_iff.mpr hw, tokens_nil]

section

variable (symbols : SymbolTable) (radix : Radix)

/-- Decoding works on its own on both sides of a character that is in no word. -/
theorem decode_append_cons {c : Char} (hc : isWordChar c = false) (a b : Text) :
    decode symbols radix (a ++ c :: b) = decode symbols radix a ++ c :: decode symbols radix b := by
  rw [decode, tokens_append_cons hc, List.flatMap_append, List.flatMap_cons]
  rfl

/-- What holds no word character is kept. -/
theorem decode_append_of_no_word {gap : Text} (hgap : ∀ c ∈ gap, isWordChar c = false) (t : Text) :
    decode symbols radix (gap ++ t) = gap ++ decode symbols radix t := by
  induction gap with
  | nil => rfl
  | cons c gap ih =>
    have hfront := decode_append_cons symbols radix (hgap c List.mem_cons_self) [] (gap ++ t)
    rw [List.cons_append, List.cons_append, ← ih fun d hd => hgap d (List.mem_cons_of_mem c hd)]
    exact hfront

/-- A single word becomes its symbol, if it has one. -/
theorem decode_word {w : Text} (hne : w ≠ []) (hw : ∀ c ∈ w, isWordChar c = true) :
    decode symbols radix w = (symbol? symbols radix w).getD w := by
  rw [decode, tokens_word hne hw]
  simp [Token.decode]

/-- A word is decoded on its own, when no word character follows it. -/
theorem decode_append_of_word {w t : Text} (hne : w ≠ []) (hw : ∀ c ∈ w, isWordChar c = true)
    (ht : StopsAt isWordChar t) :
    decode symbols radix (w ++ t)
      = (symbol? symbols radix w).getD w ++ decode symbols radix t := by
  have hword := decode_word symbols radix hne hw
  cases t with
  | nil =>
    rw [List.append_nil, hword]
    exact (List.append_nil _).symm
  | cons c t =>
    have hc : isWordChar c = false := ht c rfl
    have hfront := decode_append_cons symbols radix hc [] t
    rw [decode_append_cons symbols radix hc, hword]
    exact congrArg _ hfront.symm

end

/-! ## The laws of decoding -/

section

variable {symbols : SymbolTable} {radix : Radix} {w : Text}

theorem symbol?_of_entry {i : Nat} (hi : i < symbols.size) (hdecode : radix.decode w = .ok i)
    (hne : symbols[i] ≠ []) : symbol? symbols radix w = some symbols[i] := by
  unfold symbol?
  rw [hdecode]
  show (symbols[i]?).filter (!·.isEmpty) = some symbols[i]
  rw [Array.getElem?_eq_getElem hi, Option.filter_some, if_pos (by simpa using hne)]

theorem symbol?_eq_none
    (h : ∀ i (hi : i < symbols.size), radix.decode w = .ok i → symbols[i] = []) :
    symbol? symbols radix w = none := by
  unfold symbol?
  cases hdecode : radix.decode w with
  | error fault => rfl
  | ok i =>
    show (symbols[i]?).filter (!·.isEmpty) = none
    rcases Nat.lt_or_ge i symbols.size with hi | hi
    · rw [Array.getElem?_eq_getElem hi, h i hi hdecode]
      rfl
    · rw [Array.getElem?_eq_none hi]
      rfl

end

/-- A run of word characters. -/
structure IsWord (w : Text) : Prop where
  ne_nil : w ≠ []
  wordChars : ∀ c ∈ w, isWordChar c = true

/-- What a function does that decodes payloads word by word. -/
structure WordByWord (symbols : SymbolTable) (radix : Radix) (f : Text → Text) : Prop where
  nil : f [] = []
  /-- A character that is in no word stays, and what is before it and what is behind it do not
  matter to each other. -/
  separator (a b : Text) {c : Char} : isWordChar c = false → f (a ++ c :: b) = f a ++ c :: f b
  /-- A numeral for a place with a symbol that is not empty becomes this symbol, as it is. -/
  symbol {w : Text} : IsWord w → ∀ i (hi : i < symbols.size), radix.decode w = .ok i →
    symbols[i] ≠ [] → f w = symbols[i]
  /-- Any other word stays. -/
  kept {w : Text} : IsWord w →
    (∀ i (hi : i < symbols.size), radix.decode w = .ok i → symbols[i] = []) → f w = w

namespace WordByWord

variable {symbols : SymbolTable} {radix : Radix} {f g : Text → Text}

/-- Two functions that decode word by word do the same to a word. -/
theorem eq_of_isWord (hf : WordByWord symbols radix f) (hg : WordByWord symbols radix g) {w : Text}
    (hw : IsWord w) : f w = g w := by
  by_cases hentry : ∃ i, ∃ hi : i < symbols.size, radix.decode w = .ok i ∧ symbols[i] ≠ []
  · obtain ⟨i, hi, hdecode, hne⟩ := hentry
    rw [hf.symbol hw i hi hdecode hne, hg.symbol hw i hi hdecode hne]
  · have hnone : ∀ i (hi : i < symbols.size), radix.decode w = .ok i → symbols[i] = [] := by
      intro i hi hdecode
      by_contra hne
      exact hentry ⟨i, hi, hdecode, hne⟩
    rw [hf.kept hw hnone, hg.kept hw hnone]

/-- The laws leave no choice: a payload is a word, or a separator takes it apart. -/
theorem eq (hf : WordByWord symbols radix f) (hg : WordByWord symbols radix g) (t : Text) :
    f t = g t := by
  induction hn : t.length using Nat.strongRecOn generalizing t with
  | ind n ih =>
    by_cases hall : ∀ c ∈ t, isWordChar c = true
    · by_cases hne : t = []
      · rw [hne, hf.nil, hg.nil]
      · exact eq_of_isWord hf hg ⟨hne, hall⟩
    · push Not at hall
      obtain ⟨c, hmem, hc⟩ := hall
      have hseparator : isWordChar c = false := by simpa using hc
      obtain ⟨a, b, rfl⟩ := List.append_of_mem hmem
      rw [List.length_append, List.length_cons] at hn
      rw [hf.separator a b hseparator, hg.separator a b hseparator,
        ih a.length (by omega) a rfl, ih b.length (by omega) b rfl]

end WordByWord

/-- Decoding works word by word, whatever the table and the base, and no other function does. -/
theorem wordByWord_iff_eq_decode (symbols : SymbolTable) (radix : Radix) (f : Text → Text) :
    WordByWord symbols radix f ↔ f = decode symbols radix := by
  have hdecode : WordByWord symbols radix (decode symbols radix) := by
    refine ⟨rfl, fun a b c hc => decode_append_cons symbols radix hc a b, ?_, ?_⟩
    · intro w hw i hi hnumeral hne
      rw [decode_word symbols radix hw.ne_nil hw.wordChars, symbol?_of_entry hi hnumeral hne]
      rfl
    · intro w hw hnone
      rw [decode_word symbols radix hw.ne_nil hw.wordChars, symbol?_eq_none hnone]
      rfl
  constructor
  · intro hf
    funext t
    exact hf.eq hdecode t
  · intro hf
    rw [hf]
    exact hdecode

/-! ## The text between words -/

/-- The second text is the first one with `f w` in the place of each of its words `w`. A word goes as
far as there are word characters. -/
inductive Reworded (f : Text → Text) : Text → Text → Prop where
  | nil : Reworded f [] []
  | other {c : Char} {t u : Text} (hc : isWordChar c = false) (h : Reworded f t u) :
      Reworded f (c :: t) (c :: u)
  | word {w t u : Text} (hw : IsWord w) (hstop : StopsAt isWordChar t) (h : Reworded f t u) :
      Reworded f (w ++ t) (f w ++ u)

/-- What is in no word stays, in its order. -/
theorem Reworded.filter_sublist {f : Text → Text} {t u : Text} (h : Reworded f t u) :
    (t.filter (!isWordChar ·)).Sublist u := by
  induction h with
  | nil => exact List.Sublist.refl []
  | @other c t u hc _ ih =>
    rw [List.filter_cons_of_pos (by simp [hc])]
    exact ih.cons_cons c
  | @word w t u hw _ _ ih =>
    have hnone : w.filter (!isWordChar ·) = [] := by
      rw [List.filter_eq_nil_iff]
      intro c hc
      simp [hw.wordChars c hc]
    rw [List.filter_append, hnone, List.nil_append]
    exact ih.trans (List.sublist_append_right (f w) u)

/-- Decoding puts the symbol of each word in its place, if it has one, and changes nothing else. -/
theorem reworded_decode (symbols : SymbolTable) (radix : Radix) (t : Text) :
    Reworded (fun w => (symbol? symbols radix w).getD w) t (decode symbols radix t) := by
  induction hn : t.length using Nat.strongRecOn generalizing t with
  | ind n ih =>
    cases t with
    | nil => exact .nil
    | cons c t =>
      rw [List.length_cons] at hn
      by_cases hc : isWordChar c = true
      · have hw : IsWord ((c :: t).takeWhile isWordChar) :=
          ⟨by simp [hc], fun d hd => List.mem_takeWhile_imp hd⟩
        have hstop := stopsAt_dropWhile isWordChar (c :: t)
        have hlt : ((c :: t).dropWhile isWordChar).length < n := by
          rw [List.dropWhile_cons_of_pos hc]
          have hle := (List.dropWhile_suffix isWordChar (l := t)).length_le
          omega
        rw [← List.takeWhile_append_dropWhile (p := isWordChar) (l := c :: t),
          decode_append_of_word symbols radix hw.ne_nil hw.wordChars hstop]
        exact .word hw hstop (ih _ hlt _ rfl)
      · have hother : isWordChar c = false := Bool.eq_false_iff.mpr hc
        have hfront := decode_append_cons symbols radix hother [] t
        rw [List.nil_append] at hfront
        rw [hfront]
        exact .other hother (ih t.length (by omega) t rfl)

end PackedScript.Payload

import PackedScript.Unicode.Space

/-!
# Texts

A text is the list of its characters. This module measures and trims texts, and takes a fixed text
off the front of another one. Everything here walks a text once, so it is fit for whole pages.
-/

namespace PackedScript

/-- A text: its characters in order. -/
abbrev Text := List Char

namespace Text

/-- The number of bytes of a text in UTF-8. -/
def byteLength (t : Text) : Nat := t.foldl (fun n c => n + c.utf8Size) 0

theorem foldl_utf8Size (t : Text) (n : Nat) :
    t.foldl (fun n c => n + c.utf8Size) n = n + byteLength t := by
  induction t generalizing n with
  | nil => rfl
  | cons c t ih =>
    have hc : byteLength (c :: t) = 0 + c.utf8Size + byteLength t := ih _
    rw [List.foldl_cons, ih, hc]
    omega

@[simp] theorem byteLength_nil : byteLength [] = 0 := rfl

@[simp] theorem byteLength_cons (c : Char) (t : Text) :
    byteLength (c :: t) = c.utf8Size + byteLength t := by
  rw [byteLength, List.foldl_cons, foldl_utf8Size, Nat.zero_add]

@[simp] theorem byteLength_append (s t : Text) :
    byteLength (s ++ t) = byteLength s + byteLength t := by
  induction s with
  | nil => simp
  | cons c s ih => simp [ih, Nat.add_assoc]

/-- The text without white space at its front. -/
def trimStart (t : Text) : Text := t.dropWhile Unicode.isSpace

/-- The text without white space at its end. -/
def trimEnd (t : Text) : Text := (t.reverse.dropWhile Unicode.isSpace).reverse

/-- The text without white space at its front and end. -/
def trim (t : Text) : Text := trimEnd (trimStart t)

/-- What follows `lit` in a list that starts with it. -/
def after? {α : Type} [BEq α] : (lit list : List α) → Option (List α)
  | [], rest => some rest
  | _ :: _, [] => none
  | x :: lit, y :: rest => if x == y then after? lit rest else none

theorem after?_eq_some_iff {α : Type} [BEq α] [LawfulBEq α] {lit list rest : List α} :
    after? lit list = some rest ↔ list = lit ++ rest := by
  induction lit generalizing list with
  | nil => simp [after?]
  | cons x lit ih =>
    cases list with
    | nil => simp [after?]
    | cons y list =>
      by_cases h : x = y
      · simp [after?, h, ih]
      · simp [after?, h, Ne.symm h]

@[simp] theorem after?_append {α : Type} [BEq α] [LawfulBEq α] (lit rest : List α) :
    after? lit (lit ++ rest) = some rest :=
  after?_eq_some_iff.2 rfl

/-- What follows the spaces at the front of a text. -/
def skipSpaces (t : Text) : Text := t.dropWhile (· == ' ')

end Text

end PackedScript

import PackedScript.Literal

/-!
# The shapes of a call site

A packed script ends in a call that passes a payload, a radix, a symbol count and a symbol table.
The call is written in one of two shapes, and each shape is cut into five fields:

* primary, `}(payload, radix, count, (table).split(delimiter)`, with white space allowed around the
  first parenthesis and around the commas, where the payload ends at the first place that the
  numbers and the table can follow, the table at the first `).split(`, and the delimiter at the
  first `)`;
* legacy, `}('payload', radix, count, 'table'.split('delimiter')`, with plain spaces after the
  commas, where the payload ends at the last place that the numbers and the table can follow, the
  table at the last `'.split('` that can be closed, and the delimiter at the first `')` after it.

In both the call starts at the first place where it can.
-/

namespace PackedScript.CallSite

open Text

/-- The five fields of a call as they are written. -/
structure Fields where
  payload : Text
  radix : Text
  count : Text
  table : Text
  delimiter : Text
  deriving DecidableEq, Repr

/-! ## The primary shape -/

/-- What follows the opening `}` `(` of a primary call and the white space behind it. -/
def opening? : Text → Option Text
  | '}' :: rest => (after? ['('] (trimStart rest)).map trimStart
  | _ => none

/-- What follows a comma and the white space behind it. -/
def comma? (t : Text) : Option Text := (after? [','] t).map trimStart

/-- The radix and the count of a primary call, and what follows the parenthesis that opens the
table. -/
def primaryNumbers? (t : Text) : Option (Text × Text × Text) := do
  let t ← comma? t
  let (radix, t) ← Literal.digits? t
  let t ← comma? (trimStart t)
  let (count, t) ← Literal.digits? t
  let t ← comma? (trimStart t)
  let t ← after? ['('] t
  some (radix, count, t)

/-- The fields of the first primary call in a text. -/
def primary? (t : Text) : Option Fields := do
  let (_, t) ← cutFirst opening? t
  let (payload, radix, count, t) ← cutFirst primaryNumbers? t
  let (table, t) ← cutFirst (after? ").split(".toList) t
  let (delimiter, _) ← cutFirst (after? [')']) t
  some ⟨trimEnd payload, radix, count, table, delimiter⟩

/-! ## The legacy shape -/

/-- What follows a comma and the spaces behind it. -/
def spacedComma? (t : Text) : Option Text := (after? [','] t).map skipSpaces

/-- The radix and the count of a legacy call, with the quotes on both sides, and what follows the
quote that opens the table. -/
def legacyNumbers? (t : Text) : Option (Text × Text × Text) := do
  let t ← after? ['\''] t
  let t ← spacedComma? t
  let (radix, t) ← Literal.digits? t
  let t ← spacedComma? t
  let (count, t) ← Literal.digits? t
  let t ← spacedComma? t
  let t ← after? ['\''] t
  some (radix, count, t)

/-- The end of a legacy call. -/
def legacyEnd : Text := "')".toList

/-- The fields of the first legacy call in a text. A `'.split('` can be closed when it lies before
the last end of a call, so the text is cut there before the table is looked for. -/
def legacy? (t : Text) : Option Fields := do
  let (_, t) ← cutFirst (after? ['}', '(', '\'']) t
  let (t, _) ← cutLast (after? legacyEnd) t
  let (call, rest) ← cutLast (after? "'.split('".toList) t
  let (payload, radix, count, table) ← cutLast legacyNumbers? call
  let (delimiter, _) ← cutFirst (after? legacyEnd) (rest ++ legacyEnd)
  some ⟨payload, radix, count, table, delimiter⟩

end PackedScript.CallSite

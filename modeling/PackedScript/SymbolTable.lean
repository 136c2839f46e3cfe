import PackedScript.Run
import PackedScript.Text.Split

/-!
# Symbol tables

The symbols of a packed script stand in one text, separated by a delimiter, and the call declares
how many there are. Where the number differs, a lenient reading believes the declaration, if it is
not zero: symbols too many are dropped and missing ones are filled in. A strict reading refuses.

The declaration is believed whatever it says. A table has no room for more than `capacity` symbols,
so a reading that is to fill in symbols up to a number beyond it breaks off.
-/

namespace PackedScript

/-- The symbols of a packed script by index. -/
abbrev SymbolTable := Array Text

namespace SymbolTable

/-- What stands for a symbol that is missing (`BUGGED`). -/
def missing : Text := "BUGGED".toList

/-- The symbols between the delimiters. An empty delimiter stands before every character and at the
end, so that each character is a symbol and an empty one lies at either end. -/
def split (table delimiter : Text) : List Text :=
  if delimiter.isEmpty then [] :: (table.map ([·]) ++ [[]]) else Text.splitOn delimiter table

/-- The greatest number of symbols that a table has room for: 24 bytes are set aside for each, and
all of them together are less than 2^63. -/
def capacity : Nat := 384307168202282325

/-- The first `count` symbols, filled up to this number. -/
def resize (count : Nat) (symbols : List Text) : Outcome (List Text) :=
  if symbols.length < count ∧ capacity < count then .overflow
  else .ok (symbols.take count ++ List.replicate (count - symbols.length) missing)

/-- Whether the declared count replaces the number of symbols found. -/
def corrects (strict : Bool) (count found : Nat) : Bool := !strict && 0 < count && found != count

/-- The symbols of a table of which `count` are declared. -/
def ofText (table delimiter : Text) (count : Nat) (strict : Bool) : Outcome (List Text) :=
  let symbols := split table delimiter
  if corrects strict count symbols.length then resize count symbols
  else if symbols.length = count then .ok symbols
  else .error (.symbolCount count symbols.length)

/-- The log lines of a table: a correction is noted. -/
def corrections (table delimiter : Text) (count : Nat) (strict : Bool) : List LogLine :=
  let found := (split table delimiter).length
  if corrects strict count found then
    [⟨.debug, s!"Correcting symtab length from {found} to {count}"⟩]
  else []

/-- Reads a table, and notes a correction before it is made. -/
def build (table delimiter : Text) (count : Nat) (strict : Bool) : Run SymbolTable := do
  Run.notes (corrections table delimiter count strict)
  let symbols ← Run.ofOutcome (ofText table delimiter count strict)
  return symbols.toArray

end SymbolTable

end PackedScript

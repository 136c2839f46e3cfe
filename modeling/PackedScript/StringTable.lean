import PackedScript.Numeral.Positional
import PackedScript.Pattern.Engine
import PackedScript.Run
import PackedScript.Text.Cut
import PackedScript.Text.Split
import PackedScript.Text.Substitute
import PackedScript.Unicode.Word

/-!
# String tables

Some scripts keep their strings in one array and write `_name[i]` where a string is meant. The array
is declared once, as `var _name=["…","…"];`. Inlining drops the declaration with everything before
it, and puts the string in double quotes in the place of every access that names one; what has been
put in is not looked at again. A script without a declaration is left alone.

Accesses are found by a pattern made of the name of the table. What it matches is what `access?`
reads, but a name can be so long that the engine refuses the pattern: then nothing is put in.
-/

namespace PackedScript.StringTable

open Text

/-- A declared table: its name, the text of its entries, and the script after it. -/
structure Declaration where
  name : Text
  body : Text
  rest : Text
  deriving DecidableEq, Repr

/-- The name of a table at the front of a text, an underscore and one or more word characters, and
what follows it. -/
def name? : Text → Option (Text × Text)
  | '_' :: rest =>
    match rest.takeWhile Unicode.isWord with
    | [] => none
    | w => some ('_' :: w, rest.dropWhile Unicode.isWord)
  | _ => none

/-- The name of the table that is declared at the front of a text, and what follows the quote that
opens its first entry. -/
def header? (t : Text) : Option (Text × Text) := do
  let t ← after? "var".toList t
  let (name, t) ← name? (skipSpaces t)
  let t ← after? "=[\"".toList t
  some (name, t)

/-- The first declaration of a script. -/
def declaration? (t : Text) : Option Declaration := do
  let (_, name, t) ← cutFirst header? t
  let (body, rest) ← cutFirst (after? "\"];".toList) t
  some ⟨name, body, rest⟩

/-- The entries of a table. -/
def Declaration.entries (d : Declaration) : Array Text := (splitOn "\",\"".toList d.body).toArray

/-- An index in the form in which accesses write it, without leading zeros, and what follows it. -/
def index? (t : Text) : Option (Text × Text) :=
  match t.takeWhile Char.isDigit, t.dropWhile Char.isDigit with
  | ['0'], rest => some (['0'], rest)
  | c :: ds, rest => if c = '0' then none else some (c :: ds, rest)
  | [], _ => none

/-- The written index of an access to `name` at the front of a text. -/
def access? (name t : Text) : Option Text := do
  let t ← after? name t
  let t ← after? ['['] t
  let (index, t) ← index? t
  let _ ← after? [']'] t
  some index

/-- What an access becomes: the entry in double quotes, where there is one. -/
def inlined? (entries : Array Text) (index : Text) : Option Text := do
  let i ← Numeral.decimal? Numeral.sizeLimit index
  let entry ← entries[i]?
  some ('"' :: entry ++ ['"'])

/-- Replaces an access at the front of a text. One that names no entry is kept as it is. -/
def inlineAccess (name : Text) (entries : Array Text) : Rule Char Char := fun t => do
  let index ← access? name t
  let written := name ++ '[' :: index ++ [']']
  some ((inlined? entries index).getD written, written.length)

section

variable [Engine]

/-- The pattern of the accesses to a table. -/
def accessPattern (name : Text) : Text := Engine.escape name ++ "\\[(0|[1-9][0-9]*)\\]".toList

/-- The script with the strings of its table in the places of the accesses to them. -/
def inlineStrings (t : Text) : Text :=
  match declaration? t with
  | none => t
  | some d =>
    match Engine.read false (accessPattern d.name) with
    | .ok _ => substitute (inlineAccess d.name d.entries) d.rest
    | .error _ => d.rest

/-- The log lines of inlining: a name whose accesses cannot be looked for is noted. -/
def refusals (t : Text) : List LogLine :=
  match declaration? t with
  | none => []
  | some d =>
    match Engine.read false (accessPattern d.name) with
    | .ok _ => []
    | .error text =>
      [⟨.warn, "Could not build lookup for " ++ String.ofList d.name ++ ": " ++ text⟩]

/-- Inlines the strings of a script (`replace_strings`), and notes a name that is too long. -/
def unpack (t : Text) : Run Text := do
  Run.notes (refusals t)
  return inlineStrings t

end

end PackedScript.StringTable

import PackedScript.CallSite.Basic
import PackedScript.Run
import PackedScript.Text.Quoted

/-!
# Extracting the arguments of a call site

Before a script is searched for a call, the empty list `[]` that some packers pass as radix becomes
`0`, and an escaped single quote becomes a plain one. The primary shape is tried first; the legacy
shape is tried only if no call of primary shape is found, not if one is found whose arguments are at
fault. The faults are looked for in the order radix, count, delimiter.
-/

namespace PackedScript

/-- The arguments of a call site (`ExtractedArgs`). -/
structure CallSite where
  /-- The shape the call is written in. -/
  grammar : Grammar
  /-- The packed script. -/
  payload : Text
  /-- The declared radix of the numerals. -/
  radix : Nat
  /-- The declared number of symbols. -/
  count : Nat
  /-- The symbol table in one piece. -/
  table : Text
  /-- What separates the symbols in the table. -/
  delimiter : Text
  deriving DecidableEq, Repr

namespace CallSite

/-- A script with the placeholder of the radix filled in and without escapes of single quotes. -/
def plain (source : Text) : Text :=
  Text.replaceAll ['\\', '\''] ['\'']
    (Text.replaceAll [',', '[', ']', ','] [',', '0', ','] source)

/-- The arguments that the fields of a call stand for (`build`), once literals have been read. -/
def ofFields (grammar : Grammar) (fields : Fields) : Except Failure CallSite :=
  match Numeral.decimal? Numeral.sizeLimit fields.radix with
  | none => .error (.arguments grammar .radix)
  | some radix =>
    match Numeral.decimal? Numeral.sizeLimit fields.count with
    | none => .error (.arguments grammar .count)
    | some count =>
      if fields.delimiter.isEmpty then .error (.arguments grammar .delimiter)
      else .ok ⟨grammar, fields.payload, radix, count, fields.table, fields.delimiter⟩

/-- The fields of a primary call with their literals read. -/
def Fields.read (fields : Fields) : Fields :=
  { fields with
    payload := Literal.read fields.payload
    table := Literal.read fields.table
    delimiter := Literal.read fields.delimiter }

/-- The arguments of the call in a script. -/
def ofSource (source : Text) : Except Failure CallSite :=
  let t := plain source
  match primary? t with
  | some fields => ofFields .primary fields.read
  | none =>
    match legacy? t with
    | some fields => ofFields .legacy fields
    | none => .error .noCallSite

/-- The log line of a call that has been found. -/
def summary (site : CallSite) : String :=
  s!"{site.grammar.name} grammar matched: radix {site.radix}, count {site.count}, delimiter "
    ++ Text.quoted site.delimiter

/-- Finds the arguments of the call in a script (`extract`), and notes what was found. -/
def extract (source : Text) : Run CallSite := do
  let site ← Run.ofExcept (ofSource source)
  Run.note .debug site.summary
  return site

end CallSite

end PackedScript

import PackedScript.Bytes.Base64

/-!
# Failures

Everything that can stop an unpacking, by cause. A failure belongs to the stage that raises it, and
has one wording.
-/

namespace PackedScript

/-- The stages of an unpacking. -/
inductive Stage where
  /-- Finding the call site and its arguments. -/
  | extract
  /-- Building the symbol table. -/
  | symtab
  /-- Choosing the base of the numerals. -/
  | decode
  /-- Finding and decoding an envelope, or a block of a page. -/
  | locate
  deriving DecidableEq, Repr

/-- The name of a stage. -/
def Stage.name : Stage → String
  | .extract => "extract"
  | .symtab => "symtab"
  | .decode => "decode"
  | .locate => "locate"

/-- The two ways to write the arguments of a call site. -/
inductive Grammar where
  /-- The arguments are literal expressions, and the table stands in parentheses. -/
  | primary
  /-- The payload, the table and the delimiter stand between single quotes. -/
  | legacy
  deriving DecidableEq, Repr

/-- The name of a grammar. -/
def Grammar.name : Grammar → String
  | .primary => "primary"
  | .legacy => "legacy"

/-- What is wrong with the arguments of a call site that a grammar recognises. -/
inductive ArgumentFault where
  /-- The radix is no number below the size limit. -/
  | radix
  /-- The symbol count is no number below the size limit. -/
  | count
  /-- The delimiter of the table is empty. -/
  | delimiter
  deriving DecidableEq, Repr

/-- The wording of a fault in the arguments. -/
def ArgumentFault.reason : ArgumentFault → String
  | .radix => "invalid radix"
  | .count => "invalid count"
  | .delimiter => "empty symtab delimiter"

/-- Why an unpacking stops (`UnpackError`). -/
inductive Failure where
  /-- No grammar recognises a call site (`CorruptedPayload`, without a grammar). -/
  | noCallSite
  /-- A grammar recognises a call site whose arguments are at fault (`CorruptedPayload`). -/
  | arguments (grammar : Grammar) (fault : ArgumentFault)
  /-- The table has `found` symbols where `expected` are declared (`MalformedSymtab`). -/
  | symbolCount (expected found : Nat)
  /-- The declared radix is no base (`UnsupportedRadix`). -/
  | radix (declared : Nat)
  /-- The input has `length` bytes, which is more than `limit` (`InputTooLarge`). -/
  | inputTooLarge (length limit : Nat)
  /-- The content of an envelope is no Base64 form (`InvalidBase64`). -/
  | base64 (fault : Base64.Fault)
  /-- A pattern is refused, with what the engine says about it (`Pattern`). -/
  | pattern (text : String)
  deriving DecidableEq, Repr

namespace Failure

/-- The stage that raises a failure. -/
def stage : Failure → Stage
  | .noCallSite | .arguments .. | .inputTooLarge .. => .extract
  | .symbolCount .. => .symtab
  | .radix _ => .decode
  | .base64 _ | .pattern _ => .locate

/-- What is wrong with a call site, where that is the failure. -/
def reason? : Failure → Option String
  | .noCallSite => some "unexpected code structure"
  | .arguments _ fault => some fault.reason
  | _ => none

/-- The wording of a failure. -/
def message : Failure → String
  | .noCallSite => "Corrupted p.a.c.k.e.r. data: unexpected code structure"
  | .arguments _ fault => s!"Corrupted p.a.c.k.e.r. data: {fault.reason}"
  | .symbolCount expected found => s!"Malformed p.a.c.k.e.r. symtab. ({expected} != {found})"
  | .radix declared => s!"Unsupported base encoding: {declared}"
  | .inputTooLarge length limit => s!"Input of {length} bytes exceeds the limit of {limit} bytes"
  | .base64 fault => s!"Invalid base64 envelope: {fault.message}"
  | .pattern text => s!"Invalid locate pattern: {text}"

end Failure

end PackedScript

import PackedScript.CallSite.Extract
import PackedScript.Page.Block
import PackedScript.Payload
import PackedScript.StringTable

/-!
# Unpacking

A packed script is recognised by its signature. It is unpacked in four steps: the arguments of the
call are extracted, the symbol table is read, the words of the payload are replaced, and a string
table in the result is inlined. The options limit the size of what is looked at and say what happens
when the number of symbols is not the declared one. An unpacker also has a reporter, which hears of
each failure once.

A name in parentheses behind a description, here and in the other modules, is the one under which
callers know the operation.
-/

namespace PackedScript

/-- How a packed script starts when its spaces are left out (`SIGNATURE`). -/
def signature : Text := "eval(function(p,a,c,k,e,".toList

/-- Whether a text, its spaces left out, starts with `expected`. -/
def startsWithoutSpaces : (expected : Text) → Text → Bool
  | [], _ => true
  | _ :: _, [] => false
  | e :: es, c :: rest =>
    if c == ' ' then startsWithoutSpaces (e :: es) rest else e == c && startsWithoutSpaces es rest

/-- Whether a text is a packed script (`detect`). -/
def isPacked (t : Text) : Bool := startsWithoutSpaces signature t

theorem startsWithoutSpaces_eq (expected t : Text) :
    startsWithoutSpaces expected t = expected.isPrefixOf (t.filter (· != ' ')) := by
  induction t generalizing expected with
  | nil => cases expected <;> rfl
  | cons c t ih =>
    cases expected with
    | nil => simp [startsWithoutSpaces]
    | cons e es =>
      by_cases h : c = ' '
      · simp [startsWithoutSpaces, h, ih]
      · simp [startsWithoutSpaces, h, ih, List.isPrefixOf]

/-- What an unpacking may and may not do (`UnpackOptions`). -/
structure Options where
  /-- Whether a symbol table whose length is not the declared one is refused. -/
  strict : Bool := false
  /-- The greatest number of bytes of a text that is looked at (`max_input_len`). -/
  maxLength : Nat := 8388608
  deriving DecidableEq, Repr

namespace Options

/-- Refuses a text that is too large (`check_len`). -/
def check (options : Options) (t : Text) : Except Failure Unit :=
  if options.maxLength < Text.byteLength t then
    .error (.inputTooLarge (Text.byteLength t) options.maxLength)
  else .ok ()

/-- The base that a declared radix stands for, or its refusal (`Unbaser`). -/
def radix (declared : Nat) : Except Failure Radix :=
  match Radix.ofDeclared? declared with
  | some r => .ok r
  | none => .error (.radix declared)

/-- Unpacks a script, whether it has the signature or not, without reporting a failure (`run`). -/
def unpack [Engine] (options : Options) (source : Text) : Run Text := do
  Run.ofExcept (options.check source)
  let site ← CallSite.extract source
  let symbols ← SymbolTable.build site.table site.delimiter site.count options.strict
  let radix ← Run.ofExcept (radix site.radix)
  Run.note .trace s!"Decoding {symbols.size} words in base {radix.base}"
  let script ← Payload.unpack symbols radix site.payload
  StringTable.unpack script

end Options

/-- An unpacking with its options and its reporter. -/
structure Unpacker where
  options : Options := {}
  reporter : Reporter := .log

namespace Unpacker

/-- The unpacker with the standard options, which reports to the log. -/
def standard : Unpacker := {}

section

variable [Engine]

/-- Unpacks a script, whether it has the signature or not (`unpack_unchecked`). -/
def unpackUnchecked (u : Unpacker) (source : Text) : Run Text :=
  u.reporter.watch (u.options.unpack source)

/-- Unpacks a script that has the signature; there is no answer for another one. -/
def unpack (u : Unpacker) (source : Text) : Run (Option Text) := do
  if isPacked source then
    return some (← u.unpackUnchecked source)
  else
    Run.note .debug "Input is not p.a.c.k.e.r. coded"
    return none

/-- Unpacks the first block of a page (`unpack_page`). A page without a block is answered as it is.
-/
def unpackPage (u : Unpacker) (page : Text) (pattern? : Option Text) : Run Text := do
  u.reporter.watch (Run.ofExcept (u.options.check page))
  match ← u.reporter.watch (Run.ofExcept (Page.block pattern? page)) with
  | some source => u.unpackUnchecked source
  | none => return page

end

end Unpacker

section

variable [Engine]

/-- Unpacks a script with the standard unpacker. A text that is not packed is answered as it is. -/
def unpack (source : Text) : Run Text := do
  return (← Unpacker.standard.unpack source).getD source

/-- Unpacks a script with the standard unpacker, whether it has the signature or not. -/
def unpackUnchecked (source : Text) : Run Text := Unpacker.standard.unpackUnchecked source

end

end PackedScript

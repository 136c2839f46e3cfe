import PackedScript.Bytes.Percent
import PackedScript.Numeral.Positional
import PackedScript.Text.Cut
import PackedScript.Unicode.DecimalDigit

/-!
# Literal expressions

An argument of a call site is an expression that stands for a text. `Literal.read` recognises four
kinds of them by how they start, after white space around them is dropped:

* a function whose body holds a text in double quotes and which is called on a number: each ASCII
  letter of the text is moved forward by the number, once around the alphabet, and then percent
  escapes are read;
* a call of `decodeURIComponent` on a quoted text: percent escapes are read;
* a quoted text, perhaps in pieces that are joined by `+`: the outer quotes and the joins are
  dropped;
* anything else stands for itself.
-/

namespace PackedScript.Literal

/-- Either quote. -/
def isQuote (c : Char) : Bool := c == '"' || c == '\''

/-- The longest run of decimal digits at the front of a text, which must not be empty, and what
follows it. -/
def digits? (t : Text) : Option (Text × Text) :=
  match t.takeWhile Unicode.isDecimalDigit with
  | [] => none
  | ds => some (ds, t.dropWhile Unicode.isDecimalDigit)

/-! ## Rotated texts -/

/-- Numbers of places to move have 32 bits: they are below this bound. -/
def shiftLimit : Nat := 0x100000000

/-- An ASCII letter moved forward by `shift` places, once around the alphabet if it leaves it; any
other character stays, and so does a letter that a large shift moves out of the characters. -/
def rotateChar (shift : Nat) (c : Char) : Char :=
  if c.isAlpha then
    let limit := if c ≤ 'Z' then 'Z'.toNat else 'z'.toNat
    let moved := min (c.toNat + shift) (shiftLimit - 1)
    let code := if moved ≤ limit then moved else moved - 26
    if code.isValidChar then Char.ofNat code else c
  else c

/-- A text with each ASCII letter moved forward. -/
def rotate (shift : Nat) (t : Text) : Text := t.map (rotateChar shift)

/-- The digits of a call `}` … `(n)` at the front of a text. -/
def callDigits? : Text → Option Text
  | '}' :: rest => do
    let rest ← Text.after? ['('] (Text.trimStart rest)
    let (ds, rest) ← digits? rest
    let _ ← Text.after? [')'] rest
    some ds
  | _ => none

/-- What follows the opening of a text `="` that is not empty, from its first character on. -/
def openText? : Text → Option Text
  | '=' :: '"' :: c :: rest => if c = '"' then none else some (c :: rest)
  | _ => none

/-- The quoted text and the number of a rotation: the last call on a number, and the first text that
is opened before it. -/
def rotation? (t : Text) : Option (Text × Text) := do
  let (body, ds) ← Text.cutLast callDigits? t
  let (_, text) ← Text.cutFirst openText? body
  some (text.takeWhile (· ≠ '"'), ds)

/-- The text that a rotation stands for. What is no rotation, or moves by no number below the bound,
stands for itself. -/
def readRotation (t : Text) : Text :=
  match rotation? t with
  | some (text, ds) =>
    match Numeral.decimal? shiftLimit ds with
    | some shift => Percent.decode (rotate shift text)
    | none => t
  | none => t

/-! ## Calls on escaped texts -/

/-- The name of the function that reads percent escapes. -/
def decoderName : Text := "decodeURIComponent".toList

/-- The text without the opening of the call and of the quoted text in it, if it starts with both.
-/
def dropCallStart (t : Text) : Text :=
  let opened? := do
    let rest ← Text.after? decoderName t
    let rest ← Text.after? ['('] (Text.trimStart rest)
    match Text.trimStart rest with
    | c :: rest => if isQuote c then some rest else none
    | [] => none
  opened?.getD t

/-- The text without the end of the quoted text and of the call, if it ends with both. -/
def dropCallEnd (t : Text) : Text :=
  match t.reverse with
  | ')' :: rest =>
    match rest.dropWhile Unicode.isSpace with
    | c :: rest => if isQuote c then rest.reverse else t
    | [] => t
  | _ => t

/-- The text that a call on an escaped text stands for. -/
def readCall (t : Text) : Text := Percent.decode (dropCallEnd (dropCallStart t))

/-! ## Quoted texts in pieces -/

/-- The number of characters of a join at the front of a text: a quote, a plus sign and a quote,
with white space between them. -/
def joinLength? (quote : Char) : Text → Option Nat
  | [] => none
  | c :: rest =>
    if c = quote then
      match Text.trimStart rest with
      | '+' :: more =>
        match Text.trimStart more with
        | d :: _ =>
          if d = quote then
            let spaces (t : Text) := (t.takeWhile Unicode.isSpace).length
            some (3 + spaces rest + spaces more)
          else none
        | [] => none
      | _ => none
    else none

/-- Drops a quote at the very end, and any join. -/
def dropQuotes (quote : Char) : Text.Rule Char Char
  | [c] => if c = quote then some ([], 1) else none
  | t => (joinLength? quote t).map fun count => ([], count)

/-- The text that the pieces after the opening quote stand for. -/
def readPieces (quote : Char) (t : Text) : Text := Text.substitute (dropQuotes quote) t

/-! ## Reading -/

/-- The text that an expression without white space around it stands for. -/
def readTrimmed (t : Text) : Text :=
  if (Text.after? "function".toList t).isSome then readRotation t
  else if (Text.after? decoderName t).isSome then readCall t
  else
    match t with
    | '"' :: rest => readPieces '"' rest
    | '\'' :: rest => readPieces '\'' rest
    | _ => t

/-- The text that an expression stands for (`clean_literal`). -/
def read (t : Text) : Text := readTrimmed (Text.trim t)

end PackedScript.Literal

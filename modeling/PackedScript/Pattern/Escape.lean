import PackedScript.Numeral.Positional
import PackedScript.Pattern.Node

/-!
# Escapes in patterns

What a backslash begins: a character, a class of characters or a place. Any ASCII character that is
neither a letter nor a digit may be escaped to stand for itself, the angle brackets excepted. A
letter or digit without a meaning of its own is refused, which covers references back to a group and
property names.

In spaced notation white space and comments may stand between the characters of a pattern, and also
between the digits of an escape.
-/

namespace PackedScript.Pattern

/-- What an escape stands for. -/
inductive Atom where
  | literal (c : Char)
  | set (a : CharClass)
  | place (p : Place)
  deriving DecidableEq, Repr

/-- The loop of `skipBlank`; a comment goes from a number sign to the end of its line. -/
def skipBlankLoop : (comment : Bool) → Text → Text
  | _, [] => []
  | true, c :: rest => skipBlankLoop (c != '\n') rest
  | false, c :: rest =>
    if Unicode.isSpace c then skipBlankLoop false rest
    else if c == '#' then skipBlankLoop true rest
    else c :: rest

/-- What follows the white space and comments at the front of a pattern in spaced notation. -/
def skipBlank (spaced : Bool) (t : Text) : Text := if spaced then skipBlankLoop false t else t

/-- The character of a code point, if it is one. -/
def charOfCode? (code : Nat) : Option Char :=
  if code.isValidChar then some (Char.ofNat code) else none

/-- Exactly `count` hexadecimal digits: the code that they continue `code` to, and what follows
them. -/
def fixedHex (spaced : Bool) : (count : Nat) → (code : Nat) → Text → Option (Nat × Text)
  | 0, code, t => some (code, t)
  | count + 1, code, c :: rest => do
    fixedHex spaced count (code * 16 + (← Numeral.hexDigit? c)) (skipBlank spaced rest)
  | _ + 1, _, [] => none

/-- The hexadecimal digits up to a closing brace, at least one, and what follows the brace. `code`
is the code of the digits so far, if there are any, and `comment` tells that a comment is being
skipped. -/
def bracedHex (spaced : Bool) : (comment : Bool) → (code : Option Nat) → Text → Option (Nat × Text)
  | _, _, [] => none
  | comment, code, c :: rest =>
    if comment then bracedHex spaced (c != '\n') code rest
    else if spaced && Unicode.isSpace c then bracedHex spaced false code rest
    else if spaced && c == '#' then bracedHex spaced true code rest
    else if c == '\x7d' then code.map (·, skipBlank spaced rest)
    else
      match Numeral.hexDigit? c with
      | some d => bracedHex spaced false (some (code.getD 0 * 16 + d)) rest
      | none => none

/-- The character of a hexadecimal escape whose letter is followed by `count` digits or by digits in
braces, and what follows it. -/
def hexEscape (spaced : Bool) (count : Nat) (t : Text) : Option (Atom × Text) := do
  let (code, rest) ←
    match skipBlank spaced t with
    | '\x7b' :: rest => bracedHex spaced false none rest
    | t => fixedHex spaced count 0 t
  some (.literal (← charOfCode? code), rest)

/-- A character of the name of a kind of word boundary. -/
def isBoundaryName (c : Char) : Bool := c.isAlpha || c == '-'

/-- The name of a kind of word boundary up to the closing brace, and what follows the brace. `name`
is what has been read of it, last character first. -/
def boundaryName (spaced : Bool) : (comment : Bool) → (name : Text) → Text → Option (Text × Text)
  | _, _, [] => none
  | comment, name, c :: rest =>
    if comment then boundaryName spaced (c != '\n') name rest
    else if spaced && Unicode.isSpace c then boundaryName spaced false name rest
    else if spaced && c == '#' then boundaryName spaced true name rest
    else if c == '\x7d' then some (name.reverse, rest)
    else if isBoundaryName c then boundaryName spaced false (c :: name) rest
    else none

/-- The kind of word boundary of a name. -/
def boundaryOfName? (name : Text) : Option Place :=
  if name = "start".toList then some .wordStart
  else if name = "end".toList then some .wordEnd
  else if name = "start-half".toList then some .wordStartHalf
  else if name = "end-half".toList then some .wordEndHalf
  else none

/-- The word boundary after its letter, with a kind in braces or without one. A brace that no name
follows is left, as it belongs to a repetition. -/
def boundaryEscape (spaced : Bool) (t : Text) : Option (Atom × Text) :=
  match t with
  | '\x7b' :: rest =>
    match skipBlank spaced rest with
    | [] => none
    | c :: more =>
      if isBoundaryName c then do
        let (name, rest) ← boundaryName spaced false [] (c :: more)
        some (.place (← boundaryOfName? name), rest)
      else some (.place .boundary, t)
  | _ => some (.place .boundary, t)

/-- Whether an escaped character that is no letter or digit stands for itself. -/
def standsForItself (c : Char) : Bool :=
  c.toNat < 128 && !c.isAlphanum && c != '<' && c != '>'

/-- The escape after a backslash, and what follows it. -/
def escape? (spaced : Bool) : Text → Option (Atom × Text)
  | [] => none
  | c :: rest =>
    match c with
    | 'x' => hexEscape spaced 2 rest
    | 'u' => hexEscape spaced 4 rest
    | 'U' => hexEscape spaced 8 rest
    | 'd' => some (.set .digit, rest)
    | 'D' => some (.set (.compl .digit), rest)
    | 's' => some (.set .space, rest)
    | 'S' => some (.set (.compl .space), rest)
    | 'w' => some (.set .word, rest)
    | 'W' => some (.set (.compl .word), rest)
    | 'a' => some (.literal '\x07', rest)
    | 'f' => some (.literal '\x0c', rest)
    | 't' => some (.literal '\t', rest)
    | 'n' => some (.literal '\n', rest)
    | 'r' => some (.literal '\r', rest)
    | 'v' => some (.literal '\x0b', rest)
    | 'A' => some (.place .textStart, rest)
    | 'z' => some (.place .textEnd, rest)
    | 'b' => boundaryEscape spaced rest
    | 'B' => some (.place .notBoundary, rest)
    | '<' => some (.place .wordStart, rest)
    | '>' => some (.place .wordEnd, rest)
    | c => if standsForItself c then some (.literal c, rest) else none

end PackedScript.Pattern

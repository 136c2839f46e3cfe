import PackedScript.Text.Basic
import PackedScript.Unicode.Unprintable

/-!
# Quoted texts

How a text is shown inside a message: in double quotes, with the quote and the backslash escaped,
with the short escapes for tab, line feed, carriage return and the null character, and with every
other character that has no printed form of its own written by its code point. A single quote stays
as it is.
-/

namespace PackedScript.Text

/-- A character written by its code point, in hexadecimal without leading zeros. -/
def codePointEscape (c : Char) : Text :=
  "\\u\x7b".toList ++ Nat.toDigits 16 c.toNat ++ ['\x7d']

/-- A character as it stands between double quotes. -/
def quoteChar (c : Char) : Text :=
  match c with
  | '\x00' => ['\\', '0']
  | '\t' => ['\\', 't']
  | '\n' => ['\\', 'n']
  | '\r' => ['\\', 'r']
  | '"' => ['\\', '"']
  | '\\' => ['\\', '\\']
  | c => if Unicode.isUnprintable c then codePointEscape c else [c]

/-- The text between double quotes. -/
def quoted (t : Text) : String := String.ofList ('"' :: t.flatMap quoteChar ++ ['"'])

end PackedScript.Text

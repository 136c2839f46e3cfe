import PackedScript.Bytes.Utf8
import PackedScript.Numeral.Positional
import PackedScript.Text.Substitute

/-!
# Percent escapes

A percent sign and two hexadecimal digits stand for one byte, any other character for the bytes of
its UTF-8 form. A percent sign that no two such digits follow stands for itself. The bytes are read
as UTF-8 only when all of them are there, so one character may be spread over several escapes.
-/

namespace PackedScript.Percent

/-- Reads one escape. -/
def escape : Text.Rule Char UInt8
  | '%' :: h :: l :: _ =>
    match Numeral.hexDigit? h, Numeral.hexDigit? l with
    | some high, some low => some ([UInt8.ofNat (high * 16 + low)], 3)
    | _, _ => none
  | _ => none

/-- The bytes that a text with escapes stands for. -/
def bytes (t : Text) : List UInt8 := Text.substituteWith String.utf8EncodeChar escape t

/-- The text that a text with escapes stands for. -/
def decode (t : Text) : Text := Utf8.decode (bytes t)

end PackedScript.Percent

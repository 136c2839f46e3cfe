import PackedScript.Unicode.RunTable

/-!
# White space

The characters with the property `White_Space`. The zero-width space and the byte order mark are not
among them, and neither are the information separators below `0x20`.
-/

namespace PackedScript.Unicode

/-- The code points of the white space characters. -/
def whiteSpace : RunTable := [
  (0x9, 0xD), (0x20, 0x20), (0x85, 0x85), (0xA0, 0xA0), (0x1680, 0x1680), (0x2000, 0x200A),
  (0x2028, 0x2029), (0x202F, 0x202F), (0x205F, 0x205F), (0x3000, 0x3000)]

/-- A white space character. -/
def isSpace (c : Char) : Bool := whiteSpace.contains c.toNat

example : whiteSpace.Ascending := by decide

end PackedScript.Unicode

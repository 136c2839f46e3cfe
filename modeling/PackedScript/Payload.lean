import PackedScript.Numeral.Radix
import PackedScript.Run
import PackedScript.SymbolTable
import PackedScript.Text.Quoted
import PackedScript.Text.Substitute

/-!
# Payloads

A payload is a script in which each word has been replaced by the numeral of its place in the symbol
table. A word is a longest run of ASCII letters, digits and underscores; everything between two
words is kept. Each word is decided on its own: where it is a numeral and its place holds a symbol
that is not empty, the symbol takes its place. What has been put in is not looked at again.
-/

namespace PackedScript.Payload

/-- A character of a word. -/
def isWordChar (c : Char) : Bool := c.isAlphanum || c == '_'

/-- A part of a payload: a word, or a character between words. -/
inductive Token where
  | word (w : Text)
  | other (c : Char)
  deriving DecidableEq, Repr

/-- Reads the word at the front of a text. -/
def word : Text.Rule Char Token := fun t =>
  match t.takeWhile isWordChar with
  | [] => none
  | w => some ([.word w], w.length)

/-- The words of a payload and the characters between them, in order. -/
def tokens (t : Text) : List Token := Text.substituteWith (fun c => [.other c]) word t

/-- The symbol that takes the place of a word. -/
def symbol? (symbols : SymbolTable) (radix : Radix) (w : Text) : Option Text :=
  match radix.decode w with
  | .ok index => symbols[index]?.filter (!·.isEmpty)
  | .error _ => none

/-- What a token becomes. -/
def Token.decode (symbols : SymbolTable) (radix : Radix) : Token → Text
  | .word w => (symbol? symbols radix w).getD w
  | .other c => [c]

/-- The log line of a token: a word that is no numeral is noted. -/
def Token.kept? (radix : Radix) : Token → Option LogLine
  | .word w =>
    match radix.decode w with
    | .ok _ => none
    | .error fault => some ⟨.trace, "Keeping " ++ Text.quoted w ++ ": " ++ fault.message⟩
  | .other _ => none

/-- The script that a payload stands for. -/
def decode (symbols : SymbolTable) (radix : Radix) (payload : Text) : Text :=
  (tokens payload).flatMap (·.decode symbols radix)

/-- The log lines of a payload. -/
def keptWords (radix : Radix) (payload : Text) : List LogLine :=
  (tokens payload).filterMap (·.kept? radix)

/-- Decodes a payload (`decode_words`), and notes the words that are no numerals. -/
def unpack (symbols : SymbolTable) (radix : Radix) (payload : Text) : Run Text := do
  Run.notes (keptWords radix payload)
  return decode symbols radix payload

end PackedScript.Payload

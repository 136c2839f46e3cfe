import PackedScript.Bytes.Base64
import PackedScript.Bytes.Utf8
import PackedScript.Unpacker

/-!
# Envelopes

Some pages carry a packed script in an envelope: a call of `JuicyCodes.Run` on its Base64 form,
which is written in pieces between quotes that are joined by `+`. An envelope is found by a pattern,
whose first capture group, or else whole match, holds the argument of the call. Quotes, plus signs
and white space are left out of it before it is decoded.
-/

namespace PackedScript

/-- What picks the argument of an envelope's call out of a page. -/
inductive EnvelopePattern [Engine] where
  /-- A call of `JuicyCodes.Run` in a script (`DEFAULT_PATTERN`). -/
  | standard
  /-- A pattern. -/
  | custom (pattern : Engine.Pattern)

namespace EnvelopePattern

open Text

/-- How the call of an envelope starts. -/
def callStart : Text := "JuicyCodes.Run(".toList

/-- The argument of the call at the front of a text: it ends at the first closing parenthesis, and
the next tag after that must end the script. -/
def argument? (t : Text) : Option Text := do
  let t ← after? callStart t
  let rest ← after? [')'] (t.dropWhile (· != ')'))
  let _ ← after? "</script>".toList (rest.dropWhile (· != '<'))
  some (t.takeWhile (· != ')'))

section

variable [Engine]

/-- The argument of the first envelope of a page. -/
def content? : EnvelopePattern → Text → Option Text
  | .standard, page => (cutFirst argument? page).map Prod.snd
  | .custom pattern, page => (Engine.first? pattern page).map Found.content

/-- The pattern of a text that the engine reads, and the standard one where there is no text
(`with_pattern`). -/
def ofText? : Option Text → Except Failure EnvelopePattern
  | none => .ok .standard
  | some t =>
    match Engine.read false t with
    | .ok pattern => .ok (.custom pattern)
    | .error text => .error (.pattern text)

end

end EnvelopePattern

namespace Envelope

/-- Whether a character of the argument is left out before it is decoded. -/
def isJoint (c : Char) : Bool := c == '+' || c == '"' || c == '\'' || Unicode.isSpace c

/-- The script that the argument of an envelope stands for. -/
def script (argument : Text) : Except Failure Text :=
  match Base64.decode (Utf8.encode (argument.filter (!isJoint ·))) with
  | .ok bytes => .ok (Utf8.decode bytes)
  | .error fault => .error (.base64 fault)

end Envelope

section

variable [Engine]

namespace Unpacker

/-- Opens the first envelope of a page and unpacks the script in it, if that is packed. There is no
answer for a page without an envelope (`dejuice`). -/
def openEnvelope (u : Unpacker) (pattern : EnvelopePattern) (page : Text) : Run (Option Text) := do
  u.reporter.watch (Run.ofExcept (u.options.check page))
  match pattern.content? page with
  | none =>
    Run.note .debug "No JuicyCodes envelope found"
    return none
  | some argument =>
    let script ← u.reporter.watch (Run.ofExcept (Envelope.script argument))
    if isPacked script then
      return some (← u.unpackUnchecked script)
    else
      Run.note .debug "JuicyCodes envelope does not hold p.a.c.k.e.r. code"
      return some script

/-- Opens the first envelope of a page; a page without one gives the empty text
(`locate_and_decode`). -/
def locateAndDecode (u : Unpacker) (pattern : EnvelopePattern) (page : Text) : Run Text := do
  return (← u.openEnvelope pattern page).getD []

end Unpacker

/-- Opens the first standard envelope of a page with the standard unpacker; a page without one gives
the empty text. -/
def locateAndDecode (page : Text) : Run Text := Unpacker.standard.locateAndDecode .standard page

end

end PackedScript

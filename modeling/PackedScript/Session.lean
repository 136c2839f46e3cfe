import PackedScript.Envelope

/-!
# Sessions

A session is a sequence of calls that share one unpacker and one envelope pattern. Only two calls
leave something behind for later ones: setting the options, and choosing an envelope pattern that
the engine reads. A call that asks for more room than there can be leaves nothing behind either, and
those after it are answered like all others, if they are still made.
-/

namespace PackedScript

/-- What the calls of a session share. -/
structure Session [Engine] where
  unpacker : Unpacker := {}
  pattern : EnvelopePattern := .standard

/-- A call of a session. -/
inductive Call where
  | setOptions (options : Options)
  | unpack (source : Text)
  | unpackUnchecked (source : Text)
  | unpackPage (page : Text) (pattern? : Option Text)
  | choosePattern (pattern? : Option Text)
  | openEnvelope (page : Text)
  | locateAndDecode (page : Text)
  deriving DecidableEq, Repr

/-- What a call answers when it succeeds. -/
inductive Answer where
  | options (options : Options)
  | text (t : Text)
  | optionalText (t? : Option Text)
  | accepted
  deriving DecidableEq, Repr

namespace Session

variable [Engine]

/-- What the calls share after a call. -/
def after (s : Session) : Call → Session
  | .setOptions options => { s with unpacker := { s.unpacker with options } }
  | .choosePattern pattern? =>
    match EnvelopePattern.ofText? pattern? with
    | .ok pattern => { s with pattern }
    | .error _ => s
  | _ => s

/-- The run of a call. -/
def answer (s : Session) : Call → Run Answer
  | .setOptions options => return .options options
  | .unpack source => return .optionalText (← s.unpacker.unpack source)
  | .unpackUnchecked source => return .text (← s.unpacker.unpackUnchecked source)
  | .unpackPage page pattern? => return .text (← s.unpacker.unpackPage page pattern?)
  | .choosePattern pattern? => do
    let _ ← Run.ofExcept (EnvelopePattern.ofText? pattern?)
    return .accepted
  | .openEnvelope page => return .optionalText (← s.unpacker.openEnvelope s.pattern page)
  | .locateAndDecode page => return .text (← s.unpacker.locateAndDecode s.pattern page)

/-- The runs of a sequence of calls. -/
def answers (s : Session) : List Call → List (Run Answer)
  | [] => []
  | call :: calls => s.answer call :: answers (s.after call) calls

end Session

end PackedScript

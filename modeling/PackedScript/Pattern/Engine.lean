import PackedScript.Text.Basic

/-!
# Pattern engines

Patterns come from outside, as texts in a notation that an engine knows. An engine reads a pattern or
says what is wrong with it, and searches texts for its matches. What a match holds are parts of the
searched text; nothing else is asked of an engine, and what is said of pages, envelopes and sessions
holds with each of them.
-/

namespace PackedScript

/-- What a match holds: the whole match, and the first capture group if it took part. -/
structure Found where
  whole : Text
  group : Option Text
  deriving DecidableEq, Repr

namespace Found

/-- The first capture group if it took part, and the whole match otherwise. -/
def content (found : Found) : Text := found.group.getD found.whole

/-- What is found stands in a text. -/
structure StandsIn (found : Found) (t : Text) : Prop where
  whole : found.whole <:+: t
  group : ∀ content ∈ found.group, content <:+: t

theorem StandsIn.content {found : Found} {t : Text} (h : found.StandsIn t) :
    found.content <:+: t := by
  obtain ⟨whole, group⟩ := found
  cases group with
  | none => exact h.whole
  | some content => exact h.group content rfl

end Found

/-- What reads patterns and searches for them. -/
class Engine where
  /-- The patterns that have been read. -/
  Pattern : Type
  /-- Reads a pattern, or tells what is wrong with it. With `caseless`, letters are matched in either
  case from the start. -/
  read : (caseless : Bool) → (pattern : Text) → Except String Pattern
  /-- What the leftmost match in a text holds. -/
  first? : Pattern → Text → Option Found
  /-- What the matches in a text hold, from left to right. -/
  all : Pattern → Text → List Found
  /-- What is found stands in the searched text. -/
  standsIn_of_mem_all {pattern : Pattern} {t : Text} {found : Found} :
    found ∈ all pattern t → found.StandsIn t

namespace Engine

/-- Whether a character of a pattern means something other than itself, or may come to do so. -/
def isSpecial (c : Char) : Bool := "\\.+*?()|[]\x7b\x7d^$#&-~".toList.contains c

/-- The pattern of a text that matches the text and nothing else. -/
def escape (t : Text) : Text := t.flatMap fun c => if isSpecial c then ['\\', c] else [c]

end Engine

end PackedScript

import PackedScript.Pattern.CharClass

/-!
# Patterns as trees

A pattern is a tree in which all flags are already resolved: a letter that is read regardless of
case is the class of its variants, a dot is the class of what it matches, and a repetition knows
whether it prefers more or fewer rounds. Of the capture groups only the first one is kept, since
nothing else of a match is ever asked for.
-/

namespace PackedScript.Pattern

/-- A condition on the place between two characters. -/
inductive Place where
  /-- The start of the text. -/
  | textStart
  /-- The end of the text. -/
  | textEnd
  /-- The start of a line; lines end at a line feed, or with `crlf` at a carriage return too. -/
  | lineStart (crlf : Bool)
  /-- The end of a line. -/
  | lineEnd (crlf : Bool)
  /-- Between a word character and something else. -/
  | boundary
  /-- Between two word characters, or between two others. -/
  | notBoundary
  /-- Before a word. -/
  | wordStart
  /-- After a word. -/
  | wordEnd
  /-- Not after a word character. -/
  | wordStartHalf
  /-- Not before a word character. -/
  | wordEndHalf
  deriving DecidableEq, Repr

namespace Place

/-- Whether a character, if there is one, is a word character. -/
def isWord? (c? : Option Char) : Bool := c?.any Unicode.isWord

/-- Whether the condition holds between the characters `before` and `after`. A carriage return and
the line feed after it are one line end. -/
def holds (before after : Option Char) : Place → Bool
  | .textStart => before.isNone
  | .textEnd => after.isNone
  | .lineStart false => before.isNone || before == some '\n'
  | .lineStart true =>
    before.isNone || before == some '\n' || (before == some '\r' && after != some '\n')
  | .lineEnd false => after.isNone || after == some '\n'
  | .lineEnd true =>
    after.isNone || after == some '\r' || (after == some '\n' && before != some '\r')
  | .boundary => isWord? before != isWord? after
  | .notBoundary => isWord? before == isWord? after
  | .wordStart => !isWord? before && isWord? after
  | .wordEnd => isWord? before && !isWord? after
  | .wordStartHalf => !isWord? before
  | .wordEndHalf => !isWord? after

end Place

/-- A pattern. -/
inductive Node where
  | empty
  /-- One character of a class. -/
  | char (set : CharClass)
  /-- A place that fulfils a condition. -/
  | place (p : Place)
  | seq (a b : Node)
  /-- Either pattern, the first one if both match. -/
  | alt (a b : Node)
  /-- The first capture group. -/
  | group (body : Node)
  /-- From `least` to `most` rounds of a pattern, as many as possible if `greedy`. -/
  | rounds (body : Node) (least : Nat) (most : Option Nat) (greedy : Bool)
  deriving DecidableEq, Repr

namespace Node

/-- Whether a match may be empty. -/
def nullable : Node → Bool
  | .empty => true
  | .char _ => false
  | .place _ => true
  | .seq a b => a.nullable && b.nullable
  | .alt a b => a.nullable || b.nullable
  | .group body => body.nullable
  | .rounds body least _ _ => least == 0 || body.nullable

/-- Whether every match is empty. -/
def alwaysEmpty : Node → Bool
  | .empty => true
  | .char _ => false
  | .place _ => true
  | .seq a b => a.alwaysEmpty && b.alwaysEmpty
  | .alt a b => a.alwaysEmpty && b.alwaysEmpty
  | .group body => body.alwaysEmpty
  | .rounds body _ most _ => most == some 0 || body.alwaysEmpty

/-- Repeats a pattern. More than one round of a pattern that only matches the empty text changes
nothing, so there is at most one. -/
def repeated (body : Node) (least : Nat) (most : Option Nat) (greedy : Bool) : Node :=
  if body.alwaysEmpty then .rounds body (min least 1) (some (min (most.getD 1) 1)) greedy
  else .rounds body least most greedy

/-- The number of instructions that a pattern takes. -/
def size : Node → Nat
  | .empty => 0
  | .char _ => 1
  | .place _ => 1
  | .seq a b => a.size + b.size
  | .alt a b => a.size + b.size + 1
  | .group body => body.size + 2
  | .rounds body least none _ => body.size * max least 1 + 2
  | .rounds body least (some most) _ => body.size * max least most + (most - least)

end Node

end PackedScript.Pattern

import PackedScript.Unicode.CaseFolding
import PackedScript.Unicode.DecimalDigit
import PackedScript.Unicode.Space
import PackedScript.Unicode.Word

/-!
# Classes of characters

A class is built from ranges and properties by the set operations, and by folding: the folded form
of a class holds each character that is, regardless of case, the same letter as some member.
-/

namespace PackedScript.Pattern

/-- A class of characters. -/
inductive CharClass where
  | empty
  | range (first last : Char)
  | digit
  | space
  | word
  | union (a b : CharClass)
  | inter (a b : CharClass)
  | compl (a : CharClass)
  | folded (a : CharClass)
  deriving DecidableEq, Repr

namespace CharClass

/-- Membership in a class. -/
def contains : CharClass → Char → Bool
  | .empty, _ => false
  | .range first last, c => first ≤ c && c ≤ last
  | .digit, c => Unicode.isDecimalDigit c
  | .space, c => Unicode.isSpace c
  | .word, c => Unicode.isWord c
  | .union a b, c => a.contains c || b.contains c
  | .inter a b, c => a.contains c && b.contains c
  | .compl a, c => !a.contains c
  | .folded a, c => a.contains c || (Unicode.caseVariants c).any a.contains

/-- The class of one character. -/
def single (c : Char) : CharClass := .range c c

/-- The class of every character. -/
def any : CharClass := .compl .empty

/-- The members of `a` that are not in `b`. -/
def diff (a b : CharClass) : CharClass := .inter a (.compl b)

/-- The members of exactly one of the two classes. -/
def symmDiff (a b : CharClass) : CharClass := .union (diff a b) (diff b a)

/-- The class of the characters of a list. -/
def ofList (cs : List Char) : CharClass := cs.foldr (fun c a => .union (single c) a) .empty

/-- The class of some ranges. -/
def ofRanges (rs : List (Char × Char)) : CharClass :=
  rs.foldr (fun r a => .union (.range r.1 r.2) a) .empty

/-- The class, or its complement. -/
def complIf (negated : Bool) (a : CharClass) : CharClass := if negated then .compl a else a

/-- The class, or its folded form. -/
def foldedIf (caseless : Bool) (a : CharClass) : CharClass := if caseless then .folded a else a

/-- The class of a character, or of all its case variants. -/
def letter (caseless : Bool) (c : Char) : CharClass :=
  if caseless then ofList (Unicode.caseVariants c) else single c

end CharClass

end PackedScript.Pattern

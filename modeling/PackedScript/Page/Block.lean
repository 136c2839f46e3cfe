import PackedScript.Failure
import PackedScript.Page.Flatten
import PackedScript.Pattern.Engine
import PackedScript.Text.Cut
import PackedScript.Unicode.CaseFolding

/-!
# Blocks of a page

A block is the part of a flattened page that a pattern picks out, letters read regardless of case:
its first capture group, or the whole match. The standard block is a call site from its signature to
the first closing parenthesis that a script's end follows, with at least one character between the
two.
-/

namespace PackedScript.Page

open Text

/-- What stands at the front of a text in the place of `lit`, regardless of case, and what follows
it. -/
def afterCaseless? : (lit t : Text) → Option (Text × Text)
  | [], rest => some ([], rest)
  | _ :: _, [] => none
  | x :: lit, y :: rest =>
    if Unicode.sameFold x y then (afterCaseless? lit rest).map fun found => (y :: found.1, found.2)
    else none

/-- How a standard block starts. -/
def blockStart : Text := "eval(function(p,a,c,k,e".toList

/-- How a standard block ends: the parenthesis belongs to it, the end of the script does not. -/
def blockEnd : Text := ")</script>".toList

/-- The first standard block of a flattened page (`PAGE_PATTERN`). -/
def standardBlock? (t : Text) : Option Text := do
  let (_, start, t) ← cutFirst (afterCaseless? blockStart) t
  match t with
  | [] => none
  | c :: t =>
    let (body, _) ← cutFirst (afterCaseless? blockEnd) t
    some (start ++ c :: body ++ [')'])

section

variable [Engine]

/-- The blocks that a pattern picks out of a page, without empty ones (`find_all`). -/
def blocks (pattern page : Text) : Except Failure (List Text) :=
  match Engine.read true pattern with
  | .ok pattern =>
    .ok (((Engine.all pattern (flatten page)).map Found.content).filter (!·.isEmpty))
  | .error text => .error (.pattern text)

/-- The first block that a pattern picks out of a page (`find_first`). -/
def firstBlock (pattern page : Text) : Except Failure (Option Text) :=
  (blocks pattern page).map List.head?

/-- The first block of a page: the standard one, or the one that a pattern picks out. -/
def block (pattern? : Option Text) (page : Text) : Except Failure (Option Text) :=
  match pattern? with
  | none => .ok (standardBlock? (flatten page))
  | some pattern => firstBlock pattern page

end

end PackedScript.Page

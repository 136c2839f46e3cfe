/-!
# Tables of code points

A property of characters is a table of the maximal runs of code points that have it. The runs are in
ascending order, so a search stops at the first run that starts above the code point it looks for:
for the characters of common text that is within the first few runs of any table.
-/

namespace PackedScript.Unicode

/-- Runs of code points, each given by its first and its last, in ascending order. -/
abbrev RunTable := List (Nat × Nat)

namespace RunTable

/-- Whether some run of the table holds `n`. -/
def contains : RunTable → Nat → Bool
  | [], _ => false
  | (first, last) :: runs, n =>
    if n < first then false else if n ≤ last then true else contains runs n

/-- Each run is in order and a gap of at least one code point separates it from the next. -/
def Ascending : RunTable → Bool
  | (first, last) :: (next, stop) :: runs =>
    decide (first ≤ last) && decide (last + 1 < next) && Ascending ((next, stop) :: runs)
  | [(first, last)] => decide (first ≤ last)
  | [] => true

end RunTable

end PackedScript.Unicode

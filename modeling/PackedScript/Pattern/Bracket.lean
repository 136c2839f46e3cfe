import PackedScript.Pattern.Escape

/-!
# Classes in brackets

A class in brackets is a union of characters, ranges, escapes, named classes such as `[:alpha:]` and
further classes in brackets. Unions are combined, from left to right, by `&&` for what both hold,
`--` for what only the first holds and `~~` for what exactly one holds. A caret after the bracket
takes the complement. Hyphens directly after that stand for themselves, and so does a closing
bracket if nothing is before it.

Where letters are read regardless of case, every operand and every class is folded before it is
combined or complemented.
-/

namespace PackedScript.Pattern

/-- What combines two unions. -/
inductive SetOp where
  | inter
  | diff
  | symmDiff
  deriving DecidableEq, Repr

/-- The combination of two classes. -/
def SetOp.apply : SetOp → CharClass → CharClass → CharClass
  | .inter => .inter
  | .diff => .diff
  | .symmDiff => .symmDiff

/-- A union that is being read: its members so far, how many items they came from, and how deep the
deepest of them is nested. -/
structure Items where
  set : CharClass
  count : Nat
  depth : Nat

namespace Items

/-- The union of no items. -/
def nil : Items := ⟨.empty, 0, 0⟩

/-- Adds an item. -/
def add (items : Items) (set : CharClass) (depth : Nat) : Items :=
  ⟨.union items.set set, items.count + 1, max items.depth depth⟩

/-- How deep the union is nested: two items or more make it one level deeper. -/
def level (items : Items) : Nat := if items.count ≤ 1 then items.depth else items.depth + 1

end Items

/-- What is still to be done when the current union ends. -/
inductive Pending where
  /-- A bracket is closed, and its class is added to the union around it. -/
  | bracket (negated : Bool) (around : Items)
  /-- An operation is applied to the class on its left. -/
  | operation (op : SetOp) (left : CharClass) (depth : Nat)

/-- Applies the operation that waits for the current union, if there is one. -/
def finishOperation (caseless : Bool) (items : Items) :
    List Pending → CharClass × Nat × List Pending
  | .operation op left depth :: pending =>
    (op.apply (.foldedIf caseless left) (.foldedIf caseless items.set),
      max depth items.level + 1, pending)
  | pending => (items.set, items.level, pending)

/-- The ranges of a named class. -/
def namedRanges? (name : Text) : Option (List (Char × Char)) :=
  if name = "alnum".toList then some [('0', '9'), ('A', 'Z'), ('a', 'z')]
  else if name = "alpha".toList then some [('A', 'Z'), ('a', 'z')]
  else if name = "ascii".toList then some [('\x00', '\x7f')]
  else if name = "blank".toList then some [('\t', '\t'), (' ', ' ')]
  else if name = "cntrl".toList then some [('\x00', '\x1f'), ('\x7f', '\x7f')]
  else if name = "digit".toList then some [('0', '9')]
  else if name = "graph".toList then some [('!', '~')]
  else if name = "lower".toList then some [('a', 'z')]
  else if name = "print".toList then some [(' ', '~')]
  else if name = "punct".toList then some [('!', '/'), (':', '@'), ('[', '\x60'), ('\x7b', '~')]
  else if name = "space".toList then some [('\t', '\r'), (' ', ' ')]
  else if name = "upper".toList then some [('A', 'Z')]
  else if name = "word".toList then some [('0', '9'), ('A', 'Z'), ('_', '_'), ('a', 'z')]
  else if name = "xdigit".toList then some [('0', '9'), ('A', 'F'), ('a', 'f')]
  else none

/-- The named class after its opening bracket, and what follows it. -/
def namedClass? (caseless : Bool) : Text → Option (CharClass × Text)
  | ':' :: rest =>
    let (negated, rest) :=
      match rest with
      | '^' :: rest => (true, rest)
      | rest => (false, rest)
    match rest.dropWhile (· != ':') with
    | ':' :: ']' :: after =>
      (namedRanges? (rest.takeWhile (· != ':'))).map fun rs =>
        (.complIf negated (.foldedIf caseless (.ofRanges rs)), after)
    | _ => none
  | _ => none

/-- One character or escape, and what follows it. -/
def item? (spaced : Bool) : Text → Option (Atom × Text)
  | [] => none
  | '\\' :: rest => escape? spaced rest
  | c :: rest => some (.literal c, rest)

/-- The character after the next one, where white space and the number sign of a comment do not
count in spaced notation. -/
def peekBlank (spaced : Bool) (t : Text) : Option Char :=
  if spaced then
    let next :=
      match t.dropWhile Unicode.isSpace with
      | '#' :: rest => rest.dropWhile Unicode.isSpace
      | t => t
    match next with
    | c :: _ => some c
    | [] => t.head?
  else t.head?

/-- The class of an item that is no range. -/
def Atom.class? : Atom → Option CharClass
  | .literal c => some (.single c)
  | .set a => some a
  | .place _ => none

/-- The class of a range. -/
def range? : Atom → Atom → Option CharClass
  | .literal first, .literal last => if first ≤ last then some (.range first last) else none
  | _, _ => none

/-- One item or range of items, and what follows it. A hyphen makes a range unless the class ends or
an operation begins right after it. -/
def rangeOrItem? (spaced : Bool) (t : Text) : Option (CharClass × Text) := do
  let (first, rest) ← item? spaced t
  match skipBlank spaced rest with
  | [] => none
  | '-' :: more =>
    if peekBlank spaced more == some ']' || peekBlank spaced more == some '-' then
      some (← first.class?, '-' :: more)
    else
      let (last, rest) ← item? spaced (skipBlank spaced more)
      some (← range? first last, rest)
  | rest => some (← first.class?, rest)

/-- The hyphens that stand for themselves after an opening bracket. -/
def leadingHyphens (spaced : Bool) : (fuel : Nat) → Items → Text → Items × Text
  | fuel + 1, items, '-' :: rest =>
    leadingHyphens spaced fuel (items.add (.single '-') 0) (skipBlank spaced rest)
  | _, items, t => (items, t)

/-- The start of a class after its opening bracket: whether it is a complement, its items so far,
and what follows them. -/
def openBracket (spaced : Bool) (t : Text) : Bool × Items × Text :=
  let t := skipBlank spaced t
  let (negated, t) :=
    match t with
    | '^' :: rest => (true, skipBlank spaced rest)
    | t => (false, t)
  let (items, t) := leadingHyphens spaced t.length Items.nil t
  match items.count, t with
  | 0, ']' :: rest => (negated, items.add (.single ']') 0, skipBlank spaced rest)
  | _, t => (negated, items, t)

/-- The loop of `bracket?`. Each round reads at least one character. -/
def bracketLoop (caseless spaced : Bool) :
    (fuel : Nat) → List Pending → Items → Text → Option (CharClass × Nat × Text)
  | 0, _, _, _ => none
  | fuel + 1, pending, items, t =>
    let operate (op : SetOp) (rest : Text) :=
      let (left, depth, pending) := finishOperation caseless items pending
      bracketLoop caseless spaced fuel (.operation op left depth :: pending) Items.nil rest
    match skipBlank spaced t with
    | [] => none
    | '[' :: rest =>
      match namedClass? caseless rest with
      | some (set, rest) => bracketLoop caseless spaced fuel pending (items.add set 0) rest
      | none =>
        let (negated, inner, rest) := openBracket spaced rest
        bracketLoop caseless spaced fuel (.bracket negated items :: pending) inner rest
    | ']' :: rest =>
      match finishOperation caseless items pending with
      | (set, depth, .bracket negated around :: pending) =>
        let set := CharClass.complIf negated (.foldedIf caseless set)
        if pending.isEmpty then some (set, depth + 1, rest)
        else bracketLoop caseless spaced fuel pending (around.add set (depth + 1)) rest
      | _ => none
    | '&' :: '&' :: rest => operate .inter rest
    | '-' :: '-' :: rest => operate .diff rest
    | '~' :: '~' :: rest => operate .symmDiff rest
    | t => do
      let (set, rest) ← rangeOrItem? spaced t
      bracketLoop caseless spaced fuel pending (items.add set 0) rest

/-- The class after an opening bracket, how deep it is nested, and what follows it. -/
def bracket? (caseless spaced : Bool) (t : Text) : Option (CharClass × Nat × Text) :=
  let (negated, items, rest) := openBracket spaced t
  bracketLoop caseless spaced (t.length + 1) [.bracket negated Items.nil] items rest

end PackedScript.Pattern

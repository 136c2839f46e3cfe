import PackedScript.Pattern.Bracket
import PackedScript.Unicode.Number

/-!
# Reading patterns

The notation is the usual one: literals, `.`, classes, `^` and `$`, groups, alternatives, and
repetitions that take as much as they can, or as little with `?` behind them. Groups may be named.
Flags in a group hold for the group, flags alone in parentheses for the rest of the group they stand
in:

* `i` reads letters regardless of case, `m` lets `^` and `$` match at lines, `s` lets `.` match a
  line feed,
* `R` makes a carriage return end a line, `U` swaps the two kinds of repetition, `x` is spaced
  notation,
* `u` is always on and cannot be switched off.

Looking around and references back to groups are not part of the notation. The reader goes through
the pattern once and keeps the open groups on a stack, so it needs no more rounds than there are
characters.
-/

namespace PackedScript.Pattern

/-- The flags in effect at a place of a pattern. -/
structure Flags where
  caseless : Bool
  multiline : Bool := false
  dotAll : Bool := false
  crlf : Bool := false
  swapGreed : Bool := false
  spaced : Bool := false
  deriving DecidableEq, Repr

/-- The flags with one of them switched. -/
def Flags.switch? (flags : Flags) (on : Bool) : Char → Option Flags
  | 'i' => some { flags with caseless := on }
  | 'm' => some { flags with multiline := on }
  | 's' => some { flags with dotAll := on }
  | 'R' => some { flags with crlf := on }
  | 'U' => some { flags with swapGreed := on }
  | 'x' => some { flags with spaced := on }
  | 'u' => if on then some flags else none
  | _ => none

/-- A piece of a pattern that has been read, and how deep it is nested. Flags are a piece that
cannot be repeated. -/
structure Piece where
  node : Node
  depth : Nat
  isFlags : Bool

/-- A group that has been opened: what was read before it and around it. -/
structure OpenGroup where
  /-- Whether this is the first capture group. -/
  first : Bool
  /-- The flags around the group. -/
  flags : Flags
  /-- The earlier alternatives around the group, last first. -/
  alternatives : List Piece
  /-- The pieces before the group, last first. -/
  pieces : List Piece

/-- What has been read of a pattern. -/
structure Reading where
  flags : Flags
  /-- The earlier alternatives of the current group, last first. -/
  alternatives : List Piece := []
  /-- The pieces of the current alternative, last first. -/
  pieces : List Piece := []
  /-- The groups around the current one, innermost first. -/
  groups : List OpenGroup := []
  /-- Whether a capture group has been opened. -/
  captured : Bool := false
  /-- The names of the groups. -/
  names : List Text := []

/-- Some pieces in a row, last first. -/
def sequence : List Piece → Piece
  | [] => ⟨.empty, 0, false⟩
  | [p] => ⟨p.node, p.depth, false⟩
  | p :: ps =>
    ps.foldl (fun row p => ⟨.seq p.node row.node, max row.depth (p.depth + 1), false⟩)
      ⟨p.node, p.depth + 1, false⟩

/-- Some alternatives, last first. -/
def choice : List Piece → Piece
  | [] => ⟨.empty, 0, false⟩
  | [p] => p
  | p :: ps =>
    ps.foldl (fun row p => ⟨.alt p.node row.node, max row.depth (p.depth + 1), false⟩)
      ⟨p.node, p.depth + 1, false⟩

namespace Reading

/-- The current group as far as it has been read. -/
def whole (r : Reading) : Piece := choice (sequence r.pieces :: r.alternatives)

/-- Adds a piece to the current alternative. -/
def add (r : Reading) (node : Node) (depth : Nat) : Reading :=
  { r with pieces := ⟨node, depth, false⟩ :: r.pieces }

/-- Adds what a character, class or place of a pattern matches. -/
def addAtom (r : Reading) : Atom → Reading
  | .literal c => r.add (.char (.letter r.flags.caseless c)) 0
  | .set a => r.add (.char a) 0
  | .place p => r.add (.place p) 0

/-- The class of a dot. -/
def dot (r : Reading) : CharClass :=
  if r.flags.dotAll then .any
  else if r.flags.crlf then .compl (.union (.single '\n') (.single '\r'))
  else .compl (.single '\n')

/-- Opens a group with the given flags. -/
def openGroup (r : Reading) (capturing : Bool) (flags : Flags) : Reading :=
  { flags
    alternatives := []
    pieces := []
    groups := ⟨capturing && !r.captured, r.flags, r.alternatives, r.pieces⟩ :: r.groups
    captured := r.captured || capturing
    names := r.names }

/-- Closes the current group. -/
def closeGroup? (r : Reading) : Option Reading :=
  match r.groups with
  | [] => none
  | g :: groups =>
    let body := r.whole
    let node := if g.first then .group body.node else body.node
    some { r with
      flags := g.flags
      alternatives := g.alternatives
      pieces := ⟨node, body.depth + 1, false⟩ :: g.pieces
      groups }

/-- Repeats the last piece. -/
def repeat? (r : Reading) (least : Nat) (most : Option Nat) (greedy : Bool) : Option Reading :=
  match r.pieces with
  | [] => none
  | p :: pieces =>
    if p.isFlags then none
    else
      let node := Node.repeated p.node least most (greedy != r.flags.swapGreed)
      some { r with pieces := ⟨node, p.depth + 1, false⟩ :: pieces }

end Reading

/-- Whether a repetition is followed by the sign that makes it take as little as it can, and what
follows then. -/
def lazySign : Text → Bool × Text
  | '?' :: rest => (true, rest)
  | t => (false, t)

/-- Counts of a repetition have 32 bits: they are below this bound. -/
def countLimit : Nat := 0x100000000

/-- The loop of `count?`: `value` is the value of the digits so far, if there are any. -/
def countLoop (spaced : Bool) : (comment : Bool) → (value : Option Nat) → Text → Option Nat × Text
  | _, value, [] => (value, [])
  | comment, value, c :: rest =>
    if comment then countLoop spaced (c != '\n') value rest
    else if spaced && Unicode.isSpace c then countLoop spaced false value rest
    else if spaced && c == '#' then countLoop spaced true value rest
    else if c.isDigit then
      countLoop spaced false (some (value.getD 0 * 10 + (c.toNat - '0'.toNat))) rest
    else (value, c :: rest)

/-- A count of a repetition with white space around it, and what follows. -/
def count? (spaced : Bool) (t : Text) : Option (Nat × Text) :=
  match countLoop spaced false none (Text.trimStart t) with
  | (some value, rest) => if value < countLimit then some (value, Text.trimStart rest) else none
  | (none, _) => none

/-- The least and the greatest number of rounds of a repetition in braces, and what follows the
closing brace. -/
def counts? (spaced : Bool) (t : Text) : Option (Nat × Option Nat × Text) := do
  let (least, rest) ← count? spaced (skipBlank spaced t)
  match rest with
  | '\x7d' :: rest => some (least, some least, rest)
  | ',' :: rest =>
    match skipBlank spaced rest with
    | '\x7d' :: rest => some (least, none, rest)
    | rest =>
      let (most, rest) ← count? spaced rest
      match rest with
      | '\x7d' :: rest => if least ≤ most then some (least, some most, rest) else none
      | _ => none
  | _ => none

/-- What some flags end with. -/
inductive FlagsEnd where
  /-- A colon: the flags hold for the group that it opens. -/
  | group
  /-- A parenthesis: the flags hold from here on. -/
  | here

/-- The flags up to a colon or a closing parenthesis, and what follows it. `seen` holds the flags
that have been named, `negated` tells that a hyphen has been read and `dangling` that it was read
last. -/
def flags? (flags : Flags) (seen : List Char) (negated dangling : Bool) :
    Text → Option (Flags × FlagsEnd × Text)
  | [] => none
  | ':' :: rest => if dangling then none else some (flags, .group, rest)
  | ')' :: rest => if dangling || seen.isEmpty then none else some (flags, .here, rest)
  | '-' :: rest => if negated then none else flags? flags seen true true rest
  | c :: rest =>
    if seen.contains c then none
    else
      match flags.switch? (!negated) c with
      | some flags => flags? flags (c :: seen) negated false rest
      | none => none

/-- A character that may start the name of a group. -/
def startsName (c : Char) : Bool := c == '_' || Unicode.isAlphabetic c

/-- A character that may stand in the name of a group. -/
def continuesName (c : Char) : Bool :=
  c == '_' || c == '.' || c == '[' || c == ']' || Unicode.isAlphanumeric c

/-- The name of a group up to the closing angle bracket, and what follows it. -/
def groupName? (t : Text) : Option (Text × Text) :=
  match t.takeWhile (· != '>'), t.dropWhile (· != '>') with
  | c :: cs, _ :: rest =>
    if startsName c && cs.all continuesName then some (c :: cs, rest) else none
  | _, _ => none

namespace Reading

/-- Opens the group with the name that follows. -/
def openNamed? (r : Reading) (t : Text) : Option (Reading × Text) := do
  let (name, rest) ← groupName? t
  if r.names.contains name then none
  else some ({ r.openGroup true r.flags with names := name :: r.names }, rest)

/-- Reads what follows an opening parenthesis. -/
def group? (r : Reading) (t : Text) : Option (Reading × Text) :=
  match skipBlank r.flags.spaced t with
  | '?' :: '=' :: _ | '?' :: '!' :: _ | '?' :: '<' :: '=' :: _ | '?' :: '<' :: '!' :: _ => none
  | '?' :: 'P' :: '<' :: rest => r.openNamed? rest
  | '?' :: '<' :: rest => r.openNamed? rest
  | '?' :: rest => do
    match ← flags? r.flags [] false false rest with
    | (flags, .group, rest) => some (r.openGroup false flags, rest)
    | (flags, .here, rest) =>
      some ({ r with flags, pieces := ⟨.empty, 0, true⟩ :: r.pieces }, rest)
  | t => some (r.openGroup true r.flags, t)

/-- Reads what the character `c` begins, of which `rest` is what follows the character. -/
def step? (r : Reading) (c : Char) (rest : Text) : Option (Reading × Text) :=
  match c with
  | '(' => r.group? rest
  | ')' => r.closeGroup?.map (·, rest)
  | '|' =>
    some ({ r with alternatives := sequence r.pieces :: r.alternatives, pieces := [] }, rest)
  | '[' => do
    let (set, depth, rest) ← bracket? r.flags.caseless r.flags.spaced rest
    some (r.add (.char set) depth, rest)
  | '?' =>
    let (few, rest) := lazySign rest
    (r.repeat? 0 (some 1) !few).map (·, rest)
  | '*' =>
    let (few, rest) := lazySign rest
    (r.repeat? 0 none !few).map (·, rest)
  | '+' =>
    let (few, rest) := lazySign rest
    (r.repeat? 1 none !few).map (·, rest)
  | '\x7b' => do
    let (least, most, rest) ← counts? r.flags.spaced rest
    let (few, rest) := lazySign (skipBlank r.flags.spaced rest)
    (r.repeat? least most !few).map (·, rest)
  | '\\' => do
    let (atom, rest) ← escape? r.flags.spaced rest
    some (r.addAtom atom, rest)
  | '.' => some (r.add (.char r.dot) 0, rest)
  | '^' =>
    let p := if r.flags.multiline then Place.lineStart r.flags.crlf else .textStart
    some (r.add (.place p) 0, rest)
  | '$' =>
    let p := if r.flags.multiline then Place.lineEnd r.flags.crlf else .textEnd
    some (r.add (.place p) 0, rest)
  | c => some (r.addAtom (.literal c), rest)

end Reading

/-- The loop of `Node.read?`. Each round reads at least one character. -/
def readLoop : (fuel : Nat) → Reading → Text → Option Reading
  | 0, _, _ => none
  | fuel + 1, r, t =>
    match skipBlank r.flags.spaced t with
    | [] => some r
    | c :: rest =>
      match r.step? c rest with
      | some (r, rest) => readLoop fuel r rest
      | none => none

/-- Patterns may be nested this deep. -/
def depthLimit : Nat := 250

/-- The tree of a pattern that is well formed. -/
def Node.read? (caseless : Bool) (t : Text) : Option Node := do
  let r ← readLoop (t.length + 1) { flags := { caseless } } t
  if r.groups.isEmpty && r.whole.depth ≤ depthLimit then some r.whole.node else none

end PackedScript.Pattern

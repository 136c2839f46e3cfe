import PackedScript.Pattern.Reader

/-!
# Patterns as programs

For searching, a pattern becomes a program of small instructions, each of which names those that may
come next, the preferred one first. Programs are built from the end: each part is given the place
where the search goes on after it, and answers with the place where it starts.

A repetition without an upper bound is a loop. Where the repeated pattern can match the empty text,
the choice to do no round at all is a choice of its own before the loop, since a loop that comes
back to its choice without having read anything would lose its place in the order of preference.
-/

namespace PackedScript.Pattern

/-- An instruction. -/
inductive Instr where
  /-- Reads one character of a class. -/
  | char (set : CharClass) (next : Nat)
  /-- Goes on where a place fulfils a condition. -/
  | place (p : Place) (next : Nat)
  /-- Notes that the first capture group starts here. -/
  | groupStart (next : Nat)
  /-- Notes that the first capture group ends here. -/
  | groupEnd (next : Nat)
  /-- Goes on at either place, and prefers the first. -/
  | split (first second : Nat)
  /-- The match is complete. -/
  | accept
  /-- There is no way on from here. -/
  | stop
  deriving DecidableEq, Repr

/-- The instructions that have been written, by place. -/
abbrev Program := Array Instr

/-- Writes a part that goes on at a place, and answers with the place where the part starts. -/
abbrev Writer := (next : Nat) → Program → Nat × Program

/-- Writes one instruction. -/
def emit (i : Instr) (program : Program) : Nat × Program := (program.size, program.push i)

/-- A choice that prefers `more` if `greedy`, and `enough` otherwise. -/
def preference (greedy : Bool) (more enough : Nat) : Instr :=
  if greedy then .split more enough else .split enough more

/-- Writes a part `count` times in a row. -/
def copies (part : Writer) : (count : Nat) → Writer
  | 0, next, program => (next, program)
  | count + 1, next, program =>
    let (start, program) := part next program
    copies part count start program

/-- Writes a part up to `count` times, where each round may be the last; `exit` is the place to go
on at. -/
def optional (part : Writer) (greedy : Bool) (exit : Nat) : (count : Nat) → Writer
  | 0, next, program => (next, program)
  | count + 1, next, program =>
    let (start, program) := part next program
    let (choice, program) := emit (preference greedy start exit) program
    optional part greedy exit count choice program

/-- Writes a loop: the places of its first round and of the choice after each round. -/
def loop (part : Writer) (greedy : Bool) (next : Nat) (program : Program) : Nat × Nat × Program :=
  let (choice, program) := emit .stop program
  let (start, program) := part choice program
  (start, choice, program.setIfInBounds choice (preference greedy start next))

/-- Writes a part `least` times or more. -/
def atLeast (part : Writer) (nullable greedy : Bool) (least : Nat) : Writer := fun next program =>
  let (start, choice, program) := loop part greedy next program
  match least with
  | 0 => if nullable then emit (preference greedy start next) program else (choice, program)
  | least + 1 => copies part least start program

/-- Writes a pattern. -/
def write : Node → Writer
  | .empty => fun next program => (next, program)
  | .char set => fun next program => emit (.char set next) program
  | .place p => fun next program => emit (.place p next) program
  | .seq a b => fun next program =>
    let (start, program) := write b next program
    write a start program
  | .alt a b => fun next program =>
    let (second, program) := write b next program
    let (first, program) := write a next program
    emit (.split first second) program
  | .group body => fun next program =>
    let (stop, program) := emit (.groupEnd next) program
    let (start, program) := write body stop program
    emit (.groupStart start) program
  | .rounds body least none greedy => atLeast (write body) body.nullable greedy least
  | .rounds body least (some most) greedy => fun next program =>
    let (start, program) := optional (write body) greedy next (most - least) next program
    copies (write body) least start program

end Pattern

/-- A pattern that is ready for searching. -/
structure Pattern where
  /-- The instructions by place. -/
  program : Pattern.Program
  /-- The place where the pattern starts. -/
  start : Nat
  deriving DecidableEq, Repr

namespace Pattern

/-- Programs have at most this many instructions. -/
def sizeLimit : Nat := 300000

/-- The pattern that a tree stands for. -/
def ofNode (node : Node) : Pattern :=
  let (start, program) := write node 0 #[.accept]
  ⟨program, start⟩

/-- The pattern that a text stands for, if it is well formed and not too large. With `caseless`,
letters are read regardless of case from the start. -/
def ofText? (caseless : Bool) (t : Text) : Option Pattern := do
  let node ← Node.read? caseless t
  if node.size ≤ sizeLimit then some (ofNode node) else none

end PackedScript.Pattern

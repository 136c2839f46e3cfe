import PackedScript.Pattern.Engine
import PackedScript.Pattern.Program

/-!
# Searching

A search goes through the text once and follows all ways through the program at the same time. The
ways stand in a list in the order of preference, no two of them at the same instruction, so one step
costs no more than the program is long. A way that is complete cuts off all ways after it, and the
last one that does so is the match. Ways that start further to the right come last and only as long
as nothing has matched, so the match is the preferred one among the leftmost.

A match is given by places, counted from the start of the searched text.
-/

namespace PackedScript.Pattern

/-- Where a match starts and ends, and where the first capture group does, if it took part. -/
structure Match where
  start : Nat
  stop : Nat
  group : Option (Nat × Nat)
  deriving DecidableEq, Repr

/-- A way through the program: the instruction it has come to, where it started, where the first
capture group was last opened, and where that group was last opened and closed. -/
structure Way where
  instr : Nat
  start : Nat
  opened : Nat
  group : Option (Nat × Nat)

/-- A place of the text: the number of characters before it, and the characters on both sides. -/
structure Spot where
  place : Nat
  before : Option Char
  after : Option Char

/-- The ways at a spot, last first, and for each instruction the round in which it was last reached.
-/
structure Front where
  ways : List Way
  reached : Array Nat

/-- Follows the waiting ways up to the instructions that read a character or complete the match. An
instruction that has been reached in this round is not reached again. -/
def follow (program : Program) (spot : Spot) : (fuel : Nat) → List Way → Front → Front
  | 0, _, front => front
  | _ + 1, [], front => front
  | fuel + 1, way :: waiting, front =>
    let round := spot.place + 1
    if front.reached[way.instr]? == some round then follow program spot fuel waiting front
    else
      let reached := front.reached.setIfInBounds way.instr round
      match program[way.instr]? with
      | none => follow program spot fuel waiting ⟨front.ways, reached⟩
      | some .stop => follow program spot fuel waiting ⟨front.ways, reached⟩
      | some (.char ..) => follow program spot fuel waiting ⟨way :: front.ways, reached⟩
      | some .accept => follow program spot fuel waiting ⟨way :: front.ways, reached⟩
      | some (.split first second) =>
        follow program spot fuel
          ({ way with instr := first } :: { way with instr := second } :: waiting)
          ⟨front.ways, reached⟩
      | some (.place p next) =>
        if p.holds spot.before spot.after then
          follow program spot fuel ({ way with instr := next } :: waiting) ⟨front.ways, reached⟩
        else follow program spot fuel waiting ⟨front.ways, reached⟩
      | some (.groupStart next) =>
        follow program spot fuel ({ way with instr := next, opened := spot.place } :: waiting)
          ⟨front.ways, reached⟩
      | some (.groupEnd next) =>
        follow program spot fuel
          ({ way with instr := next, group := some (way.opened, spot.place) } :: waiting)
          ⟨front.ways, reached⟩

/-- Follows one way. No instruction is reached twice, and each has at most two successors. -/
def enter (program : Program) (spot : Spot) (way : Way) (front : Front) : Front :=
  follow program spot (2 * program.size + 2) [way] front

/-- Moves the ways, in order, past the character `c` to the spot behind it. Answers with the match
that a complete way cut the others off with, if there was one. -/
def advance (program : Program) (place : Nat) (c? : Option Char) (spot : Spot) :
    List Way → Front → Option Match × Front
  | [], front => (none, front)
  | way :: ways, front =>
    match program[way.instr]? with
    | some .accept => (some ⟨way.start, place, way.group⟩, front)
    | some (.char set next) =>
      match c? with
      | some c =>
        if set.contains c then
          advance program place c? spot ways (enter program spot { way with instr := next } front)
        else advance program place c? spot ways front
      | none => advance program place c? spot ways front
    | _ => advance program place c? spot ways front

/-- The loop of `find?`: `ways` are those at the current place, `best` is the match so far. -/
def findLoop (pattern : Pattern) (place : Nat) (before : Option Char) (front : Front)
    (best : Option Match) : Text → Option Match
  | [] =>
    let spot := ⟨place, before, none⟩
    let front := if best.isNone then
      enter pattern.program spot ⟨pattern.start, place, place, none⟩ front else front
    let (found, _) := advance pattern.program place none spot front.ways.reverse ⟨[], #[]⟩
    found <|> best
  | c :: rest =>
    if best.isSome && front.ways.isEmpty then best
    else
      let front := if best.isNone then
        enter pattern.program ⟨place, before, some c⟩ ⟨pattern.start, place, place, none⟩ front
        else front
      let ways := front.ways.reverse
      let behind := ⟨place + 1, some c, rest.head?⟩
      let (found, front) :=
        advance pattern.program place (some c) behind ways ⟨[], front.reached⟩
      findLoop pattern (place + 1) (some c) front (found <|> best) rest

/-- The leftmost match of a pattern in a text that stands behind the character `before`. -/
def find? (pattern : Pattern) (before : Option Char) (t : Text) : Option Match :=
  findLoop pattern 0 before ⟨[], Array.replicate pattern.program.size 0⟩ none t

/-- The part of a text between two places. -/
def between (t : Text) (start stop : Nat) : Text := (t.drop start).take (stop - start)

/-- What a match in a text holds. -/
def Match.found (m : Match) (t : Text) : Found :=
  ⟨between t m.start m.stop, m.group.map fun (start, stop) => between t start stop⟩

/-- What the leftmost match in a text holds. -/
def first? (pattern : Pattern) (t : Text) : Option Found :=
  (pattern.find? none t).map (·.found t)

/-- The loop of `all`. `fresh` tells that no match ends here. -/
def allLoop (pattern : Pattern) :
    (fuel : Nat) → (fresh : Bool) → (before : Option Char) → Text → List Found → List Found
  | 0, _, _, _, found => found.reverse
  | fuel + 1, fresh, before, t, found =>
    let next (before : Option Char) (t : Text) (m : Match) :=
      let before := if m.stop = 0 then before else t[m.stop - 1]?
      allLoop pattern fuel false before (t.drop m.stop) (m.found t :: found)
    match pattern.find? before t with
    | none => found.reverse
    | some m =>
      if !fresh && m.stop == 0 then
        match t with
        | [] => found.reverse
        | c :: rest =>
          match pattern.find? (some c) rest with
          | none => found.reverse
          | some m => next (some c) rest m
      else next before t m

/-- What the matches in a text hold, from left to right. Matches do not overlap, and an empty one is
not taken where another match has just ended. -/
def all (pattern : Pattern) (t : Text) : List Found :=
  allLoop pattern (t.length + 2) true none t []

end PackedScript.Pattern

import PackedScript.Text.Basic

/-!
# Numbers read from digits

A numeral is read from its most significant digit on. Every number has a bound that it must stay
below; the bound is tested after each digit, so a numeral fails for the first thing wrong with it
from the left: a character that is no digit, or a value that has reached the bound.
-/

namespace PackedScript

/-- Why a numeral has no value. -/
inductive NumeralError where
  /-- There is no character at all, or one that is no digit. -/
  | invalidDigit
  /-- The value reaches the bound. -/
  | overflow
  deriving DecidableEq, Repr

/-- The wording of a numeral's fault. -/
def NumeralError.message : NumeralError → String
  | .invalidDigit => "Invalid character in input string."
  | .overflow => "Numeral does not fit in usize."

namespace Numeral

/-- Sizes, counts and indices have 64 bits: they are below this bound. -/
def sizeLimit : Nat := 0x10000000000000000

/-- Appends one digit to a numeral of value `value`. A character that is no digit is a fault even
where the value would overflow. -/
def appendDigit (bound base : Nat) (digit? : Char → Option Nat) (value : Nat) (c : Char) :
    Except NumeralError Nat :=
  match digit? c with
  | none => .error .invalidDigit
  | some d => if value * base + d < bound then .ok (value * base + d) else .error .overflow

/-- The loop of `positional`: the value of the digits so far is `value`. -/
def positionalFrom (bound base : Nat) (digit? : Char → Option Nat) (value : Nat) :
    Text → Except NumeralError Nat
  | [] => .ok value
  | c :: rest =>
    match appendDigit bound base digit? value c with
    | .ok value => positionalFrom bound base digit? value rest
    | .error fault => .error fault

/-- The value of a numeral that is not empty, with the most significant digit first. -/
def positional (bound base : Nat) (digit? : Char → Option Nat) : Text → Except NumeralError Nat
  | [] => .error .invalidDigit
  | t => positionalFrom bound base digit? 0 t

/-- The value of a decimal digit among the first 128 characters. -/
def decimalDigit? (c : Char) : Option Nat :=
  if '0' ≤ c ∧ c ≤ '9' then some (c.toNat - '0'.toNat) else none

/-- The value of a hexadecimal digit in either case. -/
def hexDigit? (c : Char) : Option Nat :=
  if '0' ≤ c ∧ c ≤ '9' then some (c.toNat - '0'.toNat)
  else if 'a' ≤ c ∧ c ≤ 'f' then some (c.toNat - 'a'.toNat + 10)
  else if 'A' ≤ c ∧ c ≤ 'F' then some (c.toNat - 'A'.toNat + 10)
  else none

/-- The value of a decimal numeral below `bound`. Digits of other scripts than the common one do not
count. -/
def decimal? (bound : Nat) (t : Text) : Option Nat := (positional bound 10 decimalDigit? t).toOption

end Numeral

end PackedScript

import PackedScript.Text.Basic

/-!
# Base64

The standard alphabet, with padding that is required and with unused bits that must be zero, so each
list of bytes has exactly one written form. Four symbols carry three bytes; only the last group may
be padded.

A text that is no such form is refused with the first fault in this order: a stray last byte, the
groups before the last one from left to right, the symbols of the last group from left to right, and
then the shape of the last group.
-/

namespace PackedScript.Base64

/-- Why a list of bytes is no Base64 form. -/
inductive Fault where
  /-- A byte at an offset that is no symbol, or a padding sign where none may stand. -/
  | symbol (byte : UInt8) (offset : Nat)
  /-- A last group of fewer than two symbols; `count` is the number of symbols up to there. -/
  | length (count : Nat)
  /-- A last symbol that carries bits of no byte. -/
  | lastSymbol (byte : UInt8) (offset : Nat)
  /-- A last group that is not padded to four signs. -/
  | padding
  deriving DecidableEq, Repr

/-- The wording of a fault. -/
def Fault.message : Fault → String
  | .symbol byte offset => s!"Invalid symbol {byte.toNat}, offset {offset}."
  | .length count => s!"Invalid input length: {count}"
  | .lastSymbol byte offset => s!"Invalid last symbol {byte.toNat}, offset {offset}."
  | .padding => "Invalid padding"

/-- The padding sign. -/
def pad : UInt8 := 61

/-- The six bits of a symbol: `A` to `Z`, `a` to `z`, `0` to `9`, `+` and `/`. -/
def value? (b : UInt8) : Option Nat :=
  let n := b.toNat
  if 65 ≤ n ∧ n ≤ 90 then some (n - 65)
  else if 97 ≤ n ∧ n ≤ 122 then some (n - 97 + 26)
  else if 48 ≤ n ∧ n ≤ 57 then some (n - 48 + 52)
  else if n = 43 then some 62
  else if n = 47 then some 63
  else none

/-- The six bits of the byte at an offset. -/
def value (b : UInt8) (offset : Nat) : Except Fault Nat :=
  match value? b with
  | some v => .ok v
  | none => .error (.symbol b offset)

/-- The symbols and the number of padding signs of the last group. `symbols` and `pads` are those
read so far, the symbols last first, each with its six bits. A padding sign needs two symbols before
it, and no symbol may follow one. -/
def lastSymbols (start : Nat) (symbols : List (UInt8 × Nat)) (pads : Nat) :
    List UInt8 → Except Fault (List (UInt8 × Nat) × Nat)
  | [] => .ok (symbols.reverse, pads)
  | b :: rest =>
    if b = pad then
      if symbols.length + pads < 2 then .error (.symbol b (start + symbols.length + pads))
      else lastSymbols start symbols (pads + 1) rest
    else if 0 < pads then .error (.symbol pad (start + symbols.length))
    else
      match value b (start + symbols.length) with
      | .ok v => lastSymbols start ((b, v) :: symbols) pads rest
      | .error fault => .error fault

/-- The bytes of the last group, which starts at offset `start`. -/
def lastBytes (start : Nat) : List UInt8 → Except Fault (List UInt8)
  | [] => .ok []
  | group =>
    match lastSymbols start [] 0 group with
    | .error fault => .error fault
    | .ok (symbols, pads) =>
      match symbols with
      | [] | [_] => .error (.length (start + symbols.length))
      | [(_, v), (b, w)] =>
        if pads ≠ 2 then .error .padding
        else if w % 16 ≠ 0 then .error (.lastSymbol b (start + 1))
        else .ok [UInt8.ofNat (v * 4 + w / 16)]
      | [(_, v), (_, w), (b, x)] =>
        if pads ≠ 1 then .error .padding
        else if x % 4 ≠ 0 then .error (.lastSymbol b (start + 2))
        else .ok [UInt8.ofNat (v * 4 + w / 16), UInt8.ofNat (w % 16 * 16 + x / 4)]
      | (_, v) :: (_, w) :: (_, x) :: (_, y) :: _ =>
        .ok [UInt8.ofNat (v * 4 + w / 16), UInt8.ofNat (w % 16 * 16 + x / 4),
          UInt8.ofNat (x % 4 * 64 + y)]

/-- The bytes of the groups from offset `start` on; `written` are those before, last first. -/
def decodeGroups (start : Nat) (written : List UInt8) : List UInt8 → Except Fault (List UInt8)
  | a :: b :: c :: d :: e :: rest => do
    let v ← value a start
    let w ← value b (start + 1)
    let x ← value c (start + 2)
    let y ← value d (start + 3)
    decodeGroups (start + 4)
      (UInt8.ofNat (x % 4 * 64 + y) :: UInt8.ofNat (w % 16 * 16 + x / 4)
        :: UInt8.ofNat (v * 4 + w / 16) :: written) (e :: rest)
  | group => (lastBytes start group).map (written.reverse ++ ·)

/-- The last byte of a list that is one longer than some number of whole groups, if it is neither a
symbol nor a padding sign. -/
def strayByte? (bytes : List UInt8) : Option Fault :=
  if bytes.length % 4 = 1 then
    bytes.getLast?.bind fun b =>
      if b ≠ pad ∧ value? b = none then some (.symbol b (bytes.length - 1)) else none
  else none

/-- The bytes that a Base64 form stands for. -/
def decode (bytes : List UInt8) : Except Fault (List UInt8) :=
  match strayByte? bytes with
  | some fault => .error fault
  | none => decodeGroups 0 [] bytes

/-- The symbol of six bits. -/
def symbol (v : Nat) : Char :=
  if v < 26 then Char.ofNat (65 + v)
  else if v < 52 then Char.ofNat (97 + (v - 26))
  else if v < 62 then Char.ofNat (48 + (v - 52))
  else if v = 62 then '+'
  else '/'

/-- The Base64 form of a list of bytes. -/
def encode : List UInt8 → Text
  | [] => []
  | [a] => [symbol (a.toNat / 4), symbol (a.toNat % 4 * 16), '=', '=']
  | [a, b] =>
    [symbol (a.toNat / 4), symbol (a.toNat % 4 * 16 + b.toNat / 16), symbol (b.toNat % 16 * 4), '=']
  | a :: b :: c :: rest =>
    symbol (a.toNat / 4) :: symbol (a.toNat % 4 * 16 + b.toNat / 16)
      :: symbol (b.toNat % 16 * 4 + c.toNat / 64) :: symbol (c.toNat % 64) :: encode rest

end PackedScript.Base64

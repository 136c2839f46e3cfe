import PackedScript.Text.Basic

/-!
# UTF-8

Every text has one UTF-8 form, but not every list of bytes is one. Reading is therefore lossy: each
maximal part that no character can continue becomes one replacement character, and nothing else is
lost.

The reader is a machine that takes one byte at a time. Between two characters it is at `start`;
inside a character it knows how many bytes are owed and between which bounds the next one must lie.
A byte out of bounds ends the part before it and starts afresh.
-/

namespace PackedScript.Utf8

/-- The UTF-8 form of a text. -/
def encode (t : Text) : List UInt8 := t.flatMap String.utf8EncodeChar

/-- Where the reader stands. -/
inductive State where
  /-- Between two characters. -/
  | start
  /-- Inside a character: `owed` bytes are missing, the next one lies from `low` to `high`, and the
  bits so far make `value`. -/
  | inside (owed low high value : Nat)
  deriving DecidableEq, Repr

/-- What stands for a part that is no character. -/
def replacement : Char := '\ufffd'

/-- What a byte gives between two characters, and the state after it. -/
def first (b : Nat) : Text × State :=
  if b < 0x80 then ([Char.ofNat b], .start)
  else if 0xC2 ≤ b ∧ b ≤ 0xDF then ([], .inside 1 0x80 0xBF (b - 0xC0))
  else if b = 0xE0 then ([], .inside 2 0xA0 0xBF 0)
  else if b = 0xED then ([], .inside 2 0x80 0x9F 0xD)
  else if 0xE1 ≤ b ∧ b ≤ 0xEF then ([], .inside 2 0x80 0xBF (b - 0xE0))
  else if b = 0xF0 then ([], .inside 3 0x90 0xBF 0)
  else if 0xF1 ≤ b ∧ b ≤ 0xF3 then ([], .inside 3 0x80 0xBF (b - 0xF0))
  else if b = 0xF4 then ([], .inside 3 0x80 0x8F 4)
  else ([replacement], .start)

/-- What a byte gives, and the state after it. -/
def step : State → Nat → Text × State
  | .start, b => first b
  | .inside owed low high value, b =>
    if low ≤ b ∧ b ≤ high then
      if owed ≤ 1 then ([Char.ofNat (value * 64 + (b - 0x80))], .start)
      else ([], .inside (owed - 1) 0x80 0xBF (value * 64 + (b - 0x80)))
    else (replacement :: (first b).1, (first b).2)

/-- What the end of the bytes gives. -/
def finish : State → Text
  | .start => []
  | .inside .. => [replacement]

/-- The loop of `decode`: `written` is the text so far, last character first. -/
def decodeLoop (state : State) (written : Text) : List UInt8 → Text
  | [] => ((finish state).reverse ++ written).reverse
  | b :: rest =>
    let (new, state) := step state b.toNat
    decodeLoop state (new.reverse ++ written) rest

/-- The text that the bytes stand for, with a replacement character for each part that is none. -/
def decode (bytes : List UInt8) : Text := decodeLoop .start [] bytes

theorem decodeLoop_eq (state : State) (written : Text) (bytes : List UInt8) :
    decodeLoop state written bytes = written.reverse ++ decodeLoop state [] bytes := by
  induction bytes generalizing state written with
  | nil => simp [decodeLoop]
  | cons b rest ih =>
    simp only [decodeLoop]
    rw [ih, ih _ ((step state b.toNat).1.reverse ++ [])]
    simp

@[simp] theorem decodeLoop_nil (state : State) : decodeLoop state [] [] = finish state := by
  simp [decodeLoop]

theorem decodeLoop_cons (state : State) (b : UInt8) (rest : List UInt8) :
    decodeLoop state [] (b :: rest)
      = (step state b.toNat).1 ++ decodeLoop (step state b.toNat).2 [] rest := by
  simp only [decodeLoop]
  rw [decodeLoop_eq]
  simp

end PackedScript.Utf8

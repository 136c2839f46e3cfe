import PackedScript.Proofs.Bytes.Utf8

/-!
# Reading bytes that are no UTF-8

What the bytes of a text are read as is settled without the machine that reads them (`Lossy`): where
the form of a character stands, the character is read, and where none stands, the longest part that
is a single byte or the start of a form is read as one replacement character. The machine does just
this (`lossy_iff`). It has come so far inside a character as its bytes are the start of a form, and
when the next byte is out of bounds, no form goes on with it: the machine reads each form as its
character, and here it would read a replacement character and more.
-/

namespace PackedScript.Utf8

/-! ## One replacement character for each part -/

/-- No character stands at the front of the bytes. -/
def Unconvertible (bytes : List UInt8) : Prop := ∀ c, ¬String.utf8EncodeChar c <+: bytes

/-- Bytes that may be replaced together: a single one, or the start of the form of a character. -/
def Subpart (part : List UInt8) : Prop :=
  part.length = 1 ∨ ∃ c, part <+: String.utf8EncodeChar c

/-- No character stands at the front of `part ++ rest`, and `part` is the longest part there that
may be replaced together. -/
structure MaximalSubpart (part rest : List UInt8) : Prop where
  ne_nil : part ≠ []
  unconvertible : Unconvertible (part ++ rest)
  subpart : Subpart part
  longest : ∀ p, p <+: part ++ rest → Subpart p → p.length ≤ part.length

/-- The bytes stand for the text, with one replacement character for each longest part that stands
for no character. -/
inductive Lossy : List UInt8 → Text → Prop
  | nil : Lossy [] []
  | char (c : Char) {rest : List UInt8} {t : Text} :
      Lossy rest t → Lossy (String.utf8EncodeChar c ++ rest) (c :: t)
  | replaced {part rest : List UInt8} {t : Text} :
      MaximalSubpart part rest → Lossy rest t → Lossy (part ++ rest) (replacement :: t)

/-- There is one longest part at most. -/
theorem MaximalSubpart.unique {part rest part' rest' : List UInt8} (h : MaximalSubpart part rest)
    (h' : MaximalSubpart part' rest') (heq : part ++ rest = part' ++ rest') :
    part = part' ∧ rest = rest' := by
  have hle : part'.length ≤ part.length :=
    h.longest part' (heq ▸ List.prefix_append part' rest') h'.subpart
  have hge : part.length ≤ part'.length :=
    h'.longest part (heq ▸ List.prefix_append part rest) h.subpart
  exact List.append_inj heq (by omega)

/-! ## The machine inside a character -/

/-- Inside a character, some byte is within the bounds. -/
def State.Open : State → Prop
  | .start => True
  | .inside _ low high _ => low ≤ high ∧ high < 0x100

theorem open_first (b : Nat) : (first b).2.Open := by
  unfold first
  repeat' split
  all_goals simp [State.Open]

theorem open_step (s : State) (b : Nat) : (step s b).2.Open := by
  cases s with
  | start => exact open_first b
  | inside owed low high value =>
    rw [step]
    split
    · split
      · exact trivial
      · exact ⟨by decide, by decide⟩
    · exact open_first b

/-- Where some byte is within the bounds, the bytes so far are the start of a form. -/
theorem exists_form_of_completes :
    ∀ {owed : Nat} {p : List UInt8} {low high value : Nat}, Completes p low high value owed →
      low ≤ high → high < 0x100 → ∃ c, p <+: String.utf8EncodeChar c
  | 1, p, low, high, value, h, hle, hlt => by
    have hlow := toNat_ofNat_of_byte (n := low) (by omega)
    have hform := h (UInt8.ofNat low) (by omega) (by omega)
    exact ⟨_, hform ▸ List.prefix_append p _⟩
  | owed + 2, p, low, high, value, h, hle, hlt => by
    have hlow := toNat_ofNat_of_byte (n := low) (by omega)
    have hmore := h (UInt8.ofNat low) (by omega) (by omega)
    obtain ⟨c, hc⟩ := exists_form_of_completes hmore (by decide) (by decide)
    exact ⟨c, (List.prefix_append p _).trans hc⟩

/-- The machine has come from its start to the state `s` with the bytes `p`, without a character. -/
structure Taken (p : List UInt8) (s : State) : Prop where
  pending : Pending p s
  isOpen : s.Open
  run (rest : List UInt8) : decode (p ++ rest) = decodeLoop s [] rest

theorem taken_start : Taken [] .start := ⟨rfl, trivial, fun _ => rfl⟩

theorem Taken.subpart {p : List UInt8} {owed low high value : Nat}
    (h : Taken p (.inside owed low high value)) : Subpart p :=
  .inr (exists_form_of_completes h.pending h.isOpen.1 h.isOpen.2)

theorem Taken.step {p : List UInt8} {s s' : State} {b : UInt8} (h : Taken p s)
    (hstep : step s b.toNat = ([], s')) (hpending : Pending (p ++ [b]) s') :
    Taken (p ++ [b]) s' := by
  refine ⟨hpending, ?_, fun rest => ?_⟩
  · have hopen := open_step s b.toNat
    rwa [hstep] at hopen
  · rw [List.append_assoc, List.singleton_append, h.run, decodeLoop_cons, hstep, List.nil_append]

/-! ## The part that is replaced -/

theorem decode_ne_nil {bytes : List UInt8} (h : bytes ≠ []) : decode bytes ≠ [] := by
  intro hnil
  have hbytes := @encode_decode bytes (by simp [hnil])
  rw [hnil] at hbytes
  exact h hbytes.symm

/-- A form is read as one character, so where its start is replaced, it is all of the form. -/
theorem eq_nil_of_replaced {c : Char} {part rest : List UInt8}
    (hform : String.utf8EncodeChar c = part ++ rest)
    (hread : decode (part ++ rest) = replacement :: decode rest) : rest = [] := by
  have hchar := decode_utf8EncodeChar_append c []
  rw [List.append_nil, hform, hread] at hchar
  cases rest with
  | nil => rfl
  | cons b rest => exact absurd (List.cons.inj hchar).2 (decode_ne_nil (List.cons_ne_nil b rest))

theorem prefix_append_cons (p : List UInt8) (b : UInt8) (rest : List UInt8) :
    p ++ [b] <+: p ++ b :: rest := by
  rw [List.append_cons p b rest]
  exact List.prefix_append _ rest

/-- A byte that starts no form is replaced on its own. -/
theorem maximalSubpart_first {b : UInt8} {rest : List UInt8}
    (hno : Unconvertible (b :: rest)) (hstep : first b.toNat = ([replacement], .start)) :
    MaximalSubpart [b] rest ∧ decode (b :: rest) = replacement :: decode rest := by
  have hread (rest : List UInt8) : decode (b :: rest) = replacement :: decode rest := by
    have hstart : step .start b.toNat = ([replacement], .start) := hstep
    rw [decode, decodeLoop_cons, hstart]
    rfl
  refine ⟨⟨List.cons_ne_nil b [], hno, .inl rfl, ?_⟩, hread rest⟩
  intro p hp hsub
  rcases hsub with hone | ⟨c, hc⟩
  · exact Nat.le_of_eq hone
  · cases p with
    | nil => simp
    | cons b' p =>
      obtain ⟨rfl, -⟩ := List.cons_prefix_cons.mp hp
      obtain ⟨tail, htail⟩ := hc
      have hnil : p ++ tail = [] := @eq_nil_of_replaced c [b'] _ htail.symm (hread _)
      simp [(List.append_eq_nil_iff.mp hnil).1]

/-- The bytes up to one that is out of bounds are replaced together. -/
theorem maximalSubpart_inside {p rest : List UInt8} {b : UInt8} (hp : p ≠ [])
    (hsub : Subpart p) (hno : Unconvertible (p ++ b :: rest))
    (hread : ∀ rest, decode (p ++ b :: rest) = replacement :: decode (b :: rest)) :
    MaximalSubpart p (b :: rest) := by
  refine ⟨hp, hno, hsub, ?_⟩
  intro q hq hsub'
  rcases Nat.lt_or_ge p.length q.length with hlt | hge
  · have hlength : 0 < p.length := List.length_pos_iff.mpr hp
    have hmore : p ++ [b] <+: q := by
      refine List.prefix_of_prefix_length_le (prefix_append_cons p b rest) hq ?_
      rw [List.length_append, List.length_singleton]
      omega
    -- a longer part would go on with `b`, and no form does
    rcases hsub' with hone | ⟨c, hc⟩
    · omega
    · obtain ⟨tail, htail⟩ := hmore.trans hc
      rw [← List.append_cons] at htail
      exact absurd (eq_nil_of_replaced htail.symm (hread tail)) (List.cons_ne_nil b tail)
  · exact hge

/-- Inside a character, the machine goes on to the end of the part that is replaced. -/
theorem exists_maximalSubpart_of_taken {p rest : List UInt8} {s : State} (h : Taken p s)
    (hp : p ≠ []) (hno : Unconvertible (p ++ rest)) :
    ∃ part rest', p ++ rest = part ++ rest' ∧ MaximalSubpart part rest' ∧
      decode (p ++ rest) = replacement :: decode rest' := by
  induction rest generalizing p s with
  | nil =>
    cases s with
    | start => exact absurd h.pending hp
    | inside owed low high value =>
      refine ⟨p, [], rfl, ⟨hp, hno, h.subpart, ?_⟩, ?_⟩
      · intro q hq _
        rw [List.append_nil] at hq
        exact hq.length_le
      · rw [h.run]
        rfl
  | cons b rest ih =>
    cases s with
    | start => exact absurd h.pending hp
    | inside owed low high value =>
      rcases pending_inside h.pending b with ⟨c, -, hform⟩ | ⟨s', hstep, hpending⟩ | hstep
      · refine absurd ?_ (hno c)
        rw [hform]
        exact prefix_append_cons p b rest
      · have htaken := h.step hstep hpending
        rw [List.append_cons] at hno ⊢
        exact ih htaken (by simp) hno
      · have hread (rest : List UInt8) :
            decode (p ++ b :: rest) = replacement :: decode (b :: rest) := by
          rw [h.run, decodeLoop_cons, hstep, decode, decodeLoop_cons]
          rfl
        exact ⟨p, b :: rest, rfl, maximalSubpart_inside hp h.subpart hno hread, hread rest⟩

/-- Where no character stands, the longest part is read as one replacement character. -/
theorem exists_maximalSubpart {bytes : List UInt8} (hne : bytes ≠ []) (hno : Unconvertible bytes) :
    ∃ part rest, bytes = part ++ rest ∧ MaximalSubpart part rest ∧
      decode bytes = replacement :: decode rest := by
  cases bytes with
  | nil => exact absurd rfl hne
  | cons b rest =>
    rcases pending_first b with ⟨-, hform⟩ | ⟨s, hstep, hpending⟩ | hstep
    · refine absurd ?_ (hno (Char.ofNat b.toNat))
      rw [hform]
      exact List.prefix_append [b] rest
    · have htaken : Taken [b] s := taken_start.step hstep hpending
      exact exists_maximalSubpart_of_taken htaken (List.cons_ne_nil b []) hno
    · obtain ⟨hmax, hread⟩ := maximalSubpart_first hno hstep
      exact ⟨[b], rest, rfl, hmax, hread⟩

/-! ## The machine and the parts -/

theorem decode_of_maximalSubpart {part rest : List UInt8} (h : MaximalSubpart part rest) :
    decode (part ++ rest) = replacement :: decode rest := by
  have hne : part ++ rest ≠ [] := fun hnil => h.ne_nil (List.append_eq_nil_iff.mp hnil).1
  obtain ⟨part', rest', heq, h', hread⟩ := exists_maximalSubpart hne h.unconvertible
  rw [hread, (h.unique h' heq).2]

theorem lossy_decode (bytes : List UInt8) : Lossy bytes (decode bytes) := by
  induction hn : bytes.length using Nat.strongRecOn generalizing bytes with
  | ind n ih =>
    by_cases hne : bytes = []
    · rw [hne]
      exact .nil
    · by_cases hno : Unconvertible bytes
      · obtain ⟨part, rest, rfl, hmax, hread⟩ := exists_maximalSubpart hne hno
        have hpart := List.length_pos_iff.mpr hmax.ne_nil
        rw [List.length_append] at hn
        rw [hread]
        exact .replaced hmax (ih rest.length (by omega) rest rfl)
      · obtain ⟨c, rest, rfl⟩ : ∃ c, String.utf8EncodeChar c <+: bytes := by
          simpa [Unconvertible] using hno
        have hform : String.utf8EncodeChar c ≠ [] := by
          intro hnil
          have hchar := decode_utf8EncodeChar_append c []
          rw [hnil] at hchar
          cases hchar
        have hpos := List.length_pos_iff.mpr hform
        rw [List.length_append] at hn
        rw [decode_utf8EncodeChar_append]
        exact .char c (ih rest.length (by omega) rest rfl)

/-- Bytes are read as a text exactly if they stand for it, each longest part without a character
replaced by one replacement character. -/
theorem lossy_iff {bytes : List UInt8} {t : Text} : Lossy bytes t ↔ t = decode bytes := by
  constructor
  · intro h
    induction h with
    | nil => rfl
    | char c _ ih => rw [decode_utf8EncodeChar_append, ih]
    | replaced hmax _ ih => rw [decode_of_maximalSubpart hmax, ih]
  · intro h
    rw [h]
    exact lossy_decode bytes

end PackedScript.Utf8

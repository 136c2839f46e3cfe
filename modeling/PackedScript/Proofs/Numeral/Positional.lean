import Mathlib.Data.Nat.Digits.Defs
import PackedScript.Numeral.Positional
import PackedScript.Proofs.Text.Occurrence

/-!
# What a numeral denotes

`Denotes` is the positional sum of a numeral's digits, and reading accepts exactly the numerals
whose sum stays below the bound (`positional_eq_ok_iff`): no prefix of a numeral can be too large
if the whole is not. A text that is not accepted fails for the first thing wrong with it. It
overflows exactly when some prefix of it is a numeral for a number that reaches the bound
(`positional_eq_overflow_iff`), and the digit is invalid exactly when there is none, or one that is
no digit stands behind a text which does not overflow (`positional_eq_invalidDigit_iff`).

All three come from one step of the loop: `DenotesFrom` is the sum behind a numeral of which a part
has been read, and a digit takes it to the rest of the numeral (`denotesFrom_cons_iff`).
-/

namespace PackedScript.Numeral

/-- `t` is a numeral for `n`: it is not empty, and `n` is the sum of its digits, each times the
power of the base that belongs to its place. -/
def Denotes (base : Nat) (digit? : Char → Option Nat) (t : Text) (n : Nat) : Prop :=
  t ≠ [] ∧ ∃ ds : List Nat, t.map digit? = ds.map some ∧ n = Nat.ofDigits base ds.reverse

/-- Some prefix of `t` is a numeral for a number that reaches the bound. -/
def Overflows (bound base : Nat) (digit? : Char → Option Nat) (t : Text) : Prop :=
  ∃ p n, p <+: t ∧ Denotes base digit? p n ∧ bound ≤ n

/-- The digits of `t` behind a numeral of value `value` make a numeral for `n`. -/
def DenotesFrom (base : Nat) (digit? : Char → Option Nat) (value : Nat) (t : Text) (n : Nat) :
    Prop :=
  ∃ ds : List Nat, t.map digit? = ds.map some ∧
    n = value * base ^ ds.length + Nat.ofDigits base ds.reverse

variable {bound base : Nat} {digit? : Char → Option Nat}

theorem denotes_iff {t : Text} {n : Nat} :
    Denotes base digit? t n ↔ t ≠ [] ∧ DenotesFrom base digit? 0 t n := by
  simp only [Denotes, DenotesFrom, Nat.zero_mul, Nat.zero_add]

/-! ## One more digit -/

theorem denotesFrom_nil_iff {value n : Nat} : DenotesFrom base digit? value [] n ↔ n = value := by
  constructor
  · intro h
    obtain ⟨ds, hds, rfl⟩ := h
    obtain rfl : ds = [] := by simpa using hds.symm
    simp
  · intro h
    exact ⟨[], rfl, by simp [h]⟩

/-- The sum of digits behind a numeral of value `value`, when the first of them is taken over. -/
theorem shifted_ofDigits_cons (value d : Nat) (ds : List Nat) :
    value * base ^ (ds.length + 1) + Nat.ofDigits base (d :: ds).reverse
      = (value * base + d) * base ^ ds.length + Nat.ofDigits base ds.reverse := by
  rw [List.reverse_cons, Nat.ofDigits_append, Nat.ofDigits_singleton, List.length_reverse,
    pow_succ]
  ring

/-- The first digit is taken over to the value, and the others stay behind it. -/
theorem denotesFrom_cons_iff {value n : Nat} {c : Char} {t : Text} :
    DenotesFrom base digit? value (c :: t) n ↔
      ∃ d, digit? c = some d ∧ DenotesFrom base digit? (value * base + d) t n := by
  constructor
  · intro h
    obtain ⟨ds, hds, rfl⟩ := h
    cases ds with
    | nil => simp at hds
    | cons d ds =>
      obtain ⟨hd, hrest⟩ := List.cons.inj hds
      exact ⟨d, hd, ds, hrest, shifted_ofDigits_cons value d ds⟩
  · intro h
    obtain ⟨d, hd, ds, hds, rfl⟩ := h
    refine ⟨d :: ds, ?_, (shifted_ofDigits_cons value d ds).symm⟩
    rw [List.map_cons, List.map_cons, hd, hds]

/-- A sum does not shrink with the digits that follow. -/
theorem DenotesFrom.le (hbase : 0 < base) {value n : Nat} {t : Text}
    (h : DenotesFrom base digit? value t n) : value ≤ n := by
  obtain ⟨ds, -, rfl⟩ := h
  have hpow : 1 ≤ base ^ ds.length := Nat.one_le_pow _ _ hbase
  exact Nat.le_add_right_of_le (Nat.le_mul_of_pos_right value hpow)

/-! ## The loop -/

theorem positionalFrom_cons_of_none {value : Nat} {c : Char} (hc : digit? c = none) (t : Text) :
    positionalFrom bound base digit? value (c :: t) = .error .invalidDigit := by
  rw [positionalFrom, appendDigit, hc]

theorem positionalFrom_cons_of_lt {value d : Nat} {c : Char} (hc : digit? c = some d)
    (hlt : value * base + d < bound) (t : Text) :
    positionalFrom bound base digit? value (c :: t)
      = positionalFrom bound base digit? (value * base + d) t := by
  rw [positionalFrom, appendDigit, hc]
  simp only [if_pos hlt]

theorem positionalFrom_cons_of_le {value d : Nat} {c : Char} (hc : digit? c = some d)
    (hle : bound ≤ value * base + d) (t : Text) :
    positionalFrom bound base digit? value (c :: t) = .error .overflow := by
  rw [positionalFrom, appendDigit, hc]
  simp only [if_neg (Nat.not_lt.mpr hle)]

/-- Readings of characters that are the same for a text read it the same way. -/
theorem positionalFrom_congr {digit?' : Char → Option Nat} {t : Text}
    (h : ∀ c ∈ t, digit? c = digit?' c) (value : Nat) :
    positionalFrom bound base digit? value t = positionalFrom bound base digit?' value t := by
  induction t generalizing value with
  | nil => rfl
  | cons c t ih =>
    have hrest := ih fun d hd => h d (List.mem_cons_of_mem c hd)
    simp only [positionalFrom, appendDigit, h c List.mem_cons_self, hrest]

/-- Reading on from a value below the bound succeeds exactly when the whole sum is below it. -/
theorem positionalFrom_eq_ok_iff (hbase : 0 < base) {value : Nat} (hvalue : value < bound)
    {t : Text} {n : Nat} :
    positionalFrom bound base digit? value t = .ok n ↔
      DenotesFrom base digit? value t n ∧ n < bound := by
  induction t generalizing value with
  | nil =>
    rw [denotesFrom_nil_iff]
    constructor
    · intro h
      obtain rfl : value = n := by simpa [positionalFrom] using h
      exact ⟨rfl, hvalue⟩
    · intro h
      rw [positionalFrom, h.1]
  | cons c t ih =>
    rw [denotesFrom_cons_iff]
    cases hc : digit? c with
    | none =>
      rw [positionalFrom_cons_of_none hc]
      simp
    | some d =>
      simp only [Option.some.injEq, exists_eq_left']
      rcases Nat.lt_or_ge (value * base + d) bound with hlt | hle
      · rw [positionalFrom_cons_of_lt hc hlt]
        exact ih hlt
      · rw [positionalFrom_cons_of_le hc hle]
        simp only [reduceCtorEq, false_iff]
        intro h
        have hge := h.1.le hbase
        omega

/-- Reading on from a value below the bound overflows exactly when the sum of some prefix reaches
it. -/
theorem positionalFrom_eq_overflow_iff {value : Nat} (hvalue : value < bound) {t : Text} :
    positionalFrom bound base digit? value t = .error .overflow ↔
      ∃ p n, p <+: t ∧ DenotesFrom base digit? value p n ∧ bound ≤ n := by
  induction t generalizing value with
  | nil =>
    simp only [positionalFrom, reduceCtorEq, false_iff]
    intro h
    obtain ⟨p, n, hp, hn, hle⟩ := h
    rw [List.prefix_nil.mp hp, denotesFrom_nil_iff] at hn
    omega
  | cons c t ih =>
    -- a prefix that reaches the bound has the first character, for the value has not reached it
    have hstep : (∃ p n, p <+: c :: t ∧ DenotesFrom base digit? value p n ∧ bound ≤ n) ↔
        ∃ d, digit? c = some d ∧
          ∃ p n, p <+: t ∧ DenotesFrom base digit? (value * base + d) p n ∧ bound ≤ n := by
      constructor
      · intro h
        obtain ⟨p, n, hp, hn, hle⟩ := h
        rcases List.prefix_cons_iff.mp hp with rfl | ⟨p, rfl, htail⟩
        · rw [denotesFrom_nil_iff] at hn
          omega
        · obtain ⟨d, hd, hrest⟩ := denotesFrom_cons_iff.mp hn
          exact ⟨d, hd, p, n, htail, hrest, hle⟩
      · intro h
        obtain ⟨d, hd, p, n, hp, hn, hle⟩ := h
        exact ⟨c :: p, n, List.cons_prefix_cons.mpr ⟨rfl, hp⟩,
          denotesFrom_cons_iff.mpr ⟨d, hd, hn⟩, hle⟩
    rw [hstep]
    cases hc : digit? c with
    | none =>
      rw [positionalFrom_cons_of_none hc]
      simp
    | some d =>
      simp only [Option.some.injEq, exists_eq_left']
      rcases Nat.lt_or_ge (value * base + d) bound with hlt | hle
      · rw [positionalFrom_cons_of_lt hc hlt]
        exact ih hlt
      · rw [positionalFrom_cons_of_le hc hle]
        simp only [true_iff]
        exact ⟨[], _, List.nil_prefix, denotesFrom_nil_iff.mpr rfl, hle⟩

/-! ## Whole numerals -/

theorem positional_of_ne_nil {t : Text} (h : t ≠ []) :
    positional bound base digit? t = positionalFrom bound base digit? 0 t := by
  cases t with
  | nil => exact absurd rfl h
  | cons c t => rfl

/-- A numeral is read exactly when the number it denotes is below the bound. -/
theorem positional_eq_ok_iff (hbase : 0 < base) (hbound : 0 < bound) {t : Text} {n : Nat} :
    positional bound base digit? t = .ok n ↔ Denotes base digit? t n ∧ n < bound := by
  rw [denotes_iff]
  cases t with
  | nil => simp [positional]
  | cons c t =>
    rw [positional, positionalFrom_eq_ok_iff hbase hbound]
    · simp
    · simp

/-- A text overflows exactly when a prefix of it is a numeral for a number that is too large. -/
theorem positional_eq_overflow_iff (hbound : 0 < bound) {t : Text} :
    positional bound base digit? t = .error .overflow ↔ Overflows bound base digit? t := by
  have hempty (n : Nat) : ¬(DenotesFrom base digit? 0 [] n ∧ bound ≤ n) := by
    rw [denotesFrom_nil_iff]
    omega
  have hoverflows : Overflows bound base digit? t ↔
      ∃ p n, p <+: t ∧ DenotesFrom base digit? 0 p n ∧ bound ≤ n := by
    unfold Overflows
    simp only [denotes_iff]
    constructor
    · intro h
      obtain ⟨p, n, hp, ⟨-, hn⟩, hle⟩ := h
      exact ⟨p, n, hp, hn, hle⟩
    · intro h
      obtain ⟨p, n, hp, hn, hle⟩ := h
      exact ⟨p, n, hp, ⟨fun hnil => hempty n ⟨hnil ▸ hn, hle⟩, hn⟩, hle⟩
  rw [hoverflows]
  cases t with
  | nil =>
    simp only [positional, Except.error.injEq, reduceCtorEq, false_iff]
    intro h
    obtain ⟨p, n, hp, hn⟩ := h
    exact hempty n (List.prefix_nil.mp hp ▸ hn)
  | cons c t =>
    rw [positional, positionalFrom_eq_overflow_iff hbound]
    simp

/-- A text of digits denotes a number. -/
theorem exists_denotes (base : Nat) {t : Text} (hne : t ≠ []) (h : ∀ c ∈ t, digit? c ≠ none) :
    ∃ n, Denotes base digit? t n := by
  obtain ⟨ds, hds⟩ : ∃ ds : List Nat, t.map digit? = ds.map some := by
    clear hne
    induction t with
    | nil => exact ⟨[], rfl⟩
    | cons c t ih =>
      obtain ⟨d, hd⟩ := Option.ne_none_iff_exists'.mp (h c List.mem_cons_self)
      obtain ⟨ds, hds⟩ := ih fun c' hc' => h c' (List.mem_cons_of_mem c hc')
      exact ⟨d :: ds, by rw [List.map_cons, List.map_cons, hd, hds]⟩
  exact ⟨_, hne, ds, hds, rfl⟩

/-- Digits that are read back as they are written make a numeral for their sum. -/
theorem denotes_map {symbol : Nat → Char} {ds : List Nat} (hne : ds ≠ [])
    (h : ∀ d ∈ ds, digit? (symbol d) = some d) :
    Denotes base digit? (ds.map symbol) (Nat.ofDigits base ds.reverse) := by
  refine ⟨by simpa using hne, ds, ?_, rfl⟩
  rw [List.map_map]
  exact List.map_congr_left h

/-- The characters of a numeral are digits. -/
theorem Denotes.digit?_ne_none {t : Text} {n : Nat} (h : Denotes base digit? t n) {c : Char}
    (hc : c ∈ t) : digit? c ≠ none := by
  obtain ⟨-, ds, hds, -⟩ := h
  have hmem : digit? c ∈ ds.map some := hds ▸ List.mem_map_of_mem hc
  obtain ⟨d, -, hd⟩ := List.mem_map.mp hmem
  rw [← hd]
  exact Option.some_ne_none d

/-- A numeral is one for a single number. -/
theorem Denotes.unique {t : Text} {m n : Nat} (hm : Denotes base digit? t m)
    (hn : Denotes base digit? t n) : m = n := by
  obtain ⟨-, ds, hds, rfl⟩ := hm
  obtain ⟨-, es, hes, rfl⟩ := hn
  rw [hds] at hes
  rw [List.map_injective_iff.mpr (Option.some_injective Nat) hes]

/-- There is an invalid digit exactly when there is no digit at all, or one that is none stands
behind a text which does not overflow. -/
theorem positional_eq_invalidDigit_iff (hbase : 0 < base) (hbound : 0 < bound) {t : Text} :
    positional bound base digit? t = .error .invalidDigit ↔
      t = [] ∨ ∃ front c rest, t = front ++ c :: rest ∧ digit? c = none ∧
        ¬Overflows bound base digit? front := by
  constructor
  · intro h
    by_cases hne : t = []
    · exact .inl hne
    · right
      -- a text of digits would be read or overflow, so some character is none
      obtain ⟨c, hc, hdigit⟩ : ∃ c ∈ t, digit? c = none := by
        by_contra hall
        push Not at hall
        obtain ⟨n, hn⟩ := exists_denotes base hne hall
        rcases Nat.lt_or_ge n bound with hlt | hle
        · rw [(positional_eq_ok_iff hbase hbound).mpr ⟨hn, hlt⟩] at h
          cases h
        · rw [(positional_eq_overflow_iff hbound).mpr ⟨t, n, List.prefix_rfl, hn, hle⟩] at h
          cases h
      obtain ⟨front, rest, rfl⟩ := List.append_of_mem hc
      refine ⟨front, c, rest, rfl, hdigit, ?_⟩
      intro hoverflow
      obtain ⟨p, n, hp, hn⟩ := hoverflow
      rw [(positional_eq_overflow_iff hbound).mpr
        ⟨p, n, hp.trans (List.prefix_append _ _), hn⟩] at h
      cases h
  · intro h
    rcases h with rfl | ⟨front, c, rest, rfl, hdigit, hfront⟩
    · rfl
    · cases hread : positional bound base digit? (front ++ c :: rest) with
      | ok n =>
        have hn := ((positional_eq_ok_iff hbase hbound).mp hread).1
        exact absurd hdigit (hn.digit?_ne_none (by simp))
      | error fault =>
        cases fault with
        | invalidDigit => rfl
        | overflow =>
          -- the prefix that overflows holds digits only, so it ends before `c`
          obtain ⟨p, n, hp, hn, hle⟩ := (positional_eq_overflow_iff hbound).mp hread
          have hc : c ∉ p := fun hmem => hn.digit?_ne_none hmem hdigit
          exact absurd ⟨p, n, (Text.prefix_append_cons_iff hc).mp hp, hn, hle⟩ hfront

/-- `t` is a decimal numeral for `n`. -/
def Decimal (t : Text) (n : Nat) : Prop := Denotes 10 decimalDigit? t n

theorem decimal?_eq_some_iff (hbound : 0 < bound) {t : Text} {n : Nat} :
    decimal? bound t = some n ↔ Decimal t n ∧ n < bound := by
  rw [decimal?, Decimal, ← positional_eq_ok_iff (by decide) hbound]
  cases positional bound 10 decimalDigit? t <;> simp [Except.toOption]

end PackedScript.Numeral

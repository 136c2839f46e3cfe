import PackedScript.Proofs.Text.Split
import PackedScript.SymbolTable

/-!
# Tables and the number of their symbols

A table is cut at its delimiters in one way only, also where delimiters of several characters lie
across each other. A strict reading answers with the pieces if they are as many as declared, and a
lenient one with as many symbols as declared, if there are to be any: the pieces, and fillers where
there are none (`outcome_build_of_isSplit`). But a number of symbols beyond the capacity of tables is
believed as well, and where it is more than there are pieces, a lenient reading breaks off
(`outcome_build_beyond_capacity`). A reading refuses for the number of symbols and for nothing else
(`ofText_eq_error_iff`).

A table that is written with `|` between its symbols and declared with its own length is read back,
strictly or not: there is nothing to correct (`ofText_joined`). Such a table is no longer than its
text, so that its length is a size whenever the text is within a limit.
-/

namespace PackedScript.SymbolTable

/-- The symbols with `|` between them. -/
def joined (symbols : List Text) : Text := ['|'].intercalate symbols

/-! ## Readings -/

section

variable (table delimiter : Text) (count : Nat)

@[simp] theorem outcome_build (strict : Bool) :
    (build table delimiter count strict).outcome
      = (ofText table delimiter count strict).map List.toArray := by
  rw [build, Run.outcome_bind_of_ok (Run.outcome_notes _), Run.outcome_bind, Run.outcome_ofOutcome]
  rfl

/-- A strict reading answers with the symbols as they are, if they are as many as declared. -/
theorem ofText_strict : ofText table delimiter count true =
    if (split table delimiter).length = count then .ok (split table delimiter)
    else .error (.symbolCount count (split table delimiter).length) := by
  simp [ofText, corrects]

/-- Nothing is corrected where the declared number is the one found. -/
theorem corrects_self (strict : Bool) : corrects strict count count = false := by
  simp [corrects]

variable {table delimiter count}

/-- A table with as many symbols as declared is read as it is. -/
theorem ofText_of_length (strict : Bool) (h : (split table delimiter).length = count) :
    ofText table delimiter count strict = .ok (split table delimiter) := by
  subst h
  simp [ofText, corrects_self]

variable (table delimiter count)

theorem split_ne_nil : split table delimiter ≠ [] := by
  unfold split
  split
  · simp
  · exact Text.splitOn_ne_nil _ _

/-- A reading that is not strict refuses only where no symbols are declared. -/
theorem ofText_lenient : ofText table delimiter count false =
    if count = 0 then .error (.symbolCount count (split table delimiter).length)
    else resize count (split table delimiter) := by
  have hpos := List.length_pos_iff.mpr (split_ne_nil table delimiter)
  by_cases hlength : (split table delimiter).length = count
  · have hresize : resize count (split table delimiter) = .ok (split table delimiter) := by
      simp [resize, ← hlength]
    rw [ofText_of_length false hlength, if_neg (by omega), hresize]
  · by_cases hcount : count = 0
    · simp [ofText, corrects, hcount, split_ne_nil]
    · have hcorrects : corrects false count (split table delimiter).length = true := by
        simp [corrects, hlength]
        omega
      simp [ofText, hcorrects, hcount]

theorem resize_ne_error (count : Nat) (symbols : List Text) (failure : Failure) :
    resize count symbols ≠ .error failure := by
  unfold resize
  split <;> simp

/-- A reading refuses where no symbols are declared, and a strict one also where their number is not
the declared one. -/
theorem ofText_eq_error_iff {strict : Bool} {failure : Failure} :
    ofText table delimiter count strict = .error failure ↔
      (count = 0 ∨ strict = true ∧ (split table delimiter).length ≠ count) ∧
        failure = .symbolCount count (split table delimiter).length := by
  have hpos := List.length_pos_iff.mpr (split_ne_nil table delimiter)
  cases strict with
  | false =>
    rw [ofText_lenient]
    split
    · next hcount => simp [hcount, eq_comm]
    · next hcount => simp [hcount, resize_ne_error]
  | true =>
    rw [ofText_strict]
    split
    · next hlength =>
      have hcount : count ≠ 0 := by omega
      simp [hlength, hcount]
    · next hlength => simp [hlength, eq_comm]

/-- A reading breaks off where it is not strict, and the declared number is more than there are
symbols and than a table has room for. -/
theorem ofText_eq_overflow_iff {strict : Bool} :
    ofText table delimiter count strict = .overflow ↔
      strict = false ∧ capacity < count ∧ (split table delimiter).length < count := by
  cases strict with
  | false =>
    rw [ofText_lenient, resize]
    split
    · next hcount => simp [hcount]
    · split
      · next hroom => simp [hroom]
      · next hroom =>
        simp only [reduceCtorEq, false_iff]
        exact fun h => hroom ⟨h.2.2, h.2.1⟩
  | true =>
    rw [ofText_strict]
    split <;> simp

end

section

variable {table delimiter : Text} {count : Nat} {strict : Bool}

theorem outcome_build_eq_ok_iff {symbols : SymbolTable} :
    (build table delimiter count strict).outcome = .ok symbols ↔
      ofText table delimiter count strict = .ok symbols.toList := by
  rw [outcome_build, Outcome.map_eq_ok_iff]
  constructor
  · rintro ⟨list, hlist, rfl⟩
    exact hlist
  · intro h
    exact ⟨symbols.toList, h, rfl⟩

theorem outcome_build_eq_error_iff {failure : Failure} :
    (build table delimiter count strict).outcome = .error failure ↔
      ofText table delimiter count strict = .error failure := by
  rw [outcome_build, Outcome.map_eq_error_iff]

end

/-! ## Pieces -/

/-- The first symbols and fillers, entry by entry. -/
theorem take_append_replicate_eq_ofFn (count : Nat) (symbols : List Text) :
    symbols.take count ++ List.replicate (count - symbols.length) missing
      = List.ofFn fun i : Fin count => symbols.getD i missing := by
  refine List.ext_getElem? fun i => ?_
  rw [List.getElem?_append, List.getElem?_take, List.getElem?_replicate, List.length_take,
    List.getElem?_ofFn]
  by_cases hcount : i < count
  · rw [dif_pos hcount]
    by_cases hfound : i < symbols.length
    · rw [if_pos (by omega), if_pos hcount]
      simp [hfound]
    · rw [if_neg (by omega), if_pos (by omega)]
      simp [hfound]
  · rw [dif_neg hcount, if_neg (by omega), if_neg (by omega)]

/-- A table that is corrected has the symbols that were found, and fillers behind them, if there is
room for it. -/
theorem resize_eq (count : Nat) (symbols : List Text) : resize count symbols =
    if symbols.length < count ∧ capacity < count then .overflow
    else .ok (List.ofFn fun i : Fin count => symbols.getD i missing) := by
  rw [resize, take_append_replicate_eq_ofFn]

/-- The symbols between the delimiters are the pieces of the table. -/
theorem split_eq_iff {table delimiter : Text} (hne : delimiter ≠ []) {pieces : List Text} :
    split table delimiter = pieces ↔ Text.IsSplit delimiter table pieces := by
  rw [split, if_neg (by simpa using hne)]
  exact Text.splitOn_eq_iff hne

/-- The pieces of a table are determined, and what is built is determined by them: strictly the
pieces themselves, if they are as many as declared, and otherwise as many symbols as declared, if
there are to be any. Where that is more than there are pieces and than a table has room for, nothing
is built and nothing refused. -/
theorem outcome_build_of_isSplit {delimiter : Text} (hne : delimiter ≠ []) (table : Text)
    (count : Nat) :
    (∃! pieces, Text.IsSplit delimiter table pieces) ∧
    ∀ pieces, Text.IsSplit delimiter table pieces →
      (build table delimiter count true).outcome
        = (if pieces.length = count then .ok pieces.toArray
          else .error (.symbolCount count pieces.length)) ∧
      (build table delimiter count false).outcome
        = if count = 0 then .error (.symbolCount 0 pieces.length)
          else if pieces.length < count ∧ capacity < count then .overflow
          else .ok (Array.ofFn fun i : Fin count => pieces.getD i missing) := by
  constructor
  · refine ⟨Text.splitOn delimiter table, Text.isSplit_splitOn hne table, fun pieces hpieces => ?_⟩
    exact ((Text.splitOn_eq_iff hne).mpr hpieces).symm
  · intro pieces hpieces
    have hsplit : split table delimiter = pieces := (split_eq_iff hne).mpr hpieces
    rw [outcome_build, outcome_build, ofText_strict, ofText_lenient, hsplit, resize_eq]
    constructor
    · split <;> rfl
    · split
      · next hcount =>
        subst hcount
        rfl
      · split
        · rfl
        · exact congrArg Outcome.ok List.toArray_ofFn

/-- A delimiter that lies across itself. -/
theorem outcome_build_of_isSplit_across :
    (build "xabababay".toList "aba".toList 5 true).outcome = .error (.symbolCount 5 3) ∧
    (build "xabababay".toList "aba".toList 5 false).outcome
      = .ok #[['x'], ['b'], ['y'], missing, missing] := by
  have hpieces : Text.IsSplit "aba".toList "xabababay".toList [['x'], ['b'], ['y']] :=
    (Text.splitOn_eq_iff (by decide)).mp (by decide)
  exact (outcome_build_of_isSplit (by decide) "xabababay".toList 5).2 _ hpieces

/-- A table of one symbol that declares 2^63 - 1 of them: a lenient reading has no answer. -/
theorem outcome_build_beyond_capacity :
    Text.IsSplit ['|'] ['a'] [['a']] ∧ 9223372036854775807 ≠ 0 ∧
      (build ['a'] ['|'] 9223372036854775807 false).outcome = .overflow ∧
      ¬∃ symbols, (build ['a'] ['|'] 9223372036854775807 false).outcome = .ok symbols := by
  have hoverflow : (build ['a'] ['|'] 9223372036854775807 false).outcome = .overflow := by
    decide +kernel
  refine ⟨(Text.splitOn_eq_iff (by decide)).mp (by decide), by decide, hoverflow, ?_⟩
  rintro ⟨symbols, hok⟩
  rw [hoverflow] at hok
  cases hok

/-! ## Tables with bars -/

theorem ofText_joined {symbols : List Text} (hne : symbols ≠ [])
    (hsymbols : ∀ symbol ∈ symbols, '|' ∉ symbol) (strict : Bool) :
    ofText (joined symbols) ['|'] symbols.length strict = .ok symbols := by
  have hsplit : split (joined symbols) ['|'] = symbols := Text.splitOn_intercalate hne hsymbols
  rw [ofText_of_length strict (congrArg _ hsplit), hsplit]

/-- There is a bar behind each symbol but the last. -/
theorem length_le_length_joined (symbols : List Text) :
    symbols.length ≤ (joined symbols).length + 1 := by
  induction symbols with
  | nil => simp
  | cons symbol symbols ih =>
    cases symbols with
    | nil => simp
    | cons next symbols =>
      rw [joined, List.intercalate_cons_cons, List.length_append, List.length_append,
        List.length_cons]
      rw [joined] at ih
      simp only [List.length_cons, List.length_nil] at ih ⊢
      omega

end PackedScript.SymbolTable

import Mathlib.Data.List.DropRight
import Mathlib.Data.List.TakeWhile
import PackedScript.Literal

/-!
# Runs of characters of one class

The fields of a call are separated by runs of white space, and its numbers are runs of decimal
digits. No character is in both classes (`isSpace_eq_false_of_isDecimalDigit`), so a reader that
takes the longest run of one class stops exactly where the other begins.
-/

namespace PackedScript

namespace Unicode.RunTable

/-- A code point of a table lies in one of its runs. -/
theorem exists_run_of_contains {table : RunTable} {n : Nat} (h : table.contains n = true) :
    ∃ run ∈ table, run.1 ≤ n ∧ n ≤ run.2 := by
  induction table with
  | nil => simp [contains] at h
  | cons run table ih =>
    obtain ⟨first, last⟩ := run
    rw [contains] at h
    by_cases hfirst : n < first
    · rw [if_pos hfirst] at h
      simp at h
    · rw [if_neg hfirst] at h
      by_cases hlast : n ≤ last
      · exact ⟨(first, last), List.mem_cons_self, by omega, hlast⟩
      · rw [if_neg hlast] at h
        obtain ⟨run, hmem, hrun⟩ := ih h
        exact ⟨run, List.mem_cons_of_mem _ hmem, hrun⟩

/-- Whether no run of one table meets a run of the other. -/
def Apart (s t : RunTable) : Bool :=
  s.all fun run => t.all fun run' => decide (run.2 < run'.1) || decide (run'.2 < run.1)

theorem contains_eq_false_of_apart {s t : RunTable} (h : Apart s t = true) {n : Nat}
    (hs : s.contains n = true) : t.contains n = false := by
  rw [Bool.eq_false_iff]
  intro ht
  obtain ⟨run, hrun, hle, hge⟩ := exists_run_of_contains hs
  obtain ⟨run', hrun', hle', hge'⟩ := exists_run_of_contains ht
  have happart := List.all_eq_true.mp (List.all_eq_true.mp h run hrun) run' hrun'
  rw [Bool.or_eq_true, decide_eq_true_eq, decide_eq_true_eq] at happart
  omega

end Unicode.RunTable

namespace Unicode

/-- A decimal digit is no white space. -/
theorem isSpace_eq_false_of_isDecimalDigit {c : Char} (h : isDecimalDigit c = true) :
    isSpace c = false :=
  RunTable.contains_eq_false_of_apart (s := decimalDigits) (by decide +kernel) h

/-- White space is no decimal digit. -/
theorem isDecimalDigit_eq_false_of_isSpace {c : Char} (h : isSpace c = true) :
    isDecimalDigit c = false :=
  RunTable.contains_eq_false_of_apart (s := whiteSpace) (by decide +kernel) h

end Unicode

namespace Text

/-! ## Runs -/

/-- A run of white space, perhaps empty. -/
def Blank (ws : Text) : Prop := ∀ c ∈ ws, Unicode.isSpace c = true

/-- A run of plain spaces, perhaps empty. -/
def Spaces (sp : Text) : Prop := ∀ c ∈ sp, c = ' '

instance (ws : Text) : Decidable (Blank ws) :=
  decidable_of_iff (ws.all Unicode.isSpace = true) List.all_eq_true

instance (sp : Text) : Decidable (Spaces sp) :=
  decidable_of_iff (sp.all (· == ' ') = true) <| by
    simp [Spaces]

/-- A run of decimal digits of any script, not empty. -/
def DigitRun (ds : Text) : Prop := ds ≠ [] ∧ ∀ c ∈ ds, Unicode.isDecimalDigit c = true

/-- White space holds no other character, and digits hold none. -/
theorem notMem_of_blank {c : Char} (hc : Unicode.isSpace c = false) {ws : Text} (hws : Blank ws) :
    c ∉ ws := by
  intro h
  rw [hws c h] at hc
  simp at hc

theorem notMem_of_digitRun {c : Char} (hc : Unicode.isDecimalDigit c = false) {ds : Text}
    (hds : DigitRun ds) : c ∉ ds := by
  intro h
  rw [hds.2 c h] at hc
  simp at hc

/-- A text in front of which a longest run of a class stops. -/
def StopsAt (p : Char → Bool) (t : Text) : Prop := ∀ c ∈ t.head?, p c = false

theorem StopsAt.cons {p : Char → Bool} {c : Char} (hc : p c = false) (t : Text) :
    StopsAt p (c :: t) := by
  intro d hd
  obtain rfl : c = d := by simpa using hd
  exact hc

theorem takeWhile_append_of_stopsAt {p : Char → Bool} {run t : Text} (hrun : ∀ c ∈ run, p c = true)
    (ht : StopsAt p t) : (run ++ t).takeWhile p = run := by
  rw [List.takeWhile_append_of_pos hrun]
  cases t with
  | nil => simp
  | cons c t => rw [List.takeWhile_cons_of_neg (by simpa using ht c rfl), List.append_nil]

theorem dropWhile_append_of_stopsAt {p : Char → Bool} {run t : Text} (hrun : ∀ c ∈ run, p c = true)
    (ht : StopsAt p t) : (run ++ t).dropWhile p = t := by
  rw [List.dropWhile_append_of_pos hrun]
  cases t with
  | nil => rfl
  | cons c t => exact List.dropWhile_cons_of_neg (by simpa using ht c rfl)

theorem StopsAt.append {p : Char → Bool} {s t : Text} (hs : StopsAt p s) (ht : StopsAt p t) :
    StopsAt p (s ++ t) := by
  cases s with
  | nil => exact ht
  | cons c s => exact .cons (hs c rfl) _

theorem stopsAt_dropWhile (p : Char → Bool) (t : Text) : StopsAt p (t.dropWhile p) := by
  intro c hc
  have hnot := List.head?_dropWhile_not p t
  rw [Option.mem_def.mp hc] at hnot
  simpa using hnot

/-- A longest run goes no further than to a text that stops it. -/
theorem takeWhile_append_left {p : Char → Bool} (s : Text) {t : Text} (ht : StopsAt p t) :
    (s ++ t).takeWhile p = s.takeWhile p := by
  conv_lhs => rw [← List.takeWhile_append_dropWhile (p := p) (l := s), List.append_assoc]
  exact takeWhile_append_of_stopsAt (fun c hc => List.mem_takeWhile_imp hc)
    ((stopsAt_dropWhile p s).append ht)

theorem dropWhile_append_left {p : Char → Bool} (s : Text) {t : Text} (ht : StopsAt p t) :
    (s ++ t).dropWhile p = s.dropWhile p ++ t := by
  conv_lhs => rw [← List.takeWhile_append_dropWhile (p := p) (l := s), List.append_assoc]
  exact dropWhile_append_of_stopsAt (fun c hc => List.mem_takeWhile_imp hc)
    ((stopsAt_dropWhile p s).append ht)

/-! ## White space -/

theorem trimStart_append_of_stopsAt {ws t : Text} (hws : Blank ws)
    (ht : StopsAt Unicode.isSpace t) : trimStart (ws ++ t) = t :=
  dropWhile_append_of_stopsAt hws ht

theorem blank_takeWhile (t : Text) : Blank (t.takeWhile Unicode.isSpace) :=
  fun _ hc => List.mem_takeWhile_imp hc

theorem takeWhile_append_trimStart (t : Text) : t.takeWhile Unicode.isSpace ++ trimStart t = t :=
  List.takeWhile_append_dropWhile

/-- What trimming takes off the front is white space. -/
theorem exists_blank_append_trimStart (t : Text) : ∃ ws, Blank ws ∧ t = ws ++ trimStart t :=
  ⟨_, blank_takeWhile t, (takeWhile_append_trimStart t).symm⟩

/-- What trimming takes off the end is white space. -/
theorem exists_trimEnd_append_blank (t : Text) : ∃ ws, Blank ws ∧ t = trimEnd t ++ ws := by
  obtain ⟨ws, hws, ht⟩ := exists_blank_append_trimStart t.reverse
  refine ⟨ws.reverse, fun c hc => hws c (List.mem_reverse.mp hc), ?_⟩
  rw [trimEnd, ← List.reverse_append]
  exact List.reverse_eq_iff.mp ht

theorem trimStart_blank_append {ws : Text} (hws : Blank ws) (t : Text) :
    trimStart (ws ++ t) = trimStart t :=
  List.dropWhile_append_of_pos hws

/-- Trimming stops where the text does not start with white space. -/
theorem trimStart_eq_self {t : Text} (ht : StopsAt Unicode.isSpace t) : trimStart t = t := by
  have hnil : Blank [] := by simp [Blank]
  exact trimStart_append_of_stopsAt hnil ht

theorem stopsAt_trimStart (t : Text) : StopsAt Unicode.isSpace (trimStart t) :=
  stopsAt_dropWhile _ t

/-- What is left of a text keeps what stands behind it. -/
theorem trimStart_append_of_ne_nil {s : Text} (hs : trimStart s ≠ []) (t : Text) :
    trimStart (s ++ t) = trimStart s ++ t := by
  rw [trimStart, List.dropWhile_append, if_neg (by rwa [List.isEmpty_iff]), ← trimStart]

theorem trimStart_append (s : Text) {t : Text} (ht : StopsAt Unicode.isSpace t) :
    trimStart (s ++ t) = trimStart s ++ t :=
  dropWhile_append_left s ht

theorem trimEnd_append_blank (t : Text) {ws : Text} (hws : Blank ws) :
    trimEnd (t ++ ws) = trimEnd t := by
  have hreverse : ∀ c ∈ ws.reverse, Unicode.isSpace c = true := fun c hc =>
    hws c (List.mem_reverse.mp hc)
  rw [trimEnd, List.reverse_append, List.dropWhile_append_of_pos hreverse, ← trimEnd]

theorem trim_append_blank (t : Text) {ws : Text} (hws : Blank ws) : trim (t ++ ws) = trim t := by
  by_cases ht : trimStart t = []
  · -- nothing but white space is left of either text
    have hblank : Blank t := List.dropWhile_eq_nil_iff.mp ht
    have hnil : trimStart ws = [] := List.dropWhile_eq_nil_iff.mpr hws
    rw [trim, trim, trimStart_blank_append hblank, ht, hnil]
  · rw [trim, trimStart_append_of_ne_nil ht, trimEnd_append_blank _ hws, ← trim]

/-- White space around a text that neither starts nor ends with white space is what is trimmed. -/
theorem trim_append_of_stopsAt {lead t trail : Text} (hlead : Blank lead) (htrail : Blank trail)
    (hfront : StopsAt Unicode.isSpace t) (hend : StopsAt Unicode.isSpace t.reverse) :
    trim (lead ++ (t ++ trail)) = t := by
  have hreverse : t.reverse.dropWhile Unicode.isSpace = t.reverse := trimStart_eq_self hend
  rw [← List.append_assoc, trim_append_blank _ htrail, trim, trimStart_append_of_stopsAt hlead hfront,
    trimEnd, hreverse, List.reverse_reverse]

/-- There is nothing to trim from a text that has been trimmed. -/
theorem trim_trim (t : Text) : trim (trim t) = trim t := by
  have hend : trimEnd (trim t) = trim t := List.rdropWhile_idempotent _ _
  have hfront : trim t <+: trimStart t := List.rdropWhile_prefix _ _
  have hstart : trimStart (trim t) = trim t := by
    refine trimStart_eq_self fun c hc => stopsAt_trimStart t c ?_
    obtain ⟨rest, hrest⟩ := hfront
    rw [← hrest, List.head?_append, Option.mem_def.mp hc]
    rfl
  rw [trim, hstart, hend]

theorem skipSpaces_append_of_stopsAt {sp t : Text} (hsp : Spaces sp) (ht : StopsAt (· == ' ') t) :
    skipSpaces (sp ++ t) = t :=
  dropWhile_append_of_stopsAt (fun c hc => by simp [hsp c hc]) ht

/-- What is skipped is a run of spaces. -/
theorem exists_spaces_append_skipSpaces (t : Text) : ∃ sp, Spaces sp ∧ t = sp ++ skipSpaces t :=
  ⟨t.takeWhile (· == ' '), fun c hc => by simpa using List.mem_takeWhile_imp hc,
    (List.takeWhile_append_dropWhile).symm⟩

/-! ## Digits -/

theorem DigitRun.stopsAt_isSpace {ds : Text} (hds : DigitRun ds) (t : Text) :
    StopsAt Unicode.isSpace (ds ++ t) := by
  obtain ⟨hne, hdigits⟩ := hds
  cases ds with
  | nil => exact absurd rfl hne
  | cons d ds =>
    exact .cons (Unicode.isSpace_eq_false_of_isDecimalDigit (hdigits d List.mem_cons_self)) _

theorem DigitRun.stopsAt_space {ds : Text} (hds : DigitRun ds) (t : Text) :
    StopsAt (· == ' ') (ds ++ t) := by
  obtain ⟨hne, hdigits⟩ := hds
  cases ds with
  | nil => exact absurd rfl hne
  | cons d ds =>
    refine .cons ?_ _
    rw [beq_eq_false_iff_ne]
    intro heq
    have hspace := hdigits d List.mem_cons_self
    rw [heq] at hspace
    exact absurd hspace (by decide)

theorem digits?_append {ds t : Text} (hds : DigitRun ds) (ht : StopsAt Unicode.isDecimalDigit t) :
    Literal.digits? (ds ++ t) = some (ds, t) := by
  obtain ⟨hne, hdigits⟩ := hds
  rw [Literal.digits?, takeWhile_append_of_stopsAt hdigits ht,
    dropWhile_append_of_stopsAt hdigits ht]
  cases ds with
  | nil => exact absurd rfl hne
  | cons d ds => rfl

/-- The digits that are read are a run at the front. -/
theorem eq_append_of_digits? {t ds rest : Text} (h : Literal.digits? t = some (ds, rest)) :
    DigitRun ds ∧ t = ds ++ rest := by
  unfold Literal.digits? at h
  split at h
  · simp at h
  · next hne =>
    obtain ⟨rfl, rfl⟩ := Prod.mk.inj (Option.some.inj h)
    exact ⟨⟨hne, fun _ hc => List.mem_takeWhile_imp hc⟩, (List.takeWhile_append_dropWhile).symm⟩

end Text

end PackedScript

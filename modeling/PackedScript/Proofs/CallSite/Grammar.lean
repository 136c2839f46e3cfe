import PackedScript.Proofs.CallSite.Shape
import PackedScript.Proofs.Numeral.Positional

/-!
# Which grammar a call is read by

The primary shape decides whether the legacy one is looked at: only a script that holds no call of
primary shape at all is searched for a legacy call, so a primary call whose arguments are at fault
is a failure and not a reason to go on (`extract_by_shape`). What is extracted comes from one call of
its grammar's shape, and its numbers are the decimal numerals of that call.
-/

namespace PackedScript.CallSite

open Text

/-! ## Searches -/

theorem primary?_eq_none_iff {t : Text} : primary? t = none ↔ ¬∃ f, Holds .primary t f := by
  constructor
  · intro h hholds
    obtain ⟨f, hf⟩ := hholds
    have := primary?_isSome_of_holds hf
    rw [h] at this
    simp at this
  · intro h
    rw [Option.eq_none_iff_forall_ne_some]
    exact fun f hf => h ⟨f, holds_of_primary? hf⟩

theorem legacy?_eq_none_iff {t : Text} : legacy? t = none ↔ ¬∃ f, Holds .legacy t f := by
  constructor
  · intro h hholds
    obtain ⟨f, hf⟩ := hholds
    have := legacy?_isSome_of_holds hf
    rw [h] at this
    simp at this
  · intro h
    rw [Option.eq_none_iff_forall_ne_some]
    exact fun f hf => h ⟨f, holds_of_legacy? hf⟩

/-! ## Arguments -/

/-- What a grammar takes a written field for: the primary one reads a literal expression, the legacy
one takes it as it is. -/
def fieldText : Grammar → Text → Text
  | .primary, t => Literal.read t
  | .legacy, t => t

/-- The arguments of a call whose written fields are `f`. -/
structure Arguments (f : Fields) (site : CallSite) : Prop where
  payload : site.payload = fieldText site.grammar f.payload
  table : site.table = fieldText site.grammar f.table
  delimiter : site.delimiter = fieldText site.grammar f.delimiter
  delimiter_ne_nil : site.delimiter ≠ []
  radix : Numeral.Decimal f.radix site.radix
  radix_lt : site.radix < Numeral.sizeLimit
  count : Numeral.Decimal f.count site.count
  count_lt : site.count < Numeral.sizeLimit

/-- A number below the size limit is written in decimal. -/
def IsSize (t : Text) : Prop := ∃ n, Numeral.Decimal t n ∧ n < Numeral.sizeLimit

/-- The first thing at fault in the written fields `f`. -/
def FirstFault (grammar : Grammar) (f : Fields) : ArgumentFault → Prop
  | .radix => ¬IsSize f.radix
  | .count => IsSize f.radix ∧ ¬IsSize f.count
  | .delimiter => IsSize f.radix ∧ IsSize f.count ∧ fieldText grammar f.delimiter = []

theorem size?_eq_some_iff {t : Text} {n : Nat} :
    Numeral.decimal? Numeral.sizeLimit t = some n ↔ Numeral.Decimal t n ∧ n < Numeral.sizeLimit :=
  Numeral.decimal?_eq_some_iff (by decide)

theorem size?_eq_none_iff {t : Text} :
    Numeral.decimal? Numeral.sizeLimit t = none ↔ ¬IsSize t := by
  rw [Option.eq_none_iff_forall_ne_some]
  simp [IsSize, size?_eq_some_iff]

/-- The fields that are examined for a call of a grammar. -/
def readFields (grammar : Grammar) (f : Fields) : Fields :=
  { f with
    payload := fieldText grammar f.payload
    table := fieldText grammar f.table
    delimiter := fieldText grammar f.delimiter }

/-- The written fields of a call give its arguments, or the first fault among them. -/
theorem ofFields_readFields (grammar : Grammar) (f : Fields) :
    (∃ site, ofFields grammar (readFields grammar f) = .ok site ∧ site.grammar = grammar ∧
        Arguments f site) ∨
      ∃ fault, ofFields grammar (readFields grammar f) = .error (.arguments grammar fault) ∧
        FirstFault grammar f fault := by
  cases hradix : Numeral.decimal? Numeral.sizeLimit f.radix with
  | none =>
    exact .inr ⟨.radix, by simp [ofFields, readFields, hradix], size?_eq_none_iff.mp hradix⟩
  | some radix =>
    obtain ⟨hradix', hradix_lt⟩ := size?_eq_some_iff.mp hradix
    cases hcount : Numeral.decimal? Numeral.sizeLimit f.count with
    | none =>
      exact .inr ⟨.count, by simp [ofFields, readFields, hradix, hcount],
        ⟨radix, hradix', hradix_lt⟩, size?_eq_none_iff.mp hcount⟩
    | some count =>
      obtain ⟨hcount', hcount_lt⟩ := size?_eq_some_iff.mp hcount
      by_cases hdelimiter : fieldText grammar f.delimiter = []
      · exact .inr ⟨.delimiter, by simp [ofFields, readFields, hradix, hcount, hdelimiter],
          ⟨radix, hradix', hradix_lt⟩, ⟨count, hcount', hcount_lt⟩, hdelimiter⟩
      · refine .inl ⟨⟨grammar, fieldText grammar f.payload, radix, count,
          fieldText grammar f.table, fieldText grammar f.delimiter⟩, ?_, rfl, ?_⟩
        · simp [ofFields, readFields, hradix, hcount, hdelimiter]
        · exact ⟨rfl, rfl, rfl, hdelimiter, hradix', hradix_lt, hcount', hcount_lt⟩

/-! ## Extraction -/

@[simp] theorem outcome_extract (source : Text) :
    (extract source).outcome = .ofExcept (ofSource source) := by
  rw [extract, Run.outcome_bind, Run.outcome_ofExcept]
  cases ofSource source <;> rfl

theorem outcome_extract_eq_ok_iff {source : Text} {site : CallSite} :
    (extract source).outcome = .ok site ↔ ofSource source = .ok site := by
  rw [outcome_extract, Outcome.ofExcept_eq_ok_iff]

theorem outcome_extract_eq_error_iff {source : Text} {failure : Failure} :
    (extract source).outcome = .error failure ↔ ofSource source = .error failure := by
  rw [outcome_extract, Outcome.ofExcept_eq_error_iff]

/-- A script is read by the first grammar of whose shape it holds a call. -/
theorem ofSource_cases (source : Text) :
    (∃ f, Holds .primary (plain source) f ∧
        ofSource source = ofFields .primary (readFields .primary f)) ∨
      ((¬∃ f, Holds .primary (plain source) f) ∧ ∃ f, Holds .legacy (plain source) f ∧
        ofSource source = ofFields .legacy (readFields .legacy f)) ∨
      ((¬∃ f, Holds .primary (plain source) f) ∧ (¬∃ f, Holds .legacy (plain source) f) ∧
        ofSource source = .error .noCallSite) := by
  cases hprimary : primary? (plain source) with
  | some f =>
    refine .inl ⟨f, holds_of_primary? hprimary, ?_⟩
    simp only [ofSource, hprimary]
    rfl
  | none =>
    have hnone := primary?_eq_none_iff.mp hprimary
    cases hlegacy : legacy? (plain source) with
    | some f =>
      refine .inr (.inl ⟨hnone, f, holds_of_legacy? hlegacy, ?_⟩)
      simp only [ofSource, hprimary, hlegacy]
      rfl
    | none =>
      refine .inr (.inr ⟨hnone, legacy?_eq_none_iff.mp hlegacy, ?_⟩)
      simp only [ofSource, hprimary, hlegacy]

/-- An outcome that belongs to a grammar: arguments of a call of its shape, or a fault in one. -/
def BelongsTo (grammar : Grammar) (t : Text) (outcome : Outcome CallSite) : Prop :=
  (∃ f site, Holds grammar t f ∧ outcome = .ok site ∧ site.grammar = grammar ∧ Arguments f site) ∨
    ∃ f fault, Holds grammar t f ∧ outcome = .error (.arguments grammar fault) ∧
      FirstFault grammar f fault

theorem belongsTo_ofFields {grammar : Grammar} {t : Text} {f : Fields} (h : Holds grammar t f) :
    BelongsTo grammar t (.ofExcept (ofFields grammar (readFields grammar f))) := by
  rcases ofFields_readFields grammar f with ⟨site, hok, hgrammar, harguments⟩ | ⟨fault, herr, hfault⟩
  · exact .inl ⟨f, site, h, Outcome.ofExcept_eq_ok_iff.mpr hok, hgrammar, harguments⟩
  · exact .inr ⟨f, fault, h, Outcome.ofExcept_eq_error_iff.mpr herr, hfault⟩

theorem BelongsTo.exists_arguments {grammar : Grammar} {t : Text}
    {outcome : Outcome CallSite} (h : BelongsTo grammar t outcome) {site : CallSite}
    (hsite : outcome = .ok site) : ∃ f, Holds site.grammar t f ∧ Arguments f site := by
  rcases h with ⟨f, site', hf, hok, hgrammar, harguments⟩ | ⟨_, _, _, herr, _⟩
  · rw [hsite] at hok
    obtain rfl := Outcome.ok.inj hok
    exact ⟨f, by rw [hgrammar]; exact hf, harguments⟩
  · rw [hsite] at herr
    simp at herr

/-- A script that holds a call of primary shape is read by the primary grammar, whatever is at fault
in the call; another one that holds a call of legacy shape is read by the legacy grammar; any other
one holds no call. Arguments come from a call of their grammar's shape. -/
theorem extract_by_shape (source : Text) :
    ((∃ f, Holds .primary (plain source) f) →
      BelongsTo .primary (plain source) (extract source).outcome) ∧
    ((¬∃ f, Holds .primary (plain source) f) → (∃ f, Holds .legacy (plain source) f) →
      BelongsTo .legacy (plain source) (extract source).outcome) ∧
    ((¬∃ f, Holds .primary (plain source) f) → (¬∃ f, Holds .legacy (plain source) f) →
      (extract source).outcome = .error .noCallSite ∧
        Failure.noCallSite.reason? = some "unexpected code structure") ∧
    ∀ site, (extract source).outcome = .ok site →
      ∃ f, Holds site.grammar (plain source) f ∧ Arguments f site := by
  rw [outcome_extract]
  rcases ofSource_cases source with ⟨f, hf, heq⟩ | ⟨hnone, f, hf, heq⟩ | ⟨hnone, hnone', heq⟩
  · have hbelongs : BelongsTo .primary (plain source) (.ofExcept (ofSource source)) := by
      rw [heq]
      exact belongsTo_ofFields hf
    exact ⟨fun _ => hbelongs, fun hno => absurd ⟨f, hf⟩ hno, fun hno => absurd ⟨f, hf⟩ hno,
      fun _ hsite => hbelongs.exists_arguments hsite⟩
  · have hbelongs : BelongsTo .legacy (plain source) (.ofExcept (ofSource source)) := by
      rw [heq]
      exact belongsTo_ofFields hf
    exact ⟨fun hsome => absurd hsome hnone, fun _ _ => hbelongs,
      fun _ hno => absurd ⟨f, hf⟩ hno, fun _ hsite => hbelongs.exists_arguments hsite⟩
  · refine ⟨fun hsome => absurd hsome hnone, fun _ hsome => absurd hsome hnone',
      fun _ _ => ⟨Outcome.ofExcept_eq_error_iff.mpr heq, rfl⟩, ?_⟩
    intro site hsite
    rw [heq] at hsite
    cases hsite

end PackedScript.CallSite

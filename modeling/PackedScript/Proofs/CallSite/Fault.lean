import PackedScript.Proofs.CallSite.Grammar

/-!
# Why a call is not extracted

An extraction looks at one call, that of the first grammar of whose shape the script holds a call
(`found?`). It fails if there is none, and otherwise for the first thing that is at fault in the
fields of this call, in the order radix, count, delimiter (`ofSource_eq_error_iff`).
-/

namespace PackedScript.CallSite

/-- The call that is read in a script: its grammar, and its fields as they are written. -/
def found? (source : Text) : Option (Grammar × Fields) :=
  match primary? (plain source) with
  | some f => some (.primary, f)
  | none => (legacy? (plain source)).map fun f => (.legacy, f)

/-- What stops the extraction of a call. -/
def Fails (source : Text) : Failure → Prop
  | .noCallSite => found? source = none
  | .arguments grammar fault => ∃ f, found? source = some (grammar, f) ∧ FirstFault grammar f fault
  | _ => False

theorem ofSource_eq_found? (source : Text) :
    ofSource source = match found? source with
      | some (grammar, f) => ofFields grammar (readFields grammar f)
      | none => .error .noCallSite := by
  unfold ofSource found?
  dsimp only
  cases primary? (plain source) with
  | some f => rfl
  | none => cases legacy? (plain source) <;> rfl

/-! ## Faults -/

section

variable {grammar : Grammar} {f : Fields}

/-- There is one first fault at most. -/
theorem FirstFault.unique {fault fault' : ArgumentFault} (h : FirstFault grammar f fault)
    (h' : FirstFault grammar f fault') : fault = fault' := by
  cases fault with
  | radix =>
    cases fault' with
    | radix => rfl
    | count => exact absurd h'.1 h
    | delimiter => exact absurd h'.1 h
  | count =>
    cases fault' with
    | radix => exact absurd h.1 h'
    | count => rfl
    | delimiter => exact absurd h'.2.1 h.2
  | delimiter =>
    cases fault' with
    | radix => exact absurd h.1 h'
    | count => exact absurd h.2.1 h'.2
    | delimiter => rfl

/-- The fields of arguments have no fault. -/
theorem Arguments.not_firstFault {site : CallSite} (h : Arguments f site)
    (hgrammar : site.grammar = grammar) (fault : ArgumentFault) : ¬FirstFault grammar f fault := by
  intro hfault
  cases fault with
  | radix => exact hfault ⟨_, h.radix, h.radix_lt⟩
  | count => exact hfault.2 ⟨_, h.count, h.count_lt⟩
  | delimiter =>
    refine h.delimiter_ne_nil ?_
    rw [h.delimiter, hgrammar]
    exact hfault.2.2

theorem ofFields_eq_error_iff {failure : Failure} :
    ofFields grammar (readFields grammar f) = .error failure ↔
      ∃ fault, failure = .arguments grammar fault ∧ FirstFault grammar f fault := by
  rcases ofFields_readFields grammar f with ⟨site, hok, hgrammar, hargs⟩ | ⟨fault, herr, hfault⟩
  · rw [hok]
    constructor
    · intro h
      cases h
    · intro h
      obtain ⟨fault, -, hfault⟩ := h
      exact absurd hfault (hargs.not_firstFault hgrammar fault)
  · rw [herr]
    constructor
    · intro h
      exact ⟨fault, (Except.error.inj h).symm, hfault⟩
    · intro h
      obtain ⟨fault', rfl, hfault'⟩ := h
      rw [hfault.unique hfault']

end

/-! ## Extractions -/

variable {source : Text}

/-- An extraction fails for want of a call, or for the first fault of the call that is found. -/
theorem ofSource_eq_error_iff {failure : Failure} :
    ofSource source = .error failure ↔ Fails source failure := by
  rw [ofSource_eq_found?]
  cases hfound : found? source with
  | none =>
    cases failure with
    | noCallSite => simp [Fails, hfound]
    | arguments grammar fault => simp [Fails, hfound]
    | _ => simp [Fails]
  | some call =>
    obtain ⟨grammar, f⟩ := call
    show ofFields grammar (readFields grammar f) = .error failure ↔ _
    rw [ofFields_eq_error_iff]
    cases failure with
    | noCallSite => simp [Fails, hfound]
    | arguments grammar' fault =>
      simp only [Fails, hfound, Option.some.injEq, Prod.mk.injEq, Failure.arguments.injEq]
      constructor
      · intro h
        obtain ⟨fault', ⟨rfl, rfl⟩, hfault⟩ := h
        exact ⟨f, ⟨rfl, rfl⟩, hfault⟩
      · intro h
        obtain ⟨f', ⟨rfl, rfl⟩, hfault⟩ := h
        exact ⟨fault, ⟨rfl, rfl⟩, hfault⟩
    | _ => simp [Fails]

/-- The delimiter of a call that is extracted is not empty. -/
theorem delimiter_ne_nil_of_ofSource {site : CallSite} (h : ofSource source = .ok site) :
    site.delimiter ≠ [] := by
  rw [ofSource_eq_found?] at h
  cases hfound : found? source with
  | none =>
    rw [hfound] at h
    cases h
  | some call =>
    obtain ⟨grammar, f⟩ := call
    rw [hfound] at h
    change ofFields grammar (readFields grammar f) = .ok site at h
    rcases ofFields_readFields grammar f with ⟨site', hok, -, hargs⟩ | ⟨fault, herr, -⟩
    · rw [h] at hok
      obtain rfl := Except.ok.inj hok
      exact hargs.delimiter_ne_nil
    · rw [h] at herr
      cases herr

end PackedScript.CallSite

import PackedScript.Proofs.Envelope
import PackedScript.Proofs.SymbolTable

/-!
# Options only gate

Options decide whether there is an answer, never which one. An outcome under narrow options and the
one under wider options are related by `Kept`: where the first one is an answer, the second one is
the same. With one limit, a strict outcome and the lenient one are related by
`DiffersBySymbolCount`. Both relations are passed on by common steps (`Passed`), so it is enough to
look at the two steps that read the options: the limit, which an entry point may ask for twice, and
the symbol table. What holds of an unpacking then holds of every entry point (`related_of_unpack`).
-/

namespace PackedScript

variable {α β : Type}

/-! ## Relations between outcomes -/

/-- An answer on the left is also the one on the right. -/
def Kept (x y : Outcome α) : Prop := ∀ a, x = .ok a → y = .ok a

/-- The outcomes are the same, unless the strict one refuses the number of symbols; and where the
lenient one refuses it, the strict one gives the same failure. -/
structure DiffersBySymbolCount (strict lenient : Outcome α) : Prop where
  of_ne : strict ≠ lenient → ∃ expected found, strict = .error (.symbolCount expected found)
  of_lenient : ∀ expected found, lenient = .error (.symbolCount expected found) →
    strict = .error (.symbolCount expected found)

/-- A relation between outcomes that holds of each outcome and itself, and that a common step before
the outcomes and a function behind them pass on. -/
structure Passed (R : (α : Type) → Outcome α → Outcome α → Prop) : Prop where
  refl (α : Type) (x : Outcome α) : R α x x
  map (α β : Type) (x y : Outcome α) (f : α → β) : R α x y → R β (x.map f) (y.map f)
  bind (α β : Type) (x : Outcome α) (f g : α → Outcome β) :
    (∀ a, R β (f a) (g a)) → R β (x.bind f) (x.bind g)

namespace Kept

theorem refl (x : Outcome α) : Kept x x := fun _ h => h

/-- Answers are kept through two steps if each of them keeps them. -/
theorem bind {x y : Outcome α} {f g : α → Outcome β} (hxy : Kept x y)
    (hfg : ∀ a, Kept (f a) (g a)) : Kept (x.bind f) (y.bind g) := by
  intro b hb
  cases x with
  | error failure => cases hb
  | overflow => cases hb
  | ok a =>
    rw [hxy a rfl]
    exact hfg a b hb

theorem passed : Passed fun α => Kept (α := α) where
  refl _ := refl
  bind _ _ x _ _ := bind (refl x)
  map _ _ x y f hxy := by
    exact hxy.bind fun _ => refl _

end Kept

namespace DiffersBySymbolCount

theorem refl (x : Outcome α) : DiffersBySymbolCount x x :=
  ⟨fun h => absurd rfl h, fun _ _ h => h⟩

/-- Behind the outcomes may come a step that refuses no number of symbols itself. -/
theorem bind {x y : Outcome α} (hxy : DiffersBySymbolCount x y) {f : α → Outcome β}
    (hf : ∀ a expected found, f a ≠ .error (.symbolCount expected found)) :
    DiffersBySymbolCount (x.bind f) (y.bind f) := by
  constructor
  · intro hne
    obtain ⟨expected, found, rfl⟩ := hxy.of_ne fun heq => hne (by rw [heq])
    exact ⟨expected, found, rfl⟩
  · intro expected found hlenient
    cases y with
    | ok a => exact absurd hlenient (hf a expected found)
    | error failure =>
      cases hlenient
      rw [hxy.of_lenient expected found rfl]
      rfl
    | overflow => cases hlenient

theorem passed : Passed fun α => DiffersBySymbolCount (α := α) where
  refl _ := refl
  bind _ _ x f g hfg := by
    cases x with
    | error failure => exact refl _
    | overflow => exact refl _
    | ok a => exact hfg a
  map _ _ x y f hxy := by
    exact hxy.bind fun _ _ _ h => by cases h

end DiffersBySymbolCount

/-! ## The symbol table -/

namespace SymbolTable

variable (table delimiter : Text) (count : Nat)

theorem kept_ofText {strict strict' : Bool} (h : strict' = true → strict = true) :
    Kept (ofText table delimiter count strict) (ofText table delimiter count strict') := by
  by_cases hlength : (split table delimiter).length = count
  · rw [ofText_of_length strict hlength, ofText_of_length strict' hlength]
    exact Kept.refl _
  · cases strict with
    | true =>
      rw [ofText_strict, if_neg hlength]
      intro symbols hsymbols
      cases hsymbols
    | false =>
      cases strict' with
      | true => exact absurd (h rfl) (by decide)
      | false => exact Kept.refl _

theorem differs_ofText :
    DiffersBySymbolCount (ofText table delimiter count true) (ofText table delimiter count false) := by
  by_cases hlength : (split table delimiter).length = count
  · rw [ofText_of_length true hlength, ofText_of_length false hlength]
    exact DiffersBySymbolCount.refl _
  · rw [ofText_strict, if_neg hlength, ofText_lenient]
    refine ⟨fun _ => ⟨_, _, rfl⟩, fun expected found hlenient => ?_⟩
    by_cases hcount : count = 0
    · rwa [if_pos hcount] at hlenient
    · rw [if_neg hcount] at hlenient
      exact absurd hlenient (resize_ne_error _ _ _)

end SymbolTable

/-! ## Unpacking -/

namespace Options

/-- What the first options let through, the second ones do too: their limit is no lower, and they
are strict only if the first ones are. -/
structure Narrower (o₁ o₂ : Options) : Prop where
  maxLength_le : o₁.maxLength ≤ o₂.maxLength
  strict_of_strict : o₂.strict = true → o₁.strict = true

variable {o₁ o₂ : Options}

theorem kept_check (h : o₁.Narrower o₂) (t : Text) :
    Kept (.ofExcept (o₁.check t)) (.ofExcept (o₂.check t)) := by
  have hle := h.maxLength_le
  intro _ hok
  unfold check at hok ⊢
  split at hok
  · cases hok
  · rw [if_neg (by omega)]
    rfl

theorem kept_unpack [Engine] (h : o₁.Narrower o₂) (source : Text) :
    Kept (o₁.unpack source).outcome (o₂.unpack source).outcome := by
  rw [outcome_unpack, outcome_unpack]
  refine (kept_check h source).bind fun _ => (Kept.refl _).bind fun site => ?_
  exact (SymbolTable.kept_ofText _ _ _ h.strict_of_strict).bind fun _ => Kept.refl _

/-- The base of the numerals is no matter of the number of symbols. -/
theorem radix_ne_symbolCount (declared expected found : Nat) :
    radix declared ≠ .error (.symbolCount expected found) := by
  unfold radix
  split <;> simp

theorem differs_unpack [Engine] (hstrict : o₁.strict = true) (hlenient : o₂.strict = false)
    (hlength : o₁.maxLength = o₂.maxLength) (source : Text) :
    DiffersBySymbolCount (o₁.unpack source).outcome (o₂.unpack source).outcome := by
  have hcheck : o₁.check source = o₂.check source := by rw [check, check, hlength]
  rw [outcome_unpack, outcome_unpack, hcheck, hstrict, hlenient]
  refine DiffersBySymbolCount.passed.bind _ _ _ _ _ fun _ => ?_
  refine DiffersBySymbolCount.passed.bind _ _ _ _ _ fun site => ?_
  refine (SymbolTable.differs_ofText _ _ _).bind fun symbols expected found hrest => ?_
  cases hradix : radix site.radix with
  | ok r =>
    rw [hradix] at hrest
    cases hrest
  | error failure =>
    rw [hradix] at hrest
    obtain rfl := Outcome.error.inj hrest
    exact radix_ne_symbolCount _ _ _ hradix

end Options

/-! ## The entry points -/

section

variable [Engine]

/-- Two unpackers whose outcomes are related wherever they are asked for the same. -/
structure Related (R : (α : Type) → Outcome α → Outcome α → Prop)
    (u₁ u₂ : Unpacker) : Prop where
  unpack (source : Text) : R _ (u₁.unpack source).outcome (u₂.unpack source).outcome
  unpackUnchecked (source : Text) :
    R _ (u₁.unpackUnchecked source).outcome (u₂.unpackUnchecked source).outcome
  unpackPage (page : Text) (pattern? : Option Text) :
    R _ (u₁.unpackPage page pattern?).outcome (u₂.unpackPage page pattern?).outcome
  openEnvelope (pattern : EnvelopePattern) (page : Text) :
    R _ (u₁.openEnvelope pattern page).outcome (u₂.openEnvelope pattern page).outcome

namespace Unpacker

variable {R : (α : Type) → Outcome α → Outcome α → Prop} {u₁ u₂ : Unpacker}

/-- The entry points relate their outcomes if unpackings do and the limits pass the relation on. -/
theorem related_of_unpack (hR : Passed R)
    (hcheck : ∀ (α : Type) (t : Text) (x y : Outcome α), R α x y →
      R α ((Outcome.ofExcept (u₁.options.check t)).bind fun _ => x)
        ((Outcome.ofExcept (u₂.options.check t)).bind fun _ => y))
    (hunpack : ∀ source, R _ (u₁.options.unpack source).outcome (u₂.options.unpack source).outcome) :
    Related R u₁ u₂ where
  unpack source := by
    rw [outcome_unpack, outcome_unpack]
    split
    · exact hR.map _ _ _ _ _ (hunpack source)
    · exact hR.refl _ _
  unpackUnchecked source := by
    rw [outcome_unpackUnchecked, outcome_unpackUnchecked]
    exact hunpack source
  unpackPage page pattern? := by
    rw [outcome_unpackPage, outcome_unpackPage]
    refine hcheck _ _ _ _ (hR.bind _ _ _ _ _ fun found => ?_)
    cases found with
    | none => exact hR.refl _ _
    | some source => exact hunpack source
  openEnvelope pattern page := by
    rw [outcome_openEnvelope, outcome_openEnvelope]
    refine hcheck _ _ _ _ ?_
    cases pattern.content? page with
    | none => exact hR.refl _ _
    | some argument =>
      refine hR.bind _ _ _ _ _ fun script => ?_
      unfold answer
      split
      · rw [outcome_unpackUnchecked, outcome_unpackUnchecked]
        exact hR.map _ _ _ _ _ (hunpack script)
      · exact hR.refl _ _

/-- Options only gate, at every entry point and whatever the reporters: an answer under options is
also the answer under wider ones, and with one limit a strict unpacker and a lenient one differ only
where the strict one refuses the number of symbols, which it does wherever the lenient one does, and
with the same numbers. -/
theorem related_of_options :
    (∀ u₁ u₂ : Unpacker, u₁.options.Narrower u₂.options → Related (fun α => Kept (α := α)) u₁ u₂) ∧
      ∀ strict lenient : Unpacker, strict.options.strict = true → lenient.options.strict = false →
        strict.options.maxLength = lenient.options.maxLength →
        Related (fun α => DiffersBySymbolCount (α := α)) strict lenient := by
  constructor
  · intro u₁ u₂ h
    exact related_of_unpack Kept.passed
      (fun _ t _ _ hxy => (Options.kept_check h t).bind fun _ => hxy) (Options.kept_unpack h)
  · intro strict lenient hstrict hlenient hlength
    refine related_of_unpack DiffersBySymbolCount.passed (fun _ t x y hxy => ?_)
      (Options.differs_unpack hstrict hlenient hlength)
    have hcheck : strict.options.check t = lenient.options.check t := by
      rw [Options.check, Options.check, hlength]
    rw [hcheck]
    exact DiffersBySymbolCount.passed.bind _ _ _ _ _ fun _ => hxy

end Unpacker

end

namespace Unpacker

/-- A table that is short by one, and one that is complete, for a strict unpacker and a lenient one. -/
theorem related_of_options_two_tables :
    (∃ expected found, (Unpacker.unpackPage ⟨⟨true, 80⟩, .silent⟩
        "eval(function(p,a,c,k,e,d)\x7b\x7d('0 1',10,3,'a|b'.split('|')))</script>".toList none).outcome
          = .error (.symbolCount expected found)) ∧
      (standard.unpack "eval(function(p,a,c,k,e,d)\x7b\x7d('0 1',10,2,'a|b'.split('|')))".toList).outcome
        = .ok (some "a b".toList) := by
  constructor
  · exact ((related_of_options.2 ⟨⟨true, 80⟩, .silent⟩ ⟨⟨false, 80⟩, .log⟩ rfl rfl rfl).unpackPage
      _ _).of_ne (by decide +kernel)
  · exact (related_of_options.1 ⟨⟨true, 80⟩, .silent⟩ standard ⟨by decide, by decide⟩).unpack _ _
      (by decide +kernel)

end Unpacker

end PackedScript

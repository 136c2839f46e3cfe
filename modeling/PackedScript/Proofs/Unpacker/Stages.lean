import PackedScript.Proofs.CallSite.Grammar
import PackedScript.Proofs.SymbolTable
import PackedScript.Unpacker

/-!
# The outcome of an unpacking, stage by stage

The log and the reports have no part in an outcome. `outcome_unpack` is what is left of an unpacking
without them: five steps, and the outcome is that of the first one that has no answer. Each step
fails at its own stage (`FailsAt`), so an unpacking does not fail at that of pages and envelopes. The
entry points add a test of the signature and nothing else.
-/

namespace PackedScript

@[simp] theorem Payload.outcome_unpack (symbols : SymbolTable) (radix : Radix) (payload : Text) :
    (unpack symbols radix payload).outcome = .ok (decode symbols radix payload) := by
  rw [unpack, Run.outcome_bind_of_ok (Run.outcome_notes _), Run.outcome_pure]

@[simp] theorem StringTable.outcome_unpack [Engine] (t : Text) :
    (unpack t).outcome = .ok (inlineStrings t) := by
  rw [unpack, Run.outcome_bind_of_ok (Run.outcome_notes _), Run.outcome_pure]

namespace Options

/-- The outcome of an unpacking is that of its five steps in order. -/
theorem outcome_unpack [Engine] (options : Options) (source : Text) :
    (options.unpack source).outcome = do
      .ofExcept (options.check source)
      let site ← .ofExcept (CallSite.ofSource source)
      let symbols ← SymbolTable.ofText site.table site.delimiter site.count options.strict
      let r ← .ofExcept (radix site.radix)
      return StringTable.inlineStrings (Payload.decode symbols.toArray r site.payload) := by
  rw [unpack, Run.outcome_bind, Run.outcome_ofExcept]
  cases options.check source with
  | error failure => rfl
  | ok _ =>
    show (CallSite.extract source >>= _).outcome
      = (Outcome.ofExcept (CallSite.ofSource source)).bind _
    rw [Run.outcome_bind, CallSite.outcome_extract]
    cases CallSite.ofSource source with
    | error failure => rfl
    | ok site =>
      show (SymbolTable.build site.table site.delimiter site.count options.strict >>= _).outcome
        = (SymbolTable.ofText site.table site.delimiter site.count options.strict).bind _
      rw [Run.outcome_bind, SymbolTable.outcome_build]
      cases SymbolTable.ofText site.table site.delimiter site.count options.strict with
      | error failure => rfl
      | overflow => rfl
      | ok symbols =>
        show (Run.ofExcept (radix site.radix) >>= _).outcome
          = (Outcome.ofExcept (radix site.radix)).bind _
        rw [Run.outcome_bind, Run.outcome_ofExcept]
        cases radix site.radix with
        | error failure => rfl
        | ok r =>
          show Run.outcome _ = Outcome.ok _
          rw [Run.outcome_bind_of_ok (Run.outcome_note _ _),
            Run.outcome_bind_of_ok (Payload.outcome_unpack _ _ _), StringTable.outcome_unpack]

end Options

/-! ## The stages of failures -/

section

variable {α β : Type} {kind : Failure → Prop} {x : Outcome α}

/-- If the outcome is a failure, it is of the kind. -/
def FailsOnly (kind : Failure → Prop) (x : Outcome α) : Prop :=
  ∀ failure, x = .error failure → kind failure

theorem failsOnly_ok (a : α) : FailsOnly kind (.ok a) := by
  intro failure h
  cases h

/-- Steps in sequence fail as the first one does, or as the second one does behind its answer. -/
theorem FailsOnly.bind {next : α → Outcome β} (hx : FailsOnly kind x)
    (hnext : ∀ a, x = .ok a → FailsOnly kind (next a)) : FailsOnly kind (x.bind next) := by
  cases x with
  | ok a => exact hnext a rfl
  | error failure =>
    intro failure' h
    cases h
    exact hx failure rfl
  | overflow =>
    intro failure h
    cases h

theorem FailsOnly.map (hx : FailsOnly kind x) (f : α → β) : FailsOnly kind (x.map f) :=
  hx.bind fun a _ => failsOnly_ok (f a)

end

/-- If the outcome is a failure, it belongs to one of the stages. -/
def FailsAt {α : Type} (stages : List Stage) (x : Outcome α) : Prop :=
  FailsOnly (·.stage ∈ stages) x

theorem FailsAt.mono {α : Type} {stages more : List Stage} {x : Outcome α}
    (hx : FailsAt stages x) (hsubset : stages ⊆ more) : FailsAt more x :=
  fun failure h => hsubset (hx failure h)

theorem CallSite.failsAt_ofFields (grammar : Grammar) (fields : Fields) :
    FailsAt [.extract] (.ofExcept (ofFields grammar fields)) := by
  intro failure h
  unfold ofFields at h
  split at h
  · cases h
    exact List.mem_singleton_self _
  · split at h
    · cases h
      exact List.mem_singleton_self _
    · split at h
      · cases h
        exact List.mem_singleton_self _
      · cases h

theorem CallSite.failsAt_ofSource (source : Text) :
    FailsAt [.extract] (.ofExcept (ofSource source)) := by
  rcases ofSource_cases source with ⟨f, -, h⟩ | ⟨-, f, -, h⟩ | ⟨-, -, h⟩
  · rw [h]
    exact failsAt_ofFields _ _
  · rw [h]
    exact failsAt_ofFields _ _
  · intro failure hfailure
    rw [h] at hfailure
    cases hfailure
    exact List.mem_singleton_self _

theorem SymbolTable.failsAt_ofText (table delimiter : Text) (count : Nat) (strict : Bool) :
    FailsAt [.symtab] (ofText table delimiter count strict) := by
  intro failure h
  obtain ⟨-, rfl⟩ := (ofText_eq_error_iff _ _ _).mp h
  exact List.mem_singleton_self _

namespace Options

theorem failsAt_check (options : Options) (t : Text) :
    FailsAt [.extract] (.ofExcept (options.check t)) := by
  intro failure h
  unfold check at h
  split at h
  · cases h
    exact List.mem_singleton_self _
  · cases h

theorem failsAt_radix (declared : Nat) : FailsAt [.decode] (.ofExcept (radix declared)) := by
  intro failure h
  unfold radix at h
  split at h
  · cases h
  · cases h
    exact List.mem_singleton_self _

/-- An unpacking fails at the stage of one of its steps. -/
theorem failsAt_unpack [Engine] (options : Options) (source : Text) :
    FailsAt [.extract, .symtab, .decode] (options.unpack source).outcome := by
  rw [outcome_unpack]
  refine ((failsAt_check options source).mono (by simp)).bind fun _ _ => ?_
  refine ((CallSite.failsAt_ofSource source).mono (by simp)).bind fun site _ => ?_
  refine ((SymbolTable.failsAt_ofText _ _ _ _).mono (by simp)).bind fun symbols _ => ?_
  exact ((failsAt_radix site.radix).mono (by simp)).bind fun r _ => failsOnly_ok _

end Options

namespace Unpacker

variable [Engine]

@[simp] theorem outcome_unpackUnchecked (u : Unpacker) (source : Text) :
    (u.unpackUnchecked source).outcome = (u.options.unpack source).outcome :=
  Reporter.outcome_watch u.reporter _

/-- A script with the signature is unpacked, any other one has no answer. -/
theorem outcome_unpack (u : Unpacker) (source : Text) :
    (u.unpack source).outcome =
      if isPacked source then (u.options.unpack source).outcome.map some else .ok none := by
  unfold unpack
  split
  · rw [Run.outcome_bind, outcome_unpackUnchecked]
    rfl
  · rfl

/-- A page that is not too large is searched for a block, and the block is unpacked if there is one.
-/
theorem outcome_unpackPage (u : Unpacker) (page : Text) (pattern? : Option Text) :
    (u.unpackPage page pattern?).outcome = (Outcome.ofExcept (u.options.check page)).bind fun _ =>
      (Outcome.ofExcept (Page.block pattern? page)).bind fun
        | some source => (u.options.unpack source).outcome
        | none => .ok page := by
  rw [unpackPage, Run.outcome_bind, Reporter.outcome_watch, Run.outcome_ofExcept]
  cases u.options.check page with
  | error failure => rfl
  | ok _ =>
    show (u.reporter.watch (Run.ofExcept (Page.block pattern? page)) >>= _).outcome = _
    rw [Run.outcome_bind, Reporter.outcome_watch, Run.outcome_ofExcept]
    cases Page.block pattern? page with
    | error failure => rfl
    | ok found =>
      cases found with
      | none => rfl
      | some source => exact outcome_unpackUnchecked u source

end Unpacker

end PackedScript

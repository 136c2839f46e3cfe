import PackedScript.Envelope

/-!
# Failures are reported once

A run that is quiet says nothing to the reporter; the work of an unpacking is quiet, whatever it logs
below the gravest level. Watching a quiet run accounts for it: one report of its failure, or none of
its answer (`accounted_watch`). The entry points watch several runs and call each other, and still
nothing is reported twice or left out, for runs in sequence account for the whole as soon as each of
them accounts for itself (`Accounted.bind`): what comes second is only run when the first one had
nothing to report.
-/

namespace PackedScript

variable {α β : Type} {reporter : Reporter}

/-! ## What a reporter makes of an outcome -/

namespace Outcome

/-- The calls of a reporter that an outcome leads to. -/
def reports : Outcome α → List Report
  | .error failure => [⟨failure.stage, failure⟩]
  | .ok _ | .overflow => []

end Outcome

namespace Reporter

/-- The lines that the log gets of an outcome. -/
def linesOf (reporter : Reporter) : Outcome α → List LogLine
  | .error failure => reporter.lines failure.stage failure
  | .ok _ | .overflow => []

/-- The lines at the gravest level that the log gets of an outcome. -/
def errorLinesOf (reporter : Reporter) (outcome : Outcome α) : List LogLine :=
  LogLine.upTo .error (reporter.linesOf outcome)

/-- With the reporter that writes to the log, there is one such line of each failure. -/
theorem errorLinesOf_log (outcome : Outcome α) :
    log.errorLinesOf outcome
      = outcome.reports.map fun report => ⟨.error, line report.stage report.failure⟩ := by
  cases outcome <;> rfl

/-- Watching adds the lines of the outcome to the log. -/
theorem log_watch (reporter : Reporter) (x : Run α) :
    (reporter.watch x).log = x.log ++ reporter.linesOf x.outcome := by
  unfold watch
  cases x.outcome <;> simp [linesOf]

/-- Watching adds the call of the outcome to the others. -/
theorem reports_watch (reporter : Reporter) (x : Run α) :
    (reporter.watch x).reports = x.reports ++ x.outcome.reports := by
  unfold watch
  cases x.outcome <;> simp [Outcome.reports]

end Reporter

namespace Run

/-- The lines of a run at the gravest level. -/
def errorLines (x : Run α) : List LogLine := LogLine.upTo .error x.log

theorem errorLines_bind (x : Run α) (next : α → Run β) :
    (x >>= next).errorLines = match x.outcome with
      | .ok a => x.errorLines ++ (next a).errorLines
      | .error _ | .overflow => x.errorLines := by
  rw [errorLines, log_bind]
  cases x.outcome with
  | ok a => exact List.filter_append ..
  | error failure => rfl
  | overflow => rfl

/-! ## Quiet runs -/

/-- A run without a report and without a line at the gravest level. -/
structure Quiet (x : Run α) : Prop where
  errorLines : x.errorLines = []
  reports : x.reports = []

theorem quiet_pure (a : α) : (pure a : Run α).Quiet := ⟨rfl, rfl⟩

theorem quiet_ofOutcome (outcome : Outcome α) : (ofOutcome outcome).Quiet := ⟨rfl, rfl⟩

theorem quiet_ofExcept (x : Except Failure α) : (ofExcept x).Quiet := quiet_ofOutcome _

theorem quiet_notes {lines : List LogLine} (h : ∀ line ∈ lines, line.level ≠ .error) :
    (notes lines).Quiet := by
  refine ⟨List.filter_eq_nil_iff.mpr fun line hline => ?_, rfl⟩
  have hlevel := h line hline
  cases hcases : line.level <;> simp_all [Level.rank]

theorem quiet_note {level : Level} (h : level ≠ .error) (text : String) : (note level text).Quiet :=
  quiet_notes fun line hline => by
    rw [List.mem_singleton.mp hline]
    exact h

theorem Quiet.bind {x : Run α} {next : α → Run β} (hx : x.Quiet) (hnext : ∀ a, (next a).Quiet) :
    (x >>= next).Quiet := by
  constructor
  · rw [errorLines_bind]
    cases x.outcome with
    | ok a => simp only [hx.errorLines, (hnext a).errorLines, List.append_nil]
    | error failure => exact hx.errorLines
    | overflow => exact hx.errorLines
  · rw [reports_bind]
    cases x.outcome with
    | ok a => simp only [hx.reports, (hnext a).reports, List.append_nil]
    | error failure => exact hx.reports
    | overflow => exact hx.reports

/-! ## Accounted runs -/

/-- What a run says at the gravest level and what it reports is what comes of its outcome. -/
structure Accounted (reporter : Reporter) (x : Run α) : Prop where
  errorLines : x.errorLines = reporter.errorLinesOf x.outcome
  reports : x.reports = x.outcome.reports

/-- There is nothing to say of an answer. -/
theorem Quiet.accounted {x : Run α} (hx : x.Quiet) {a : α} (ha : x.outcome = .ok a) :
    x.Accounted reporter := by
  refine ⟨?_, ?_⟩
  · rw [hx.errorLines, ha]
    rfl
  · rw [hx.reports, ha]
    rfl

theorem accounted_pure (a : α) : (pure a : Run α).Accounted reporter := (quiet_pure a).accounted rfl

theorem accounted_note {level : Level} (h : level ≠ .error) (text : String) :
    (note level text).Accounted reporter :=
  (quiet_note h text).accounted rfl

/-- Watching a quiet run adds the one report of its failure. -/
theorem accounted_watch {x : Run α} (hx : x.Quiet) : (reporter.watch x).Accounted reporter := by
  constructor
  · rw [errorLines, Reporter.log_watch, LogLine.upTo, List.filter_append, ← LogLine.upTo,
      ← errorLines, hx.errorLines, Reporter.outcome_watch, List.nil_append]
    rfl
  · rw [Reporter.reports_watch, hx.reports, Reporter.outcome_watch, List.nil_append]

/-- Runs in sequence account for the whole if each of them accounts for itself. -/
theorem Accounted.bind {x : Run α} {next : α → Run β} (hx : x.Accounted reporter)
    (hnext : ∀ a, (next a).Accounted reporter) : (x >>= next).Accounted reporter := by
  constructor
  · rw [errorLines_bind, outcome_bind, hx.errorLines]
    cases x.outcome with
    | ok a => exact (hnext a).errorLines
    | error failure => rfl
    | overflow => rfl
  · rw [reports_bind, outcome_bind, hx.reports]
    cases x.outcome with
    | ok a => exact (hnext a).reports
    | error failure => rfl
    | overflow => rfl

end Run

/-! ## The work of an unpacking is quiet -/

theorem CallSite.quiet_extract (source : Text) : (extract source).Quiet :=
  (Run.quiet_ofExcept _).bind fun _ =>
    (Run.quiet_note (by decide) _).bind fun _ => Run.quiet_pure _

theorem SymbolTable.quiet_build (table delimiter : Text) (count : Nat) (strict : Bool) :
    (build table delimiter count strict).Quiet := by
  have hlines : ∀ line ∈ corrections table delimiter count strict, line.level ≠ .error := by
    intro line hline
    simp only [corrections] at hline
    split at hline
    · rw [List.mem_singleton.mp hline]
      simp
    · cases hline
  exact (Run.quiet_notes hlines).bind fun _ =>
    (Run.quiet_ofOutcome _).bind fun _ => Run.quiet_pure _

theorem Payload.quiet_unpack (symbols : SymbolTable) (radix : Radix) (payload : Text) :
    (unpack symbols radix payload).Quiet := by
  have hlines : ∀ line ∈ keptWords radix payload, line.level ≠ .error := by
    intro line hline
    obtain ⟨token, -, hkept⟩ := List.mem_filterMap.mp hline
    cases token with
    | other c => cases hkept
    | word w =>
      unfold Token.kept? at hkept
      cases hdecode : radix.decode w with
      | ok index => simp [hdecode] at hkept
      | error fault =>
        simp only [hdecode, Option.some.injEq] at hkept
        rw [← hkept]
        simp
  exact (Run.quiet_notes hlines).bind fun _ => Run.quiet_pure _

theorem StringTable.quiet_unpack [Engine] (t : Text) : (unpack t).Quiet := by
  have hlines : ∀ line ∈ refusals t, line.level ≠ .error := by
    intro line hline
    unfold refusals at hline
    split at hline
    · cases hline
    · split at hline
      · cases hline
      · rw [List.mem_singleton.mp hline]
        simp
  exact (Run.quiet_notes hlines).bind fun _ => Run.quiet_pure _

theorem Options.quiet_unpack [Engine] (options : Options) (source : Text) :
    (options.unpack source).Quiet :=
  (Run.quiet_ofExcept _).bind fun _ =>
    (CallSite.quiet_extract _).bind fun _ =>
      (SymbolTable.quiet_build _ _ _ _).bind fun _ =>
        (Run.quiet_ofExcept _).bind fun _ =>
          (Run.quiet_note (by decide) _).bind fun _ =>
            (Payload.quiet_unpack _ _ _).bind fun _ => StringTable.quiet_unpack _

/-! ## The entry points account for themselves -/

namespace Unpacker

variable [Engine] (u : Unpacker)

theorem accounted_unpackUnchecked (source : Text) :
    (u.unpackUnchecked source).Accounted u.reporter :=
  Run.accounted_watch (Options.quiet_unpack u.options source)

theorem accounted_unpack (source : Text) : (u.unpack source).Accounted u.reporter := by
  unfold unpack
  split
  · exact (accounted_unpackUnchecked u source).bind fun _ => Run.accounted_pure _
  · exact (Run.accounted_note (by decide) _).bind fun _ => Run.accounted_pure _

theorem accounted_unpackPage (page : Text) (pattern? : Option Text) :
    (u.unpackPage page pattern?).Accounted u.reporter := by
  refine (Run.accounted_watch (Run.quiet_ofExcept _)).bind fun _ => ?_
  refine (Run.accounted_watch (Run.quiet_ofExcept _)).bind fun found => ?_
  cases found with
  | none => exact Run.accounted_pure _
  | some source => exact accounted_unpackUnchecked u source

theorem accounted_openEnvelope (pattern : EnvelopePattern) (page : Text) :
    (u.openEnvelope pattern page).Accounted u.reporter := by
  refine (Run.accounted_watch (Run.quiet_ofExcept _)).bind fun _ => ?_
  cases pattern.content? page with
  | none => exact (Run.accounted_note (by decide) _).bind fun _ => Run.accounted_pure _
  | some argument =>
    refine (Run.accounted_watch (Run.quiet_ofExcept _)).bind fun script => ?_
    split
    · exact (accounted_unpackUnchecked u script).bind fun _ => Run.accounted_pure _
    · exact (Run.accounted_note (by decide) _).bind fun _ => Run.accounted_pure _

theorem accounted_locateAndDecode (pattern : EnvelopePattern) (page : Text) :
    (u.locateAndDecode pattern page).Accounted u.reporter :=
  (accounted_openEnvelope u pattern page).bind fun _ => Run.accounted_pure _

end Unpacker

end PackedScript

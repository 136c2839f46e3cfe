import PackedScript.Proofs.Envelope
import PackedScript.Proofs.Reporting
import PackedScript.Session

/-!
# Calls do not influence each other

What a session shares is the options that were set last and the envelope pattern that was chosen
last and was read; `settled` says so without running any call, and `settled_cons` is the step
that makes it true of a sequence. Each answer is therefore that of its call alone
(`getElem?_answers`), and a failing call leaves nothing behind. The reporter has a part in neither the
answers nor what is shared. Of each call it hears at most the one failure, and of a choice of pattern
it hears nothing. `answers_exact` is all of this for a sequence of calls.
-/

namespace PackedScript

/-! ## What is shared -/

/-- The options that a call sets. -/
def Call.options? : Call → Option Options
  | .setOptions options => some options
  | _ => none

/-- The last element of a list that may be empty, when one more comes first. -/
theorem Session.getD_getLast?_filterMap_cons {α β : Type} (f : α → Option β) (x : α) (xs : List α)
    (d : β) : ((x :: xs).filterMap f).getLast?.getD d
      = (xs.filterMap f).getLast?.getD ((f x).getD d) := by
  rw [List.filterMap_cons]
  cases f x with
  | none => rfl
  | some y => rw [List.getLast?_cons, Option.getD_some, Option.getD_some]

section

variable [Engine]

/-- The envelope pattern that a call chooses, if it is read. -/
def Call.pattern? : Call → Option EnvelopePattern
  | .choosePattern pattern? => (EnvelopePattern.ofText? pattern?).toOption
  | _ => none

namespace Session

variable {s : Session} {call : Call}

/-- The session with the options that some calls set last and the pattern that they chose last. -/
def settled (s : Session) (calls : List Call) : Session where
  unpacker := { s.unpacker with
    options := (calls.filterMap Call.options?).getLast?.getD s.unpacker.options }
  pattern := (calls.filterMap Call.pattern?).getLast?.getD s.pattern

@[simp] theorem settled_nil (s : Session) : s.settled [] = s := rfl

/-- What a call leaves behind is what it sets or chooses. -/
theorem after_eq (s : Session) (call : Call) : s.after call =
    { unpacker := { s.unpacker with options := call.options?.getD s.unpacker.options }
      pattern := call.pattern?.getD s.pattern } := by
  cases call with
  | choosePattern pattern? =>
    simp only [after, Call.pattern?, Call.options?]
    cases EnvelopePattern.ofText? pattern? <;> rfl
  | _ => rfl

theorem settled_cons (s : Session) (call : Call) (calls : List Call) :
    s.settled (call :: calls) = (s.after call).settled calls := by
  rw [settled, settled, after_eq, getD_getLast?_filterMap_cons, getD_getLast?_filterMap_cons]

theorem settled_concat (s : Session) (calls : List Call) (call : Call) :
    s.settled (calls ++ [call]) = (s.settled calls).after call := by
  induction calls generalizing s with
  | nil => rw [List.nil_append, settled_cons, settled_nil, settled_nil]
  | cons first calls ih => rw [List.cons_append, settled_cons, ih, settled_cons]

/-- A call that fails leaves nothing behind. -/
theorem after_of_failure {failure : Failure} (h : (s.answer call).outcome = .error failure) :
    s.after call = s := by
  cases call with
  | setOptions options => cases h
  | choosePattern pattern? =>
    rw [answer, Run.outcome_bind, Run.outcome_ofExcept] at h
    rw [after]
    cases hpattern : EnvelopePattern.ofText? pattern? with
    | ok pattern =>
      rw [hpattern] at h
      cases h
    | error _ => rfl
  | _ => rfl

/-- Each answer is that of its call alone, with what the calls before it have set. -/
theorem getElem?_answers (s : Session) (calls : List Call) (i : Nat) :
    (s.answers calls)[i]? = calls[i]?.map (s.settled (calls.take i)).answer := by
  induction calls generalizing s i with
  | nil => rfl
  | cons call calls ih =>
    cases i with
    | zero => rfl
    | succ i =>
      rw [answers, List.getElem?_cons_succ, List.getElem?_cons_succ, List.take_succ_cons,
        settled_cons, ih]

/-! ## The reporter -/

/-- The session with another reporter. -/
def reporting (s : Session) (reporter : Reporter) : Session :=
  { s with unpacker := { s.unpacker with reporter } }

theorem after_reporting (s : Session) (reporter : Reporter) (call : Call) :
    (s.reporting reporter).after call = (s.after call).reporting reporter := by
  rw [after_eq, after_eq]
  rfl

/-- What is made of the script in an envelope does not depend on the reporter. -/
theorem outcome_openEnvelope_reporting (s : Session) (reporter : Reporter) (page : Text) :
    ((s.reporting reporter).unpacker.openEnvelope s.pattern page).outcome
      = (s.unpacker.openEnvelope s.pattern page).outcome := by
  have hanswer : (s.reporting reporter).unpacker.answer = s.unpacker.answer := by
    funext script
    simp only [Unpacker.answer, Unpacker.outcome_unpackUnchecked]
    rfl
  rw [Unpacker.outcome_openEnvelope, Unpacker.outcome_openEnvelope, hanswer]
  rfl

/-- What a call answers does not depend on the reporter. -/
theorem outcome_answer_reporting (s : Session) (reporter : Reporter) (call : Call) :
    ((s.reporting reporter).answer call).outcome = (s.answer call).outcome := by
  cases call with
  | setOptions options => rfl
  | choosePattern pattern? => rfl
  | unpack source =>
    simp only [answer, Run.outcome_bind, Unpacker.outcome_unpack]
    rfl
  | unpackUnchecked source =>
    simp only [answer, Run.outcome_bind, Unpacker.outcome_unpackUnchecked]
    rfl
  | unpackPage page pattern? =>
    simp only [answer, Run.outcome_bind, Unpacker.outcome_unpackPage]
    rfl
  | openEnvelope page =>
    have hopen := outcome_openEnvelope_reporting s reporter page
    simp only [answer, Run.outcome_bind]
    rw [← hopen]
    rfl
  | locateAndDecode page =>
    have hopen := outcome_openEnvelope_reporting s reporter page
    simp only [answer, Unpacker.locateAndDecode, Run.outcome_bind]
    rw [← hopen]
    rfl

theorem outcomes_reporting (s : Session) (reporter : Reporter) (calls : List Call) :
    ((s.reporting reporter).answers calls).map Run.outcome = (s.answers calls).map Run.outcome := by
  induction calls generalizing s with
  | nil => rfl
  | cons call calls ih =>
    rw [answers, answers, List.map_cons, List.map_cons, outcome_answer_reporting, after_reporting,
      ih]

end Session

end

/-! ## What the reporter hears -/

/-- Whether the failure of a call is reported. That of a choice of pattern is not. -/
def Call.isReported : Call → Bool
  | .choosePattern _ => false
  | _ => true

/-- What a run reports, and what it writes to the log at the gravest level, is what comes of its
outcome, and nothing for a call whose failure is not reported. With the reporter that writes to the
log, there is one such line for each report. -/
structure Call.Heard (call : Call) (reporter : Reporter) (run : Run Answer) : Prop where
  reports : run.reports = if call.isReported then run.outcome.reports else []
  errorLines : run.errorLines = if call.isReported then reporter.errorLinesOf run.outcome else []
  errorLines_log : reporter = .log →
    run.errorLines = run.reports.map fun report =>
      ⟨.error, Reporter.line report.stage report.failure⟩

theorem Call.heard_of_accounted {reporter : Reporter} {call : Call} {run : Run Answer}
    (hcall : call.isReported = true) (h : run.Accounted reporter) : call.Heard reporter run := by
  refine ⟨?_, ?_, ?_⟩
  · rw [if_pos hcall]
    exact h.reports
  · rw [if_pos hcall]
    exact h.errorLines
  · rintro rfl
    rw [h.errorLines, h.reports, Reporter.errorLinesOf_log]

section

variable [Engine]

namespace Session

/-- Of each call the reporter hears once if it fails and else nothing, but for a choice of pattern. -/
theorem heard_answer (s : Session) (call : Call) :
    call.Heard s.unpacker.reporter (s.answer call) := by
  cases call with
  | setOptions options => exact Call.heard_of_accounted rfl (Run.accounted_pure _)
  | choosePattern pattern? =>
    have hquiet : (s.answer (.choosePattern pattern?)).Quiet :=
      (Run.quiet_ofExcept _).bind fun _ => Run.quiet_pure _
    refine ⟨hquiet.reports, hquiet.errorLines, fun _ => ?_⟩
    rw [hquiet.errorLines, hquiet.reports]
    rfl
  | unpack source =>
    exact Call.heard_of_accounted rfl
      ((s.unpacker.accounted_unpack source).bind fun _ => Run.accounted_pure _)
  | unpackUnchecked source =>
    exact Call.heard_of_accounted rfl
      ((s.unpacker.accounted_unpackUnchecked source).bind fun _ => Run.accounted_pure _)
  | unpackPage page pattern? =>
    exact Call.heard_of_accounted rfl
      ((s.unpacker.accounted_unpackPage page pattern?).bind fun _ => Run.accounted_pure _)
  | openEnvelope page =>
    exact Call.heard_of_accounted rfl
      ((s.unpacker.accounted_openEnvelope s.pattern page).bind fun _ => Run.accounted_pure _)
  | locateAndDecode page =>
    exact Call.heard_of_accounted rfl
      ((s.unpacker.accounted_locateAndDecode s.pattern page).bind fun _ => Run.accounted_pure _)

theorem after_reporter (s : Session) (call : Call) :
    (s.after call).unpacker.reporter = s.unpacker.reporter := by
  rw [after_eq]

theorem heard_answers (s : Session) (calls : List Call) :
    List.Forall₂ (fun call run => call.Heard s.unpacker.reporter run) calls (s.answers calls) := by
  induction calls generalizing s with
  | nil => exact .nil
  | cons call calls ih =>
    have hrest := ih (s.after call)
    rw [after_reporter] at hrest
    exact .cons (heard_answer s call) hrest

/-! ## Sequences of calls -/

/-- In a sequence of calls on one unpacker and one envelope pattern, each answer is that of its call
alone with the options set last and the pattern chosen last; a failing call leaves the session as it
was; the reporter changes no answer; and of each call it hears exactly its failure, if there is one
and the call is no choice of a pattern. -/
theorem answers_exact (s : Session) (calls : List Call) :
    (∀ i, (s.answers calls)[i]? = calls[i]?.map (s.settled (calls.take i)).answer) ∧
    (∀ i failure, (s.answers calls)[i]?.map Run.outcome = some (.error failure) →
      s.settled (calls.take (i + 1)) = s.settled (calls.take i)) ∧
    (∀ reporter, ((s.reporting reporter).answers calls).map Run.outcome
      = (s.answers calls).map Run.outcome) ∧
    List.Forall₂ (fun call run => call.Heard s.unpacker.reporter run) calls (s.answers calls) := by
  refine ⟨getElem?_answers s calls, ?_, fun reporter => outcomes_reporting s reporter calls,
    heard_answers s calls⟩
  intro i failure hfailure
  rw [getElem?_answers] at hfailure
  cases hcall : calls[i]? with
  | none =>
    rw [hcall] at hfailure
    cases hfailure
  | some call =>
    rw [hcall] at hfailure
    have houtcome : ((s.settled (calls.take i)).answer call).outcome = .error failure := by
      simpa using hfailure
    rw [List.take_add_one, hcall]
    exact (settled_concat s _ call).trans (after_of_failure houtcome)

end Session

end

namespace Session

/-- A pattern that is refused leaves the options and the pattern that were there before. -/
theorem answers_exact_refused_pattern :
    (answers ⟨⟨{}, .log⟩, .standard⟩ [.setOptions ⟨true, 9⟩, .choosePattern (some ['(']),
        .locateAndDecode "JuicyCodes".toList])[1]?.map Run.outcome = some (.error (.pattern "")) ∧
      settled ⟨⟨{}, .log⟩, .standard⟩ [.setOptions ⟨true, 9⟩, .choosePattern (some ['('])]
        = settled ⟨⟨{}, .log⟩, .standard⟩ [.setOptions ⟨true, 9⟩] := by
  have hrefused : (answers ⟨⟨{}, .log⟩, .standard⟩ [.setOptions ⟨true, 9⟩,
      .choosePattern (some ['(']), .locateAndDecode "JuicyCodes".toList])[1]?.map Run.outcome
        = some (.error (.pattern "")) := by
    decide +kernel
  exact ⟨hrefused, (answers_exact ⟨⟨{}, .log⟩, .standard⟩ [.setOptions ⟨true, 9⟩,
    .choosePattern (some ['(']), .locateAndDecode "JuicyCodes".toList]).2.1 1 (.pattern "") hrefused⟩

end Session

end PackedScript

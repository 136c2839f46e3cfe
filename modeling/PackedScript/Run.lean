import PackedScript.Failure

/-!
# Runs

A run is what a computation comes to together with what it says on the way: the lines it writes to
the log and the failures it reports. Neither has any influence on the outcome. `outcome_bind`,
`log_bind` and `reports_bind` compute the three parts of a sequence of two runs, and after that the
parts can be looked at one by one.

An outcome is an answer, a failure, or neither of them: a computation that asks for more room than
there can be breaks off. That is no failure, and no reporter hears of it.
-/

namespace PackedScript

/-- The levels of log lines, from the gravest on. -/
inductive Level where
  | error
  | warn
  | info
  | debug
  | trace
  deriving DecidableEq, Repr

namespace Level

/-- The name of a level. -/
def name : Level → String
  | .error => "error"
  | .warn => "warn"
  | .info => "info"
  | .debug => "debug"
  | .trace => "trace"

/-- The levels, from the gravest on. -/
def all : List Level := [.error, .warn, .info, .debug, .trace]

/-- The level of a name. -/
def ofName? (s : String) : Option Level := all.find? (·.name == s)

/-- The place of a level among `all`. -/
def rank : Level → Nat
  | .error => 0
  | .warn => 1
  | .info => 2
  | .debug => 3
  | .trace => 4

end Level

/-- One line of the log. -/
structure LogLine where
  level : Level
  text : String
  deriving DecidableEq, Repr

/-- The lines that a log holds which leaves out everything less grave than `level`. -/
def LogLine.upTo (level : Level) (lines : List LogLine) : List LogLine :=
  lines.filter (·.level.rank ≤ level.rank)

/-- A failure that has been reported, with the stage it was reported for. -/
structure Report where
  stage : Stage
  failure : Failure
  deriving DecidableEq, Repr

/-- What a computation comes to. -/
inductive Outcome (α : Type) where
  | ok (a : α)
  | error (failure : Failure)
  /-- The computation asks for more room than there can be. -/
  | overflow
  deriving DecidableEq, Repr

namespace Outcome

variable {α β : Type}

/-- What follows an answer. -/
protected def bind (x : Outcome α) (next : α → Outcome β) : Outcome β :=
  match x with
  | .ok a => next a
  | .error failure => .error failure
  | .overflow => .overflow

/-- The outcome with a function of the answer. -/
protected def map (f : α → β) (x : Outcome α) : Outcome β := x.bind fun a => .ok (f a)

instance : Monad Outcome where
  pure := .ok
  bind := Outcome.bind

/-! What a sequence comes to is known from its two parts. -/

section

variable {x : Outcome α} {next : α → Outcome β} {f : α → β} {b : β} {failure : Failure}

theorem bind_eq_ok_iff : x.bind next = .ok b ↔ ∃ a, x = .ok a ∧ next a = .ok b := by
  cases x <;> simp [Outcome.bind]

theorem bind_eq_error_iff :
    x.bind next = .error failure ↔
      x = .error failure ∨ ∃ a, x = .ok a ∧ next a = .error failure := by
  cases x <;> simp [Outcome.bind]

theorem bind_eq_overflow_iff :
    x.bind next = .overflow ↔ x = .overflow ∨ ∃ a, x = .ok a ∧ next a = .overflow := by
  cases x <;> simp [Outcome.bind]

theorem map_eq_ok_iff : x.map f = .ok b ↔ ∃ a, x = .ok a ∧ f a = b := by
  cases x <;> simp [Outcome.map, Outcome.bind]

theorem map_eq_error_iff : x.map f = .error failure ↔ x = .error failure := by
  cases x <;> simp [Outcome.map, Outcome.bind]

end

/-- An answer or a failure. -/
def ofExcept : Except Failure α → Outcome α
  | .ok a => .ok a
  | .error failure => .error failure

@[simp] theorem ofExcept_eq_ok_iff {x : Except Failure α} {a : α} :
    ofExcept x = .ok a ↔ x = .ok a := by
  cases x <;> simp [ofExcept]

@[simp] theorem ofExcept_eq_error_iff {x : Except Failure α} {failure : Failure} :
    ofExcept x = .error failure ↔ x = .error failure := by
  cases x <;> simp [ofExcept]

@[simp] theorem ofExcept_ne_overflow (x : Except Failure α) : ofExcept x ≠ .overflow := by
  cases x <;> simp [ofExcept]

end Outcome

/-- What a computation comes to, with what was logged and what was reported on the way to it. -/
structure Run (α : Type) where
  outcome : Outcome α
  log : List LogLine
  reports : List Report

namespace Run

variable {α β : Type}

/-- Answers `a` and says nothing. -/
protected def pure (a : α) : Run α := ⟨.ok a, [], []⟩

/-- Runs `x`, and then what follows its answer if there is one. -/
protected def bind (x : Run α) (next : α → Run β) : Run β :=
  match x.outcome with
  | .ok a => ⟨(next a).outcome, x.log ++ (next a).log, x.reports ++ (next a).reports⟩
  | .error failure => ⟨.error failure, x.log, x.reports⟩
  | .overflow => ⟨.overflow, x.log, x.reports⟩

instance : Monad Run where
  pure := Run.pure
  bind := Run.bind

/-- Comes to an outcome without a word. -/
def ofOutcome (outcome : Outcome α) : Run α := ⟨outcome, [], []⟩

/-- Answers or fails without a word. -/
def ofExcept (x : Except Failure α) : Run α := ofOutcome (.ofExcept x)

/-- Writes one line to the log. -/
def note (level : Level) (text : String) : Run Unit := ⟨.ok (), [⟨level, text⟩], []⟩

/-- Writes some lines to the log. -/
def notes (lines : List LogLine) : Run Unit := ⟨.ok (), lines, []⟩

@[simp] theorem outcome_pure (a : α) : (pure a : Run α).outcome = .ok a := rfl

@[simp] theorem log_pure (a : α) : (pure a : Run α).log = [] := rfl

@[simp] theorem reports_pure (a : α) : (pure a : Run α).reports = [] := rfl

@[simp] theorem outcome_ofOutcome (outcome : Outcome α) : (ofOutcome outcome).outcome = outcome :=
  rfl

@[simp] theorem outcome_ofExcept (x : Except Failure α) : (ofExcept x).outcome = .ofExcept x := rfl

@[simp] theorem outcome_note (level : Level) (text : String) : (note level text).outcome = .ok () :=
  rfl

@[simp] theorem reports_note (level : Level) (text : String) : (note level text).reports = [] := rfl

@[simp] theorem outcome_notes (lines : List LogLine) : (notes lines).outcome = .ok () := rfl

@[simp] theorem reports_notes (lines : List LogLine) : (notes lines).reports = [] := rfl

theorem outcome_bind (x : Run α) (next : α → Run β) :
    (x >>= next).outcome = x.outcome >>= fun a => (next a).outcome := by
  show (Run.bind x next).outcome = _
  unfold Run.bind
  cases x.outcome <;> rfl

/-- The outcome of a step that answers is that of what follows. -/
theorem outcome_bind_of_ok {x : Run α} {a : α} (h : x.outcome = .ok a) (next : α → Run β) :
    (x >>= next).outcome = (next a).outcome := by
  rw [outcome_bind, h]
  rfl

theorem log_bind (x : Run α) (next : α → Run β) :
    (x >>= next).log = match x.outcome with
      | .ok a => x.log ++ (next a).log
      | .error _ | .overflow => x.log := by
  show (Run.bind x next).log = _
  unfold Run.bind
  cases x.outcome <;> rfl

theorem reports_bind (x : Run α) (next : α → Run β) :
    (x >>= next).reports = match x.outcome with
      | .ok a => x.reports ++ (next a).reports
      | .error _ | .overflow => x.reports := by
  show (Run.bind x next).reports = _
  unfold Run.bind
  cases x.outcome <;> rfl

end Run

/-- What becomes of the failures of an unpacking. A reporter is called with a failure and the stage
it belongs to, and what it writes to the log depends on nothing else; whatever else it does with a
call, a run records the call. -/
structure Reporter where
  /-- The lines that the log gets for a failure. -/
  lines : Stage → Failure → List LogLine

namespace Reporter

/-- The line that the log gets for a failure. It names the grammar of a call site that was
recognised. -/
def line (stage : Stage) (failure : Failure) : String :=
  match failure with
  | .arguments grammar _ =>
    s!"p.a.c.k.e.r. {stage.name} stage failed ({grammar.name} grammar): {failure.message}"
  | _ => s!"p.a.c.k.e.r. {stage.name} stage failed: {failure.message}"

/-- Writes each failure to the log, at the gravest level (`LogReporter`). -/
def log : Reporter := ⟨fun stage failure => [⟨.error, line stage failure⟩]⟩

/-- Writes nothing (`NullReporter`). -/
def silent : Reporter := ⟨fun _ _ => []⟩

/-- Runs `x`, and reports its failure if it fails (`report`). The outcome is that of `x` whatever
the reporter. -/
def watch {α : Type} (reporter : Reporter) (x : Run α) : Run α :=
  match x.outcome with
  | .error failure =>
    { x with
      log := x.log ++ reporter.lines failure.stage failure
      reports := x.reports ++ [⟨failure.stage, failure⟩] }
  | .ok _ | .overflow => x

@[simp] theorem outcome_watch {α : Type} (reporter : Reporter) (x : Run α) :
    (reporter.watch x).outcome = x.outcome := by
  unfold watch
  split <;> simp_all

end Reporter

end PackedScript

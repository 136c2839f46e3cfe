import PackedScript.Proofs.CallSite.Fault
import PackedScript.Proofs.Unpacker.Limit

/-!
# What stops an unpacking

Each step of an unpacking has its own reason to fail: a text that is too large, a call that is not
extracted, a number of symbols that is refused, a radix that is no base. `Stops` says when each
failure is the outcome, which is when its own reason is there and none of an earlier step. There are
no other failures, and the stage of a failure is the first one that fails (`unpackUnchecked_stops`).

Behind the four reasons an unpacking has an answer whatever the payload and the symbols are, but for
one case: a call may declare more symbols than a table has room for, and nothing refuses that. If it
has fewer symbols than it declares, a lenient unpacking breaks off
(`unpackUnchecked_beyond_capacity`).
-/

namespace PackedScript

open Text

/-! ## The reasons of the steps -/

namespace CallSite

/-- The delimiter cuts the table into `n` pieces. -/
def HasPieces (site : CallSite) (n : Nat) : Prop :=
  ∃ pieces, IsSplit site.delimiter site.table pieces ∧ pieces.length = n

/-- No symbols are declared, or, where this matters, another number than there are pieces. -/
def Miscounted (strict : Bool) (site : CallSite) : Prop :=
  site.count = 0 ∨ strict = true ∧ ¬site.HasPieces site.count

/-- Symbols have to be filled in, and there are to be more than a table has room for. -/
def Overfull (strict : Bool) (site : CallSite) : Prop :=
  strict = false ∧ SymbolTable.capacity < site.count ∧ ∃ n < site.count, site.HasPieces n

/-- The declared radix is no base. -/
def Baseless (site : CallSite) : Prop := site.radix = 1 ∨ 95 < site.radix

variable {site : CallSite} {n : Nat}

theorem hasPieces_iff (hne : site.delimiter ≠ []) :
    site.HasPieces n ↔ (SymbolTable.split site.table site.delimiter).length = n := by
  constructor
  · intro h
    obtain ⟨pieces, hpieces, rfl⟩ := h
    rw [(SymbolTable.split_eq_iff hne).mpr hpieces]
  · intro h
    exact ⟨_, (SymbolTable.split_eq_iff hne).mp rfl, h⟩

/-- The table of a call has one number of pieces, which is not zero. -/
theorem existsUnique_hasPieces (hne : site.delimiter ≠ []) : ∃! n, site.HasPieces n ∧ 1 ≤ n := by
  refine ⟨_, ⟨(hasPieces_iff hne).mpr rfl, ?_⟩, fun m hm => ((hasPieces_iff hne).mp hm.1).symm⟩
  exact List.length_pos_iff.mpr (SymbolTable.split_ne_nil _ _)

/-- A table is refused for the number of its symbols alone. -/
theorem ofText_eq_error_iff (hne : site.delimiter ≠ []) {strict : Bool} {failure : Failure} :
    SymbolTable.ofText site.table site.delimiter site.count strict = .error failure ↔
      site.Miscounted strict ∧ ∃ found, site.HasPieces found ∧
        failure = .symbolCount site.count found := by
  rw [SymbolTable.ofText_eq_error_iff, Miscounted, hasPieces_iff hne]
  simp only [hasPieces_iff hne, exists_eq_left']

/-- A reading breaks off where the table is to be filled beyond what there is room for. -/
theorem ofText_eq_overflow_iff (hne : site.delimiter ≠ []) {strict : Bool} :
    SymbolTable.ofText site.table site.delimiter site.count strict = .overflow ↔
      site.Overfull strict := by
  rw [SymbolTable.ofText_eq_overflow_iff, Overfull]
  simp only [hasPieces_iff hne, exists_eq_right']

theorem exists_refusal_iff (hne : site.delimiter ≠ []) {strict : Bool} :
    (∃ failure,
      SymbolTable.ofText site.table site.delimiter site.count strict = .error failure) ↔
      site.Miscounted strict := by
  constructor
  · intro h
    obtain ⟨failure, h⟩ := h
    exact ((ofText_eq_error_iff hne).mp h).1
  · intro h
    obtain ⟨found, hfound, -⟩ := existsUnique_hasPieces hne
    exact ⟨_, (ofText_eq_error_iff hne).mpr ⟨h, found, hfound.1, rfl⟩⟩

/-- A table is read where it is neither refused nor beyond what there is room for. -/
theorem exists_symbols_iff (hne : site.delimiter ≠ []) {strict : Bool} :
    (∃ symbols, SymbolTable.ofText site.table site.delimiter site.count strict = .ok symbols) ↔
      ¬site.Miscounted strict ∧ ¬site.Overfull strict := by
  rw [← exists_refusal_iff hne, ← ofText_eq_overflow_iff hne]
  cases SymbolTable.ofText site.table site.delimiter site.count strict <;> simp

end CallSite

theorem Options.radix_eq_error_iff {declared : Nat} {failure : Failure} :
    radix declared = .error failure ↔
      (declared = 1 ∨ 95 < declared) ∧ failure = .radix declared := by
  rw [← Radix.ofDeclared?_eq_none_iff, radix]
  cases Radix.ofDeclared? declared with
  | none => simp [eq_comm]
  | some r => simp

theorem Options.exists_radix_iff {declared : Nat} :
    (∃ r, radix declared = .ok r) ↔ ¬(declared = 1 ∨ 95 < declared) := by
  rw [← Radix.ofDeclared?_eq_none_iff, radix]
  cases Radix.ofDeclared? declared <;> simp

namespace Options

variable {options : Options} {source : Text} {failure : Failure}

/-- When a failure is the outcome of an unpacking: it has its own reason, and no earlier step has
one. -/
def Stops (options : Options) (source : Text) : Failure → Prop
  | .inputTooLarge length limit =>
    options.maxLength < byteLength source ∧ length = byteLength source ∧ limit = options.maxLength
  | .noCallSite =>
    byteLength source ≤ options.maxLength ∧
      (CallSite.extract source).outcome = .error .noCallSite
  | .arguments grammar fault =>
    byteLength source ≤ options.maxLength ∧
      (CallSite.extract source).outcome = .error (.arguments grammar fault)
  | .symbolCount expected found =>
    byteLength source ≤ options.maxLength ∧ ∃ site, (CallSite.extract source).outcome = .ok site ∧
      site.Miscounted options.strict ∧ expected = site.count ∧ site.HasPieces found
  | .radix declared =>
    byteLength source ≤ options.maxLength ∧ ∃ site, (CallSite.extract source).outcome = .ok site ∧
      ¬site.Miscounted options.strict ∧ ¬site.Overfull options.strict ∧ site.Baseless ∧
        declared = site.radix
  | .base64 _ | .pattern _ => False

/-! ## Steps in order -/

section

variable [Engine]

theorem outcome_unpack_of_error (hsize : byteLength source ≤ options.maxLength)
    (h : CallSite.ofSource source = .error failure) :
    (options.unpack source).outcome = .error failure := by
  rw [outcome_unpack, check_of_le hsize, h]
  rfl

/-- Behind the extraction, the table and then the radix decide. -/
theorem outcome_unpack_of_site {site : CallSite} (hsize : byteLength source ≤ options.maxLength)
    (h : CallSite.ofSource source = .ok site) :
    (options.unpack source).outcome =
      (SymbolTable.ofText site.table site.delimiter site.count options.strict).bind fun symbols =>
        (Outcome.ofExcept (radix site.radix)).bind fun r =>
          .ok (StringTable.inlineStrings (Payload.decode symbols.toArray r site.payload)) := by
  rw [outcome_unpack, check_of_le hsize, h]
  rfl

section

variable {site : CallSite} (hsize : byteLength source ≤ options.maxLength)
  (hsite : CallSite.ofSource source = .ok site)

include hsize hsite

/-- Behind the extraction the number of symbols is refused, or the radix of a table that is read. -/
theorem outcome_eq_error_iff_of_site :
    (options.unpack source).outcome = .error failure ↔
      (site.Miscounted options.strict ∧ ∃ found, site.HasPieces found ∧
        failure = .symbolCount site.count found) ∨
      (¬site.Miscounted options.strict ∧ ¬site.Overfull options.strict) ∧ site.Baseless ∧
        failure = .radix site.radix := by
  have hne := CallSite.delimiter_ne_nil_of_ofSource hsite
  rw [outcome_unpack_of_site hsize hsite, Outcome.bind_eq_error_iff,
    CallSite.ofText_eq_error_iff hne, ← CallSite.exists_symbols_iff hne]
  simp only [Outcome.bind_eq_error_iff, Outcome.ofExcept_eq_error_iff, radix_eq_error_iff,
    reduceCtorEq, and_false, exists_false, or_false, exists_and_right, CallSite.Baseless]

/-- An unpacking breaks off at the table or not at all. -/
theorem outcome_eq_overflow_iff_of_site :
    (options.unpack source).outcome = .overflow ↔ site.Overfull options.strict := by
  have hne := CallSite.delimiter_ne_nil_of_ofSource hsite
  rw [outcome_unpack_of_site hsize hsite, Outcome.bind_eq_overflow_iff,
    CallSite.ofText_eq_overflow_iff hne]
  simp only [Outcome.bind_eq_overflow_iff, Outcome.ofExcept_ne_overflow, reduceCtorEq, and_false,
    exists_false, or_false]

/-- A call whose table is read is unpacked, unless its radix is no base. -/
theorem exists_script_iff_of_site :
    (∃ script, (options.unpack source).outcome = .ok script) ↔
      ¬site.Miscounted options.strict ∧ ¬site.Overfull options.strict ∧ ¬site.Baseless := by
  have hne := CallSite.delimiter_ne_nil_of_ofSource hsite
  rw [outcome_unpack_of_site hsize hsite]
  constructor
  · intro h
    obtain ⟨script, h⟩ := h
    obtain ⟨symbols, hsymbols, h⟩ := Outcome.bind_eq_ok_iff.mp h
    obtain ⟨r, hradix, -⟩ := Outcome.bind_eq_ok_iff.mp h
    obtain ⟨hcount, hroom⟩ := (CallSite.exists_symbols_iff hne).mp ⟨symbols, hsymbols⟩
    exact ⟨hcount, hroom, exists_radix_iff.mp ⟨r, Outcome.ofExcept_eq_ok_iff.mp hradix⟩⟩
  · intro h
    obtain ⟨hcount, hroom, hbase⟩ := h
    obtain ⟨symbols, hsymbols⟩ := (CallSite.exists_symbols_iff hne).mpr ⟨hcount, hroom⟩
    obtain ⟨r, hradix⟩ := exists_radix_iff.mpr hbase
    rw [hsymbols, hradix]
    exact ⟨_, rfl⟩

end

/-! ## Failures -/

/-- A failure with a reason that no earlier step has is the outcome. -/
theorem outcome_of_stops (h : options.Stops source failure) :
    (options.unpack source).outcome = .error failure := by
  cases failure with
  | inputTooLarge length limit =>
    obtain ⟨hlarge, rfl, rfl⟩ := h
    exact unpack_of_lt hlarge
  | noCallSite =>
    obtain ⟨hsize, hsite⟩ := h
    exact outcome_unpack_of_error hsize (CallSite.outcome_extract_eq_error_iff.mp hsite)
  | arguments grammar fault =>
    obtain ⟨hsize, hsite⟩ := h
    exact outcome_unpack_of_error hsize (CallSite.outcome_extract_eq_error_iff.mp hsite)
  | symbolCount expected found =>
    obtain ⟨hsize, site, hsite, hcount, rfl, hfound⟩ := h
    rw [CallSite.outcome_extract_eq_ok_iff] at hsite
    exact (outcome_eq_error_iff_of_site hsize hsite).mpr (.inl ⟨hcount, found, hfound, rfl⟩)
  | radix declared =>
    obtain ⟨hsize, site, hsite, hcount, hroom, hbase, rfl⟩ := h
    rw [CallSite.outcome_extract_eq_ok_iff] at hsite
    exact (outcome_eq_error_iff_of_site hsize hsite).mpr (.inr ⟨⟨hcount, hroom⟩, hbase, rfl⟩)
  | base64 fault => exact h.elim
  | pattern text => exact h.elim

/-- The outcome is no failure without a reason. -/
theorem stops_of_outcome (h : (options.unpack source).outcome = .error failure) :
    options.Stops source failure := by
  rcases Nat.lt_or_ge options.maxLength (byteLength source) with hlarge | hsize
  · rw [unpack_of_lt hlarge] at h
    cases h
    exact ⟨hlarge, rfl, rfl⟩
  · cases hsite : CallSite.ofSource source with
    | error failure' =>
      rw [outcome_unpack_of_error hsize hsite] at h
      cases h
      -- an extraction fails in two ways only
      have hfails := CallSite.ofSource_eq_error_iff.mp hsite
      rw [← CallSite.outcome_extract_eq_error_iff] at hsite
      cases failure with
      | noCallSite => exact ⟨hsize, hsite⟩
      | arguments grammar fault => exact ⟨hsize, hsite⟩
      | _ => exact hfails.elim
    | ok site =>
      have hextract := CallSite.outcome_extract_eq_ok_iff.mpr hsite
      rcases (outcome_eq_error_iff_of_site hsize hsite).mp h with
        ⟨hcount, found, hfound, rfl⟩ | ⟨⟨hcount, hroom⟩, hbase, rfl⟩
      · exact ⟨hsize, site, hextract, hcount, rfl, hfound⟩
      · exact ⟨hsize, site, hextract, hcount, hroom, hbase, rfl⟩

/-- Where an outcome is no failure, a call has been extracted. -/
theorem exists_site_of_outcome_ne_error
    (h : ∀ failure, (options.unpack source).outcome ≠ .error failure) :
    byteLength source ≤ options.maxLength ∧ ∃ site, CallSite.ofSource source = .ok site := by
  have hsize : byteLength source ≤ options.maxLength := by
    by_contra hlarge
    exact h _ (unpack_of_lt (by omega))
  refine ⟨hsize, ?_⟩
  cases hsite : CallSite.ofSource source with
  | error failure => exact absurd (outcome_unpack_of_error hsize hsite) (h failure)
  | ok site => exact ⟨site, rfl⟩

/-- There is an answer when no step has a reason to fail and there is room for the table. -/
theorem exists_script_iff :
    (∃ script, (options.unpack source).outcome = .ok script) ↔
      byteLength source ≤ options.maxLength ∧ ∃ site, (CallSite.extract source).outcome = .ok site ∧
        ¬site.Miscounted options.strict ∧ ¬site.Overfull options.strict ∧ ¬site.Baseless := by
  constructor
  · intro h
    have hne : ∀ failure, (options.unpack source).outcome ≠ .error failure := by
      obtain ⟨script, h⟩ := h
      simp [h]
    obtain ⟨hsize, site, hsite⟩ := exists_site_of_outcome_ne_error hne
    exact ⟨hsize, site, CallSite.outcome_extract_eq_ok_iff.mpr hsite,
      (exists_script_iff_of_site hsize hsite).mp h⟩
  · intro h
    obtain ⟨hsize, site, hsite, hreasons⟩ := h
    rw [CallSite.outcome_extract_eq_ok_iff] at hsite
    exact (exists_script_iff_of_site hsize hsite).mpr hreasons

/-- An unpacking breaks off when there is no room for the table. -/
theorem outcome_eq_overflow_iff :
    (options.unpack source).outcome = .overflow ↔
      byteLength source ≤ options.maxLength ∧ ∃ site, (CallSite.extract source).outcome = .ok site ∧
        site.Overfull options.strict := by
  constructor
  · intro h
    have hne : ∀ failure, (options.unpack source).outcome ≠ .error failure := by simp [h]
    obtain ⟨hsize, site, hsite⟩ := exists_site_of_outcome_ne_error hne
    exact ⟨hsize, site, CallSite.outcome_extract_eq_ok_iff.mpr hsite,
      (outcome_eq_overflow_iff_of_site hsize hsite).mp h⟩
  · intro h
    obtain ⟨hsize, site, hsite, hfull⟩ := h
    rw [CallSite.outcome_extract_eq_ok_iff] at hsite
    exact (outcome_eq_overflow_iff_of_site hsize hsite).mpr hfull

end

/-! ## Stages -/

/-- A stage has a reason to fail, whether or not an earlier one has. -/
def FailsIn (options : Options) (source : Text) : Stage → Prop
  | .extract =>
    options.maxLength < byteLength source ∨
      ∃ failure, (CallSite.extract source).outcome = .error failure
  | .symtab =>
    ∃ site, (CallSite.extract source).outcome = .ok site ∧ ∃ failure,
      (SymbolTable.build site.table site.delimiter site.count options.strict).outcome
        = .error failure
  | .decode =>
    ∃ site, (CallSite.extract source).outcome = .ok site ∧ Radix.ofDeclared? site.radix = none
  | .locate => False

/-- Of the stages of an unpacking in their order, the first one with a reason to fail. -/
def FirstFailing (options : Options) (source : Text) (stage : Stage) : Prop :=
  ∃ passed later, [Stage.extract, .symtab, .decode] = passed ++ stage :: later ∧
    options.FailsIn source stage ∧ ∀ earlier ∈ passed, ¬options.FailsIn source earlier

variable {site : CallSite}

theorem not_failsIn_extract (hsize : byteLength source ≤ options.maxLength)
    (hsite : (CallSite.extract source).outcome = .ok site) : ¬options.FailsIn source .extract := by
  intro h
  rcases h with hlarge | ⟨failure, hfailure⟩
  · omega
  · rw [hsite] at hfailure
    cases hfailure

theorem failsIn_symtab_iff (hsite : (CallSite.extract source).outcome = .ok site) :
    options.FailsIn source .symtab ↔ site.Miscounted options.strict := by
  have hne :=
    CallSite.delimiter_ne_nil_of_ofSource (CallSite.outcome_extract_eq_ok_iff.mp hsite)
  rw [← CallSite.exists_refusal_iff hne]
  constructor
  · intro h
    obtain ⟨site', hsite', failure, hfailure⟩ := h
    obtain rfl : site = site' := Outcome.ok.inj (hsite.symm.trans hsite')
    exact ⟨failure, SymbolTable.outcome_build_eq_error_iff.mp hfailure⟩
  · intro h
    obtain ⟨failure, hfailure⟩ := h
    exact ⟨site, hsite, failure, SymbolTable.outcome_build_eq_error_iff.mpr hfailure⟩

theorem firstFailing_of_stops (h : options.Stops source failure) :
    options.FirstFailing source failure.stage := by
  cases failure with
  | inputTooLarge length limit => exact ⟨[], _, rfl, .inl h.1, by simp⟩
  | noCallSite => exact ⟨[], _, rfl, .inr ⟨_, h.2⟩, by simp⟩
  | arguments grammar fault => exact ⟨[], _, rfl, .inr ⟨_, h.2⟩, by simp⟩
  | symbolCount expected found =>
    obtain ⟨hsize, site, hsite, hcount, -⟩ := h
    refine ⟨[.extract], _, rfl, (failsIn_symtab_iff hsite).mpr hcount, ?_⟩
    simpa using not_failsIn_extract hsize hsite
  | radix declared =>
    obtain ⟨hsize, site, hsite, hcount, -, hbase, -⟩ := h
    refine ⟨[.extract, .symtab], _, rfl, ⟨site, hsite, ?_⟩, ?_⟩
    · exact Radix.ofDeclared?_eq_none_iff.mpr hbase
    · have hsymtab := mt (failsIn_symtab_iff hsite).mp hcount
      simpa using ⟨not_failsIn_extract hsize hsite, hsymtab⟩
  | base64 fault => exact h.elim
  | pattern text => exact h.elim

end Options

namespace Unpacker

/-- An unpacking fails for the first reason there is, and for no other one. It has an answer when
there is none, unless the table is to be filled beyond what there is room for: then it breaks off.
An extraction fails for want of a call or for the first fault of the call it finds, and a call that
it answers with has a table of one piece at least. The stage of a failure is the first of the stages
that fails. -/
theorem unpackUnchecked_stops [Engine] (u : Unpacker) (source : Text) :
    (∀ failure, (u.unpackUnchecked source).outcome = .error failure ↔
      u.options.Stops source failure) ∧
    ((∃ script, (u.unpackUnchecked source).outcome = .ok script) ↔
      byteLength source ≤ u.options.maxLength ∧ ∃ site,
        (CallSite.extract source).outcome = .ok site ∧ ¬site.Miscounted u.options.strict ∧
          ¬site.Overfull u.options.strict ∧ ¬site.Baseless) ∧
    ((u.unpackUnchecked source).outcome = .overflow ↔
      byteLength source ≤ u.options.maxLength ∧ ∃ site,
        (CallSite.extract source).outcome = .ok site ∧ site.Overfull u.options.strict) ∧
    (∀ failure, (CallSite.extract source).outcome = .error failure ↔
      CallSite.Fails source failure) ∧
    [ArgumentFault.radix, .count, .delimiter].map ArgumentFault.reason
      = ["invalid radix", "invalid count", "empty symtab delimiter"] ∧
    (∀ site, (CallSite.extract source).outcome = .ok site → ∃! n, site.HasPieces n ∧ 1 ≤ n) ∧
    ∀ failure, (u.unpackUnchecked source).outcome = .error failure →
      u.options.FirstFailing source failure.stage := by
  simp only [outcome_unpackUnchecked]
  refine ⟨fun failure => ⟨Options.stops_of_outcome, Options.outcome_of_stops⟩,
    Options.exists_script_iff, Options.outcome_eq_overflow_iff, fun failure => ?_, rfl,
    fun site hsite => ?_, fun failure h => ?_⟩
  · rw [CallSite.outcome_extract_eq_error_iff]
    exact CallSite.ofSource_eq_error_iff
  · rw [CallSite.outcome_extract_eq_ok_iff] at hsite
    exact CallSite.existsUnique_hasPieces (CallSite.delimiter_ne_nil_of_ofSource hsite)
  · exact Options.firstFailing_of_stops (Options.stops_of_outcome h)

/-- A call that declares no symbols and a radix that is no base is refused for its symbols. -/
theorem unpackUnchecked_stops_two_faults :
    (standard.unpackUnchecked "\x7d('0',99,0,'a|b'.split('|'))".toList).outcome
        = .error (.symbolCount 0 2) ∧
      Options.FirstFailing {} "\x7d('0',99,0,'a|b'.split('|'))".toList .symtab := by
  obtain ⟨hfailure, -, -, -, -, -, hstage⟩ :=
    unpackUnchecked_stops standard "\x7d('0',99,0,'a|b'.split('|'))".toList
  have hsite : (CallSite.extract "\x7d('0',99,0,'a|b'.split('|'))".toList).outcome
      = .ok ⟨.legacy, ['0'], 99, 0, "a|b".toList, ['|']⟩ := by decide +kernel
  have hpieces : CallSite.HasPieces ⟨.legacy, ['0'], 99, 0, "a|b".toList, ['|']⟩ 2 :=
    (CallSite.hasPieces_iff (by simp)).mpr (by decide)
  have hstops := (hfailure (.symbolCount 0 2)).mpr
    ⟨by decide +kernel, _, hsite, .inl rfl, rfl, hpieces⟩
  exact ⟨hstops, hstage _ hstops⟩

/-- A call that declares 2^63 - 1 symbols and has one: no step has a reason to fail, and there is no
answer. -/
theorem unpackUnchecked_beyond_capacity :
    byteLength "\x7d('0',10,9223372036854775807,'a'.split('|'))".toList
        ≤ standard.options.maxLength ∧
      (∃ site, (CallSite.extract "\x7d('0',10,9223372036854775807,'a'.split('|'))".toList).outcome
          = .ok site ∧ ¬site.Miscounted standard.options.strict ∧ ¬site.Baseless) ∧
      (standard.unpackUnchecked "\x7d('0',10,9223372036854775807,'a'.split('|'))".toList).outcome
        = .overflow ∧
      ¬∃ script, (standard.unpackUnchecked
        "\x7d('0',10,9223372036854775807,'a'.split('|'))".toList).outcome = .ok script := by
  have hsite : (CallSite.extract "\x7d('0',10,9223372036854775807,'a'.split('|'))".toList).outcome
      = .ok ⟨.legacy, ['0'], 10, 9223372036854775807, ['a'], ['|']⟩ := by decide +kernel
  have hoverflow : (standard.unpackUnchecked
      "\x7d('0',10,9223372036854775807,'a'.split('|'))".toList).outcome = .overflow := by
    decide +kernel
  refine ⟨by decide +kernel, ⟨_, hsite, ?_, ?_⟩, hoverflow, ?_⟩
  · simp [CallSite.Miscounted, standard]
  · simp [CallSite.Baseless]
  · rintro ⟨script, hok⟩
    rw [hoverflow] at hok
    cases hok

end Unpacker

end PackedScript

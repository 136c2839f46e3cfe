import PackedScript.Proofs.CallSite.Fault
import PackedScript.Proofs.Envelope
import PackedScript.Proofs.Page.Size

/-!
# The size limit

Every entry point refuses a text that is larger than the limit, but `unpack` looks for the signature
first and refuses only what has it. Below the limit no other step speaks of a size (`Admitted`). A
page leads to a second check, that of its block, and there is nothing new to refuse, since a block
is no larger than its page. The script in an envelope may be larger than its page, for broken UTF-8
is read as replacement characters, so of an envelope only the first half holds
(`unpacking_limited`).
-/

namespace PackedScript

open Text

variable {α β : Type}

/-! ## Outcomes without a refusal -/

/-- An outcome that does not refuse a text for its size. -/
def Admitted (x : Outcome α) : Prop :=
  ∀ length limit, x ≠ .error (.inputTooLarge length limit)

theorem admitted_iff {x : Outcome α} :
    Admitted x ↔
      FailsOnly (fun failure => ∀ length limit, failure ≠ .inputTooLarge length limit) x := by
  constructor
  · intro h failure hfailure length limit heq
    exact h length limit (heq ▸ hfailure)
  · intro h length limit hfailure
    exact h _ hfailure length limit rfl

theorem admitted_ok (a : α) : Admitted (.ok a) :=
  admitted_iff.mpr (failsOnly_ok a)

theorem Admitted.bind {x : Outcome α} {next : α → Outcome β} (hx : Admitted x)
    (hnext : ∀ a, x = .ok a → Admitted (next a)) : Admitted (x.bind next) :=
  admitted_iff.mpr ((admitted_iff.mp hx).bind fun a ha => admitted_iff.mp (hnext a ha))

theorem Admitted.map {x : Outcome α} (hx : Admitted x) (f : α → β) : Admitted (x.map f) :=
  admitted_iff.mpr ((admitted_iff.mp hx).map f)

/-- A text is refused for its size at one stage only. -/
theorem FailsAt.admitted {x : Outcome α} {stages : List Stage} (hx : FailsAt stages x)
    (h : Stage.extract ∉ stages) : Admitted x := by
  intro length limit hfailure
  exact h (hx _ hfailure)

/-! ## Steps behind the check -/

/-- A call that is not extracted is at fault, or there is none. -/
theorem CallSite.admitted_ofSource (source : Text) : Admitted (.ofExcept (ofSource source)) := by
  intro length limit h
  exact CallSite.ofSource_eq_error_iff.mp (Outcome.ofExcept_eq_error_iff.mp h)

/-- A page is searched in vain only where the pattern is refused. -/
theorem Page.failsAt_block [Engine] (pattern? : Option Text) (page : Text) :
    FailsAt [.locate] (.ofExcept (block pattern? page)) := by
  intro failure h
  rw [Outcome.ofExcept_eq_error_iff] at h
  cases pattern? with
  | none => cases h
  | some text =>
    have hblocks : (blocks text page).map List.head? = .error failure := h
    unfold blocks at hblocks
    cases hread : Engine.read true text with
    | ok pattern =>
      rw [hread] at hblocks
      cases hblocks
    | error fault =>
      rw [hread] at hblocks
      cases hblocks
      exact List.mem_singleton_self _

/-! ## The check -/

namespace Options

/-- The failure that says that a text is too large. -/
def tooLarge (options : Options) (t : Text) : Failure :=
  .inputTooLarge (byteLength t) options.maxLength

variable {options : Options} {t : Text}

theorem check_of_lt (h : options.maxLength < byteLength t) :
    options.check t = .error (options.tooLarge t) := if_pos h

theorem check_of_le (h : byteLength t ≤ options.maxLength) : options.check t = .ok () :=
  if_neg (by omega)

variable [Engine]

theorem unpack_of_lt (h : options.maxLength < byteLength t) :
    (options.unpack t).outcome = .error (options.tooLarge t) := by
  rw [outcome_unpack, check_of_lt h]
  rfl

/-- Behind the check, whatever fails is no matter of size. -/
theorem admitted_unpack (h : byteLength t ≤ options.maxLength) :
    Admitted (options.unpack t).outcome := by
  rw [outcome_unpack, check_of_le h]
  refine (CallSite.admitted_ofSource t).bind fun site _ => ?_
  refine ((SymbolTable.failsAt_ofText _ _ _ _).admitted (by simp)).bind fun symbols _ => ?_
  exact ((failsAt_radix site.radix).admitted (by simp)).bind fun r _ => admitted_ok _

end Options

/-! ## The entry points -/

namespace Unpacker

section

variable [Engine] (u : Unpacker) {t : Text}

theorem unpackPage_of_lt (h : u.options.maxLength < byteLength t) (pattern? : Option Text) :
    (u.unpackPage t pattern?).outcome = .error (u.options.tooLarge t) := by
  rw [outcome_unpackPage, Options.check_of_lt h]
  rfl

theorem openEnvelope_of_lt (h : u.options.maxLength < byteLength t) (pattern : EnvelopePattern) :
    (u.openEnvelope pattern t).outcome = .error (u.options.tooLarge t) := by
  rw [outcome_openEnvelope, Options.check_of_lt h]
  rfl

theorem admitted_unpackPage (h : byteLength t ≤ u.options.maxLength) (pattern? : Option Text) :
    Admitted (u.unpackPage t pattern?).outcome := by
  rw [outcome_unpackPage, Options.check_of_le h]
  refine ((Page.failsAt_block pattern? t).admitted (by simp)).bind fun found hfound => ?_
  cases found with
  | none => exact admitted_ok t
  | some source =>
    -- what is checked once more is no larger than what passed
    have hsource := Page.byteLength_block_le (Outcome.ofExcept_eq_ok_iff.mp hfound)
    exact Options.admitted_unpack (hsource.trans h)

/-- A text beyond the limit is refused with its size and the limit, as a script, as a page with any
pattern and as a page with an envelope; if `unpack` is to refuse it too, it needs the signature. A
text within the limit is never refused for a size, neither as a script nor as a page. -/
theorem unpacking_limited (t : Text) :
    (u.options.maxLength < byteLength t →
      (u.unpackUnchecked t).outcome = .error (u.options.tooLarge t) ∧
      (∀ pattern?, (u.unpackPage t pattern?).outcome = .error (u.options.tooLarge t)) ∧
      (∀ pattern, (u.openEnvelope pattern t).outcome = .error (u.options.tooLarge t)) ∧
      (u.unpack t).outcome = if isPacked t then .error (u.options.tooLarge t) else .ok none) ∧
    (byteLength t ≤ u.options.maxLength →
      Admitted (u.unpackUnchecked t).outcome ∧
      (∀ pattern?, Admitted (u.unpackPage t pattern?).outcome) ∧
      Admitted (u.unpack t).outcome) := by
  constructor
  · intro h
    have hscript := Options.unpack_of_lt h
    refine ⟨?_, unpackPage_of_lt u h, openEnvelope_of_lt u h, ?_⟩
    · rw [outcome_unpackUnchecked, hscript]
    · rw [outcome_unpack, hscript]
      rfl
  · intro h
    have hscript := Options.admitted_unpack h
    refine ⟨?_, admitted_unpackPage u h, ?_⟩
    · rw [outcome_unpackUnchecked]
      exact hscript
    · rw [outcome_unpack]
      split
      · exact hscript.map some
      · exact admitted_ok none

end

/-- The signature alone is a script that is too large for a small limit, whatever is asked for. -/
theorem unpacking_limited_signature :
    (Unpacker.unpack ⟨⟨false, 23⟩, .silent⟩ signature).outcome = .error (.inputTooLarge 24 23) ∧
      (Unpacker.unpackPage ⟨⟨false, 23⟩, .silent⟩ signature (some "(".toList)).outcome
        = .error (.inputTooLarge 24 23) ∧
      Admitted (Unpacker.unpack ⟨⟨false, 24⟩, .silent⟩ signature).outcome := by
  have hsize : byteLength signature = 24 := by decide
  have hpacked : isPacked signature = true := by decide
  have hlt : 23 < byteLength signature := by omega
  have hbeyond := (unpacking_limited ⟨⟨false, 23⟩, .silent⟩ signature).1 hlt
  have hwithin := (unpacking_limited ⟨⟨false, 24⟩, .silent⟩ signature).2 hsize.le
  rw [hpacked, if_pos rfl, Options.tooLarge, hsize] at hbeyond
  exact ⟨hbeyond.2.2.2, hbeyond.2.1 _, hwithin.2.2⟩

/-- A script of ten bytes without the signature: under a limit of four it has no answer, where every
other entry point refuses it. -/
theorem unpack_beyond_limit :
    byteLength "var a = 1;".toList = 10 ∧
      (Unpacker.unpack ⟨⟨false, 4⟩, .silent⟩ "var a = 1;".toList).outcome = .ok none ∧
      (Unpacker.unpackUnchecked ⟨⟨false, 4⟩, .silent⟩ "var a = 1;".toList).outcome
        = .error (.inputTooLarge 10 4) ∧
      (Unpacker.unpackPage ⟨⟨false, 4⟩, .silent⟩ "var a = 1;".toList none).outcome
        = .error (.inputTooLarge 10 4) ∧
      (Unpacker.openEnvelope ⟨⟨false, 4⟩, .silent⟩ .standard "var a = 1;".toList).outcome
        = .error (.inputTooLarge 10 4) :=
  ⟨by decide, rfl, rfl, rfl, rfl⟩

end Unpacker

end PackedScript

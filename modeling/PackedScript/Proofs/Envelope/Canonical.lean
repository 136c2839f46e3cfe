import PackedScript.Proofs.Bytes.Lossy
import PackedScript.Proofs.Envelope
import PackedScript.Proofs.Reporting

/-!
# Envelopes that are opened

Of the argument of an envelope only what is left without joints matters: if it is the form of some
bytes, these bytes are the script in UTF-8, and if it is no form, the envelope is refused and the
failure is reported at the stage of envelopes (`openEnvelope_canonical`). No other failure looks the
same, for what unpacks the script fails at stages of its own.
-/

namespace PackedScript

open Text

/-- What is left of the arguments decides which script they stand for. -/
theorem Envelope.script_congr {argument argument' : Text}
    (h : stripped argument' = stripped argument) : script argument' = script argument := by
  unfold stripped at h
  rw [script, script, h]

namespace Unpacker

section

variable [Engine] {u : Unpacker} {pattern : EnvelopePattern} {page argument : Text}

/-- What unpacks the script in an envelope does not fail at the stage of envelopes. -/
theorem answer_ne_base64 (u : Unpacker) (script : Text) (fault : Base64.Fault) :
    u.answer script ≠ .error (.base64 fault) := by
  unfold answer
  split
  · rw [outcome_unpackUnchecked]
    intro h
    have hstage := Options.failsAt_unpack u.options script _ (Outcome.map_eq_error_iff.mp h)
    have hlocate : Stage.locate ∈ [Stage.extract, .symtab, .decode] := hstage
    exact absurd hlocate (by decide)
  · intro h
    cases h

/-- An envelope is refused as no form exactly when what is left of its argument is none. -/
theorem openEnvelope_eq_base64_iff (hcontent : pattern.content? page = some argument)
    (hlength : byteLength page ≤ u.options.maxLength) :
    (∃ fault, (u.openEnvelope pattern page).outcome = .error (.base64 fault)) ↔
      ¬∃ bytes, Envelope.stripped argument = Base64.encode bytes := by
  rw [outcome_openEnvelope_of_content u hcontent hlength]
  rcases Envelope.script_cases argument with ⟨bytes, hform, hscript⟩ | ⟨hno, fault, hscript⟩
  · rw [hscript]
    constructor
    · intro h
      obtain ⟨fault, hfault⟩ := h
      exact absurd hfault (answer_ne_base64 u _ fault)
    · intro hno
      exact absurd ⟨bytes, hform⟩ hno
  · rw [hscript]
    constructor
    · intro _ h
      obtain ⟨bytes, hform⟩ := h
      exact hno bytes hform
    · intro _
      exact ⟨fault, rfl⟩

/-- An envelope is opened if and only if its argument, without quotes, `+` and white space, is the
Base64 form of some bytes. If it is not, that is the failure, and it is reported once, at the stage
of envelopes. If it is, there are no other bytes with this form, and the script is the one text that
they stand for; it is unpacked if it is packed, and else it is the answer. So pages whose arguments
differ in nothing else have the same answer. -/
theorem openEnvelope_canonical (hcontent : pattern.content? page = some argument)
    (hlength : byteLength page ≤ u.options.maxLength) :
    ((∃ fault, (u.openEnvelope pattern page).outcome = .error (.base64 fault)) ↔
        ¬∃ bytes, Envelope.stripped argument = Base64.encode bytes) ∧
      (∀ fault, (u.openEnvelope pattern page).outcome = .error (.base64 fault) →
        (u.openEnvelope pattern page).reports = [⟨.locate, .base64 fault⟩] ∧
          (u.openEnvelope pattern page).errorLines
            = LogLine.upTo .error (u.reporter.lines .locate (.base64 fault)) ∧
          (u.reporter = .log → (u.openEnvelope pattern page).errorLines
            = [⟨.error, Reporter.line .locate (.base64 fault)⟩])) ∧
      (∀ bytes, Envelope.stripped argument = Base64.encode bytes →
        (∀ bytes', Envelope.stripped argument = Base64.encode bytes' → bytes' = bytes) ∧
          ∃ script, (∀ t, Utf8.Lossy bytes t ↔ t = script) ∧
            (isPacked script = false →
              (u.openEnvelope pattern page).outcome = .ok (some script)) ∧
            (isPacked script = true →
              (u.openEnvelope pattern page).outcome
                = (u.unpackUnchecked script).outcome.map some)) ∧
      ∀ (pattern' : EnvelopePattern) (page' argument' : Text),
        pattern'.content? page' = some argument' → byteLength page' ≤ u.options.maxLength →
          Envelope.stripped argument' = Envelope.stripped argument →
            (u.openEnvelope pattern' page').outcome = (u.openEnvelope pattern page).outcome := by
  refine ⟨openEnvelope_eq_base64_iff hcontent hlength, ?_, ?_, ?_⟩
  · intro fault hfault
    obtain ⟨hlines, hreports⟩ := accounted_openEnvelope u pattern page
    rw [hreports, hlines, hfault]
    refine ⟨rfl, rfl, fun hlog => ?_⟩
    rw [hlog]
    rfl
  · intro bytes hform
    refine ⟨fun bytes' hform' => Base64.encode_injective (hform'.symm.trans hform), ?_⟩
    have hopen := outcome_openEnvelope_of_content u hcontent hlength
    rw [Envelope.script_of_form hform] at hopen
    refine ⟨Utf8.decode bytes, fun t => Utf8.lossy_iff, ?_, ?_⟩
    · intro hpacked
      rw [hopen]
      show u.answer (Utf8.decode bytes) = _
      rw [answer, hpacked]
      rfl
    · intro hpacked
      rw [hopen]
      show u.answer (Utf8.decode bytes) = _
      rw [answer, if_pos hpacked]
  · intro pattern' page' argument' hcontent' hlength' hstripped
    rw [outcome_openEnvelope_of_content u hcontent hlength,
      outcome_openEnvelope_of_content u hcontent' hlength', Envelope.script_congr hstripped]

end

/-- A form in two pieces of a byte that starts no character, and a form with a bit too many. -/
theorem openEnvelope_canonical_two_pages :
    (standard.openEnvelope .standard
        "<script>JuicyCodes.Run('/w' + \"==\")</script>".toList).outcome
      = .ok (some [Utf8.replacement]) ∧
    ∃ fault, (standard.openEnvelope .standard
      "<script>JuicyCodes.Run('/x==')</script>".toList).outcome = .error (.base64 fault) := by
  constructor
  · have hopen := @openEnvelope_canonical _ standard .standard
      "<script>JuicyCodes.Run('/w' + \"==\")</script>".toList "'/w' + \"==\"".toList
      (by decide +kernel) (by decide +kernel)
    obtain ⟨-, script, hscript, hanswer, -⟩ := hopen.2.2.1 [0xFF] (by decide +kernel)
    obtain rfl : Utf8.decode [0xFF] = script := (hscript _).mp (Utf8.lossy_decode _)
    exact hanswer (by decide +kernel)
  · have hopen := @openEnvelope_canonical _ standard .standard
      "<script>JuicyCodes.Run('/x==')</script>".toList "'/x=='".toList
      (by decide +kernel) (by decide +kernel)
    apply hopen.1.mpr
    intro h
    obtain ⟨bytes, hform⟩ := h
    have hread := Base64.decode_eq_ok_iff.mpr hform
    have hfault : Base64.decode (Utf8.encode (Envelope.stripped "'/x=='".toList))
        = .error (.lastSymbol 120 1) := by
      decide +kernel
    rw [hread] at hfault
    cases hfault

end Unpacker

end PackedScript

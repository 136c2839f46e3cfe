import PackedScript.Envelope
import PackedScript.Pattern.Automaton
import PackedScript.Proofs.Bytes.Base64
import PackedScript.Proofs.Text.Class
import PackedScript.Proofs.Text.Cut
import PackedScript.Proofs.Unpacker.Stages

/-!
# What an envelope gives back

An envelope holds the Base64 form of a script in quoted pieces that are joined by `+`. The pieces
are put together by leaving out quotes, white space and every `+`. But `+` is also a digit of
Base64, so a form that holds one loses it. A form without `+` gives the script back
(`openEnvelope_page`); any other one is refused or read from fewer bytes than were written.
-/

namespace PackedScript

open Text

/-! ## The page -/

namespace EnvelopePattern

/-- A text without `c` is what lies before the first `c`. -/
theorem ne_of_notMem {c : Char} {t : Text} (h : c ∉ t) : ∀ d ∈ t, (d != c) = true := by
  intro d hd
  have hne : d ≠ c := fun heq => h (heq ▸ hd)
  simpa using hne

/-- An argument ends at the first closing parenthesis, if the next tag behind it ends the script. -/
theorem argument?_append {argument mid : Text} (hargument : ')' ∉ argument) (hmid : '<' ∉ mid)
    (post : Text) :
    argument? (callStart ++ (argument ++ ')' :: (mid ++ ("</script>".toList ++ post))))
      = some argument := by
  have hparen (t : Text) : StopsAt (· != ')') (')' :: t) := .cons (by decide) t
  have htag : StopsAt (· != '<') ("</script>".toList ++ post) := .cons (by decide) _
  have hrest := dropWhile_append_of_stopsAt (ne_of_notMem hmid) htag
  simp only [argument?, after?_append, Option.bind_eq_bind, Option.bind_some,
    dropWhile_append_of_stopsAt (ne_of_notMem hargument) (hparen _),
    takeWhile_append_of_stopsAt (ne_of_notMem hargument) (hparen _), after?, beq_self_eq_true,
    if_true, hrest]

end EnvelopePattern

namespace Envelope

/-- A page with an envelope: the call with its argument, and the end of the script behind it. -/
def page (pre argument mid post : Text) : Text :=
  pre ++ (EnvelopePattern.callStart ++ (argument ++ ')' :: (mid ++ ("</script>".toList ++ post))))

/-- The argument of the first envelope is found where no call starts before it. -/
theorem content?_page [Engine] {pre argument mid : Text} (hpre : ¬EnvelopePattern.callStart <:+: pre)
    (hargument : ')' ∉ argument) (hmid : '<' ∉ mid) (post : Text) :
    EnvelopePattern.standard.content? (page pre argument mid post) = some argument := by
  have hread := EnvelopePattern.argument?_append hargument hmid post
  rw [EnvelopePattern.content?, page]
  generalize argument ++ ')' :: (mid ++ ("</script>".toList ++ post)) = rest at hread ⊢
  have hcut : cutFirst (after? EnvelopePattern.callStart) (pre ++ (EnvelopePattern.callStart ++ rest))
      = some (pre, rest) := by
    have hstart : EnvelopePattern.callStart = 'J' :: "uicyCodes.Run(".toList := by decide
    rw [hstart] at hpre ⊢
    exact cutFirst_after?_eq (by decide) hpre
  -- an argument is read behind the start of a call, so its place is that of the first start
  obtain ⟨next, hnext⟩ : ∃ next, EnvelopePattern.argument?
      = fun t => (after? EnvelopePattern.callStart t).bind next := ⟨_, rfl⟩
  have hfound : next rest = some argument := by simpa [hnext] using hread
  rw [hnext, cutFirst_bind hcut hfound]
  rfl

/-! ## The argument -/

/-- A piece of a form between quotes, with white space around it. -/
structure Piece where
  before : Text
  quote : Char
  text : Text
  after : Text

namespace Piece

/-- The piece as it is written. -/
def written (piece : Piece) : Text :=
  piece.before ++ piece.quote :: (piece.text ++ piece.quote :: piece.after)

/-- The piece is between quotes of one kind, and only white space is around it. -/
structure Proper (piece : Piece) : Prop where
  before : Blank piece.before
  after : Blank piece.after
  quote : piece.quote = '"' ∨ piece.quote = '\''

end Piece

/-- An argument of some pieces, with `+` between them. -/
def expression (pieces : List Piece) : Text := ['+'].intercalate (pieces.map Piece.written)

/-- The form that an argument is read as. -/
def stripped (argument : Text) : Text := argument.filter (!isJoint ·)

theorem stripped_append (s t : Text) : stripped (s ++ t) = stripped s ++ stripped t :=
  List.filter_append ..

theorem stripped_blank {ws : Text} (hws : Blank ws) : stripped ws = [] := by
  rw [stripped, List.filter_eq_nil_iff]
  intro c hc
  simp [isJoint, hws c hc]

theorem stripped_written {piece : Piece} (h : piece.Proper) :
    stripped piece.written = stripped piece.text := by
  have hquote (t : Text) : stripped (piece.quote :: t) = stripped t := by
    refine List.filter_cons_of_neg ?_
    rcases h.quote with hquote | hquote <;> rw [hquote] <;> decide
  rw [Piece.written, stripped_append, stripped_blank h.before, hquote, stripped_append, hquote,
    stripped_blank h.after, List.nil_append, List.append_nil]

/-- What is around the pieces is left out. -/
theorem stripped_expression {pieces : List Piece} (h : ∀ piece ∈ pieces, piece.Proper) :
    stripped (expression pieces) = stripped (pieces.flatMap Piece.text) := by
  induction pieces with
  | nil => rfl
  | cons piece pieces ih =>
    obtain ⟨hpiece, hpieces⟩ := List.forall_mem_cons.mp h
    have hrest := ih hpieces
    cases pieces with
    | nil => simpa [expression] using stripped_written hpiece
    | cons next pieces =>
      have hplus (t : Text) : stripped ('+' :: t) = stripped t := rfl
      rw [expression, List.map_cons, List.map_cons, List.intercalate_cons_cons, List.append_assoc,
        List.singleton_append, stripped_append, stripped_written hpiece, hplus,
        List.flatMap_cons, stripped_append, ← hrest]
      rfl

/-! ## The form of a script -/

/-- The characters of a form are symbols and padding signs. -/
theorem mem_encode : ∀ {bytes : List UInt8} {c : Char}, c ∈ Base64.encode bytes →
    c = '=' ∨ ∃ v < 64, c = Base64.symbol v
  | [], _, h => by simp [Base64.encode] at h
  | [a], c, h => by
    have ha := a.toNat_lt
    simp only [Base64.encode, List.mem_cons, List.not_mem_nil, or_false] at h
    rcases h with rfl | rfl | rfl | rfl
    · exact .inr ⟨_, by omega, rfl⟩
    · exact .inr ⟨_, by omega, rfl⟩
    · exact .inl rfl
    · exact .inl rfl
  | [a, b], c, h => by
    have ha := a.toNat_lt
    have hb := b.toNat_lt
    simp only [Base64.encode, List.mem_cons, List.not_mem_nil, or_false] at h
    rcases h with rfl | rfl | rfl | rfl
    · exact .inr ⟨_, by omega, rfl⟩
    · exact .inr ⟨_, by omega, rfl⟩
    · exact .inr ⟨_, by omega, rfl⟩
    · exact .inl rfl
  | a :: b :: d :: rest, c, h => by
    have ha := a.toNat_lt
    have hb := b.toNat_lt
    have hd := d.toNat_lt
    simp only [Base64.encode, List.mem_cons] at h
    rcases h with rfl | rfl | rfl | rfl | h
    · exact .inr ⟨_, by omega, rfl⟩
    · exact .inr ⟨_, by omega, rfl⟩
    · exact .inr ⟨_, by omega, rfl⟩
    · exact .inr ⟨_, by omega, rfl⟩
    · exact mem_encode h

/-- Of a form, nothing is left out but `+`. -/
theorem stripped_encode (bytes : List UInt8) :
    stripped (Base64.encode bytes) = (Base64.encode bytes).filter (· != '+') := by
  have hsymbols : ∀ v < 64, isJoint (Base64.symbol v) = (Base64.symbol v == '+') := by decide +kernel
  refine List.filter_congr fun c hc => ?_
  have hjoint : isJoint c = (c == '+') := by
    rcases mem_encode hc with rfl | ⟨v, hv, rfl⟩
    · decide
    · exact hsymbols v hv
  rw [hjoint]
  rfl

/-- A form has no closing parenthesis, so an argument of its pieces has none. -/
theorem notMem_expression {pieces : List Piece} {bytes : List UInt8}
    (hproper : ∀ piece ∈ pieces, piece.Proper)
    (hpieces : pieces.flatMap Piece.text = Base64.encode bytes) : ')' ∉ expression pieces := by
  intro hmem
  rcases eq_or_mem_of_mem_intercalate hmem with heq | ⟨_, hwritten, hmem⟩
  · exact absurd heq (by decide)
  · obtain ⟨piece, hpiece, rfl⟩ := List.mem_map.mp hwritten
    have hp := hproper piece hpiece
    have hblank {ws : Text} (hws : Blank ws) : ')' ∉ ws :=
      fun h => absurd (hws _ h) (by decide)
    have hquote : ')' ≠ piece.quote := by
      rcases hp.quote with hquote | hquote <;> rw [hquote] <;> decide
    simp only [Piece.written, List.mem_append, List.mem_cons, hblank hp.before, hblank hp.after,
      hquote, false_or, or_false] at hmem
    have hform : ')' ∈ Base64.encode bytes := by
      rw [← hpieces]
      exact List.mem_flatMap.mpr ⟨piece, hpiece, hmem⟩
    have hsymbols : ∀ v < 64, ')' ≠ Base64.symbol v := by decide +kernel
    rcases mem_encode hform with heq | ⟨v, hv, heq⟩
    · exact absurd heq (by decide)
    · exact hsymbols v hv heq

theorem length_encode : ∀ bytes : List UInt8,
    (Base64.encode bytes).length = (bytes.length + 2) / 3 * 4
  | [] => rfl
  | [a] => by simp [Base64.encode]
  | [a, b] => by simp [Base64.encode]
  | a :: b :: c :: rest => by
    rw [Base64.encode]
    simp only [List.length_cons, length_encode rest]
    omega

/-- What is left of an argument is the form of the bytes that are read, or no form at all. -/
theorem script_cases (argument : Text) :
    (∃ bytes, stripped argument = Base64.encode bytes ∧
        script argument = .ok (Utf8.decode bytes)) ∨
      (∀ bytes, stripped argument ≠ Base64.encode bytes) ∧
        ∃ fault, script argument = .error (.base64 fault) := by
  unfold script
  rw [← stripped]
  cases hdecode : Base64.decode (Utf8.encode (stripped argument)) with
  | ok bytes => exact .inl ⟨bytes, Base64.decode_eq_ok_iff.mp hdecode, rfl⟩
  | error fault =>
    refine .inr ⟨fun bytes hform => ?_, fault, rfl⟩
    rw [Base64.decode_eq_ok_iff.mpr hform] at hdecode
    cases hdecode

theorem script_of_form {argument : Text} {bytes : List UInt8}
    (h : stripped argument = Base64.encode bytes) : script argument = .ok (Utf8.decode bytes) := by
  rw [script, ← stripped, Base64.decode_eq_ok_iff.mpr h]

section

variable {t : Text} {pieces : List Piece}

/-- A form without `+` gives the script back. -/
theorem script_of_no_plus (hproper : ∀ piece ∈ pieces, piece.Proper)
    (hpieces : pieces.flatMap Piece.text = Base64.encode (Utf8.encode t))
    (hplus : '+' ∉ Base64.encode (Utf8.encode t)) : script (expression pieces) = .ok t := by
  have hkeep : stripped (expression pieces) = Base64.encode (Utf8.encode t) := by
    rw [stripped_expression hproper, hpieces, stripped_encode, List.filter_eq_self]
    exact EnvelopePattern.ne_of_notMem hplus
  rw [script_of_form hkeep, Utf8.decode_encode]

/-- A form with `+` is refused or read from fewer bytes than were written. -/
theorem script_of_plus (hproper : ∀ piece ∈ pieces, piece.Proper)
    (hpieces : pieces.flatMap Piece.text = Base64.encode (Utf8.encode t))
    (hplus : '+' ∈ Base64.encode (Utf8.encode t)) :
    (∃ fault, script (expression pieces) = .error (.base64 fault)) ∨
      ∃ bytes, bytes.length < (Utf8.encode t).length ∧
        script (expression pieces) = .ok (Utf8.decode bytes) := by
  have hstrip : stripped (expression pieces)
      = (Base64.encode (Utf8.encode t)).filter (· != '+') := by
    rw [stripped_expression hproper, hpieces, stripped_encode]
  have hshorter : (stripped (expression pieces)).length < (Base64.encode (Utf8.encode t)).length := by
    rw [hstrip]
    exact List.length_filter_lt_length_iff_exists.mpr ⟨'+', hplus, by decide⟩
  rcases script_cases (expression pieces) with ⟨bytes, hform, hscript⟩ | ⟨-, herror⟩
  · -- what is read has a shorter form, and a shorter form is one of fewer bytes
    refine .inr ⟨bytes, ?_, hscript⟩
    rw [hform, length_encode, length_encode] at hshorter
    omega
  · exact .inl herror

/-- A script without replacement characters is given back exactly when its form has no `+`. -/
theorem script_eq_ok_iff (hproper : ∀ piece ∈ pieces, piece.Proper)
    (hpieces : pieces.flatMap Piece.text = Base64.encode (Utf8.encode t))
    (hreplacement : Utf8.replacement ∉ t) :
    script (expression pieces) = .ok t ↔ '+' ∉ Base64.encode (Utf8.encode t) := by
  constructor
  · intro hscript hplus
    rcases script_of_plus hproper hpieces hplus with ⟨fault, herror⟩ | ⟨bytes, hlt, hok⟩
    · rw [hscript] at herror
      simp at herror
    · rw [hscript] at hok
      obtain rfl := Except.ok.inj hok
      rw [Utf8.encode_decode hreplacement] at hlt
      omega
  · exact script_of_no_plus hproper hpieces

end

end Envelope

/-! ## Opening an envelope -/

namespace Unpacker

section

variable [Engine]

/-- The answer for the script in an envelope: what it is unpacked to if it is packed, and else the
script itself. -/
def answer (u : Unpacker) (script : Text) : Outcome (Option Text) :=
  if isPacked script then (u.unpackUnchecked script).outcome.map some else .ok (some script)

/-- The outcome of opening an envelope is that of its steps in order. -/
theorem outcome_openEnvelope (u : Unpacker) (pattern : EnvelopePattern) (page : Text) :
    (u.openEnvelope pattern page).outcome = (Outcome.ofExcept (u.options.check page)).bind fun _ =>
      match pattern.content? page with
      | none => .ok none
      | some argument => (Outcome.ofExcept (Envelope.script argument)).bind u.answer := by
  rw [openEnvelope, Run.outcome_bind, Reporter.outcome_watch, Run.outcome_ofExcept]
  cases u.options.check page with
  | error failure => rfl
  | ok _ =>
    cases pattern.content? page with
    | none => rfl
    | some argument =>
      show (u.reporter.watch (Run.ofExcept (Envelope.script argument)) >>= _).outcome
        = (Outcome.ofExcept (Envelope.script argument)).bind u.answer
      rw [Run.outcome_bind, Reporter.outcome_watch, Run.outcome_ofExcept]
      cases Envelope.script argument with
      | error failure => rfl
      | ok script =>
        show Run.outcome _ = u.answer script
        unfold answer
        split
        · rw [Run.outcome_bind]
          rfl
        · rfl

/-- Where a page holds an envelope and is not too large, the argument is what matters. -/
theorem outcome_openEnvelope_of_content (u : Unpacker) {pattern : EnvelopePattern}
    {page argument : Text} (hcontent : pattern.content? page = some argument)
    (hlength : byteLength page ≤ u.options.maxLength) :
    (u.openEnvelope pattern page).outcome
      = (Outcome.ofExcept (Envelope.script argument)).bind u.answer := by
  rw [outcome_openEnvelope, Options.check, if_neg (by omega), hcontent]
  rfl

variable {t pre mid post : Text} {pieces : List Envelope.Piece}

/-- The first envelope of a page is the one that is opened. -/
theorem outcome_openEnvelope_page (u : Unpacker) (hproper : ∀ piece ∈ pieces, piece.Proper)
    (hpieces : pieces.flatMap Envelope.Piece.text = Base64.encode (Utf8.encode t))
    (hpre : ¬EnvelopePattern.callStart <:+: pre) (hmid : '<' ∉ mid)
    (hlength : byteLength (Envelope.page pre (Envelope.expression pieces) mid post)
      ≤ u.options.maxLength) :
    (u.openEnvelope .standard
        (Envelope.page pre (Envelope.expression pieces) mid post)).outcome
      = (Outcome.ofExcept (Envelope.script (Envelope.expression pieces))).bind u.answer :=
  outcome_openEnvelope_of_content u
    (Envelope.content?_page hpre (Envelope.notMem_expression hproper hpieces) hmid post) hlength

/-- An envelope gives its script back, however the form of the script is cut, quoted and spaced, if
the form has no `+`. A form with `+` is refused or read from fewer bytes than were written, and
unless the script has replacement characters of its own, it is never the script that is read. -/
theorem openEnvelope_page (u : Unpacker) (hproper : ∀ piece ∈ pieces, piece.Proper)
    (hpieces : pieces.flatMap Envelope.Piece.text = Base64.encode (Utf8.encode t))
    (hpre : ¬EnvelopePattern.callStart <:+: pre) (hmid : '<' ∉ mid)
    (hlength : byteLength (Envelope.page pre (Envelope.expression pieces) mid post)
      ≤ u.options.maxLength) :
    ('+' ∉ Base64.encode (Utf8.encode t) →
      (u.openEnvelope .standard
        (Envelope.page pre (Envelope.expression pieces) mid post)).outcome = u.answer t) ∧
    ('+' ∈ Base64.encode (Utf8.encode t) →
      (∃ fault, (u.openEnvelope .standard
          (Envelope.page pre (Envelope.expression pieces) mid post)).outcome
            = .error (.base64 fault)) ∨
        ∃ bytes, bytes.length < (Utf8.encode t).length ∧ (u.openEnvelope .standard
          (Envelope.page pre (Envelope.expression pieces) mid post)).outcome
            = u.answer (Utf8.decode bytes)) ∧
    (Utf8.replacement ∉ t →
      (Envelope.script (Envelope.expression pieces) = .ok t
        ↔ '+' ∉ Base64.encode (Utf8.encode t))) := by
  rw [outcome_openEnvelope_page u hproper hpieces hpre hmid hlength]
  refine ⟨?_, ?_, Envelope.script_eq_ok_iff hproper hpieces⟩
  · intro hplus
    rw [Envelope.script_of_no_plus hproper hpieces hplus]
    rfl
  · intro hplus
    rcases Envelope.script_of_plus hproper hpieces hplus with ⟨fault, herror⟩ | ⟨bytes, hlt, hok⟩
    · refine .inl ⟨fault, ?_⟩
      rw [herror]
      rfl
    · refine .inr ⟨bytes, hlt, ?_⟩
      rw [hok]
      rfl

end

/-- A script in two pieces with different quotes. -/
theorem openEnvelope_page_two_pieces :
    (standard.openEnvelope .standard
        "<script>JuicyCodes.Run( 'dmFyIGE' +\n\"9MTs=\");</script>".toList).outcome
      = .ok (some "var a=1;".toList) := by
  have hspace : Blank [' '] ∧ Blank ['\n'] ∧ Blank [] := by
    simp only [Blank, List.forall_mem_singleton, List.not_mem_nil, false_implies, implies_true,
      and_true]
    decide
  obtain ⟨hspace, hline, hnil⟩ := hspace
  have hproper : ∀ piece ∈ [(⟨[' '], '\'', "dmFyIGE".toList, [' ']⟩ : Envelope.Piece),
      ⟨['\n'], '"', "9MTs=".toList, []⟩], piece.Proper := by
    simp only [List.forall_mem_cons]
    exact ⟨⟨hspace, hspace, .inr rfl⟩, ⟨hline, hnil, .inl rfl⟩, by simp⟩
  have hopen := (@openEnvelope_page _ "var a=1;".toList "<script>".toList [';'] [] _ standard hproper
    (by decide +kernel) (by decide +kernel) (by decide +kernel) (by decide +kernel)).1
    (by decide +kernel)
  have hanswer : standard.answer "var a=1;".toList = .ok (some "var a=1;".toList) := by
    decide +kernel
  rw [hanswer] at hopen
  exact hopen

/-- A script whose form ends in `+`: the page is refused. -/
theorem openEnvelope_drops_plus :
    Base64.encode (Utf8.encode ">>>".toList) = "Pj4+".toList ∧
      (∀ piece ∈ [(⟨[], '"', "Pj4+".toList, []⟩ : Envelope.Piece)], piece.Proper) ∧
      (standard.openEnvelope .standard (Envelope.page "<script>".toList
        (Envelope.expression [⟨[], '"', "Pj4+".toList, []⟩]) [] [])).outcome
          = .error (.base64 .padding) ∧
      standard.answer ">>>".toList = .ok (some ">>>".toList) := by
  have hnil : Blank [] := by simp [Blank]
  have hproper : ∀ piece ∈ [(⟨[], '"', "Pj4+".toList, []⟩ : Envelope.Piece)], piece.Proper := by
    simp only [List.forall_mem_cons]
    exact ⟨⟨hnil, hnil, .inl rfl⟩, by simp⟩
  exact ⟨by decide +kernel, hproper, by decide +kernel, by decide +kernel⟩

end Unpacker

end PackedScript

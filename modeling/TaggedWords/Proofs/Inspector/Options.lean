import TaggedWords.Inspector.Options
import TaggedWords.Proofs.Spelling

/-!
# What an answer depends on

A question is read first and its answer is put into words then.  What is read does not depend on
the options, so that they never decide whether there is an answer, and how it is put depends on
`debug` alone.

* `Options.showValue`, `Options.showWord` — how a value and a word are put into words.
* `decodeText_of_ofText`, `encodeText_eq` — the answer to a word and to a literal.
* `exists_of_decodeText`, `exists_of_encodeText` — where an answer came from.
* `decodeText_eq_error_iff` — why there is no answer to a word.
* `evalLine_of_blank`, `evalLine_encode`, `evalLine_decode` — which question a line puts.
-/

set_option autoImplicit false

namespace TaggedWords
namespace Inspector
namespace Options

variable {options : Options} {text answer : String}

/-! ## Words -/

/-- How the value of a word is shown. -/
def showValue (options : Options) (w : Word) (v : Value) : String :=
  if options.debug then w.hex ++ " " ++ v.kind ++ " " ++ v.display else v.display

theorem decodeText_of_ofText {w : Word} (hw : Word.ofText text = .ok w) :
    options.decodeText text = (w.classify.mapError .decode).map (options.showValue w) := by
  rw [decodeText, hw]
  cases hv : w.classify <;> simp only [bind, Except.bind, hv] <;> rfl

theorem decodeText_of_refused {failure : Failure} (h : Word.ofText text = .error failure) :
    options.decodeText text = .error failure := by
  rw [decodeText, h]
  rfl

/-- What counts of a word is what trimming leaves of it. -/
theorem decodeText_congr {text' : String} (h : Text.trim text.toList = Text.trim text'.toList) :
    options.decodeText text = options.decodeText text' := by
  rw [decodeText, decodeText, Word.ofText_congr h]

/-- An answer to a word was read off a word that holds a value. -/
theorem exists_of_decodeText (h : options.decodeText text = .ok answer) :
    ∃ w v, Word.ofText text = .ok w ∧ w.classify = .ok v ∧ answer = options.showValue w v := by
  cases hw : Word.ofText text with
  | error failure =>
    rw [decodeText_of_refused hw] at h
    cases h
  | ok w =>
    rw [decodeText_of_ofText hw] at h
    cases hv : w.classify with
    | error e => rw [hv] at h; cases h
    | ok v =>
      rw [hv] at h
      exact ⟨w, v, rfl, hv, (Except.ok.inj h).symm⟩

/-- There is no answer to a word that is misspelled, or that holds no value. -/
theorem decodeText_eq_error_iff {failure : Failure} :
    options.decodeText text = .error failure ↔
      Word.ofText text = .error failure ∨
        ∃ w e, Word.ofText text = .ok w ∧ w.classify = .error e ∧ failure = .decode e := by
  constructor
  · intro h
    cases hw : Word.ofText text with
    | error refusal =>
      rw [decodeText_of_refused hw] at h
      exact .inl (congrArg Except.error (Except.error.inj h))
    | ok w =>
      rw [decodeText_of_ofText hw] at h
      cases hv : w.classify with
      | error e =>
        rw [hv] at h
        exact .inr ⟨w, e, rfl, hv, (Except.error.inj h).symm⟩
      | ok v =>
        rw [hv] at h
        cases h
  · rintro (hrefused | ⟨w, e, hw, hv, rfl⟩)
    · exact decodeText_of_refused hrefused
    · rw [decodeText_of_ofText hw, hv]
      rfl

/-! ## Literals -/

/-- How the word of a value is shown. -/
def showWord (options : Options) (v : Value) : String :=
  if options.debug then v.word.hex ++ " " ++ v.kind ++ " " ++ v.word.decimal else v.word.hex

theorem encodeText_eq (options : Options) (text : String) :
    options.encodeText text = (Value.ofLiteral text).map options.showWord := by
  rw [encodeText]
  cases Value.ofLiteral text <;> rfl

theorem encodeText_of_ofLiteral {v : Value} (h : Value.ofLiteral text = .ok v) :
    options.encodeText text = .ok (options.showWord v) := by
  rw [encodeText_eq, h]
  rfl

/-- An answer to a literal was made from its value. -/
theorem exists_of_encodeText (h : options.encodeText text = .ok answer) :
    ∃ v, Value.ofLiteral text = .ok v ∧ answer = options.showWord v := by
  rw [encodeText_eq] at h
  cases hv : Value.ofLiteral text with
  | error failure => rw [hv] at h; cases h
  | ok v =>
    rw [hv] at h
    exact ⟨v, rfl, (Except.ok.inj h).symm⟩

/-- There is no answer to a literal that is misspelled. -/
theorem encodeText_eq_error_iff {failure : Failure} :
    options.encodeText text = .error failure ↔ Value.ofLiteral text = .error failure := by
  rw [encodeText_eq]
  cases Value.ofLiteral text <;> simp [Except.map]

/-! ## Lines of a session -/

theorem isBlank_of_mem_encodeCommand : ∀ c ∈ encodeCommand, Text.isBlank c = false := by
  have hall : encodeCommand.all (fun c => !Text.isBlank c) = true := by decide
  simpa only [List.all_eq_true, Bool.not_eq_true'] using hall

section Lines

variable {line : String}

theorem evalLine_of_blank (h : Text.trimStart line.toList = []) :
    options.evalLine line = .ok "" := by
  rw [evalLine, h]
  rfl

/-- Behind `:encode` and a blank everything is the literal. -/
theorem evalLine_encode {blank : Char} (hblank : Text.isBlank blank = true) {literal : String}
    (h : Text.trimStart line.toList = encodeCommand ++ blank :: literal.toList) :
    options.evalLine line = options.encodeText literal := by
  rw [evalLine, h, Text.splitAtBlank?_append isBlank_of_mem_encodeCommand hblank]
  dsimp only
  rw [if_pos rfl, String.ofList_toList]

/-- A line that is not blank and does not begin with `:encode` and a blank is a word. -/
theorem evalLine_decode (hne : Text.trimStart line.toList ≠ [])
    (hcommand : ∀ blank literal, Text.isBlank blank = true →
      Text.trimStart line.toList ≠ encodeCommand ++ blank :: literal) :
    options.evalLine line = options.decodeText line := by
  have hword : options.decodeText (String.ofList (Text.trimStart line.toList)) =
      options.decodeText line := by
    refine decodeText_congr ?_
    rw [String.toList_ofList, Text.trim_trimStart]
  rw [evalLine, ← hword]
  rcases Text.exists_first_blank (Text.trimStart line.toList) with
    hnone | ⟨command, blank, rest, hnone, hblank, hline⟩
  · rw [Text.splitAtBlank?_eq_none hnone]
    exact if_neg (by rwa [List.isEmpty_iff])
  · have hother : command ≠ encodeCommand := by
      rintro rfl
      exact hcommand blank rest hblank hline
    rw [hline, Text.splitAtBlank?_append hnone hblank]
    exact if_neg hother

/-- A line of one piece is a word. -/
theorem evalLine_word (hne : line.toList ≠ []) (h : ∀ c ∈ line.toList, Text.isBlank c = false) :
    options.evalLine line = options.decodeText line := by
  have hstart := Text.trimStart_eq_self h
  refine evalLine_decode (by rwa [hstart]) fun blank literal hblank hline => ?_
  rw [hstart] at hline
  have hpiece := h blank (by simp [hline])
  rw [hblank] at hpiece
  cases hpiece

end Lines

end Options
end Inspector
end TaggedWords

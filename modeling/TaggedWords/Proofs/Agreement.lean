import TaggedWords.Native
import TaggedWords.Proofs.Delivery
import TaggedWords.Proofs.Inspector.RoundTrip
import TaggedWords.Proofs.Inspector.Session
import TaggedWords.Proofs.Printing

/-!
# A program and the inspector agree

The value of a word is shown twice: by the program that returned the word, which prints bytes, and
by the inspector when it is given the word in writing, which answers in text.  The two go separate
ways from the word on, in what they print and in how they complain.

* `Native.exit_of_ok`, `Native.exit_of_error` — how a native process ends, from its word.
* `Inspector.process_terminator` — the inspector with one word on its command line.
* `native_agrees_with_inspector` — the same value and the same text, or the same complaint.
-/

set_option autoImplicit false

namespace TaggedWords

/-! ## The native process -/

namespace Run

variable {w : Word}

theorem finish_unlimited_of_ok {v : Value} (h : w.classify = .ok v) :
    (finish w Sink.unlimited).result = .ok v ∧ (finish w Sink.unlimited).sink.held = v.line := by
  have hwritten := Sink.write_eq_ok_iff.2 (Sink.fitting_unlimited v.line)
  obtain ⟨hresult, hsink⟩ := finish_of_written h hwritten
  rw [hresult, hsink]
  exact ⟨rfl, rfl⟩

theorem finish_unlimited_of_error {e : DecodeError} (h : w.classify = .error e) :
    (finish w Sink.unlimited).result = .error (.decode e) ∧
      (finish w Sink.unlimited).sink.held = [] := by
  obtain ⟨hresult, hsink⟩ := @finish_of_error Sink.unlimited w e h
  rw [hresult, hsink]
  exact ⟨rfl, rfl⟩

end Run

namespace Native

variable {w : Word}

/-- A program whose word holds a value prints it and ends well. -/
theorem exit_of_ok {v : Value} (h : w.classify = .ok v) :
    exit Logger.off (Run.finish w Sink.unlimited) = { status := 0, out := v.line, err := "" } := by
  obtain ⟨hresult, hheld⟩ := Run.finish_unlimited_of_ok h
  rw [exit, hresult, hheld, Logger.shown_off]

/-- A program whose word holds no value prints nothing and says why. -/
theorem exit_of_error {e : DecodeError} (h : w.classify = .error e) :
    exit Logger.off (Run.finish w Sink.unlimited) =
      { status := 1, out := [], err := "Error: " ++ Report.render (.decode e) } := by
  obtain ⟨hresult, hheld⟩ := Run.finish_unlimited_of_error h
  rw [exit, hresult, hheld, Logger.shown_off]
  simp only [String.empty_append]

/-- **A logger puts its records in front of what stands on standard error** and changes nothing
else. -/
theorem exit_eq_off (logger : Logger) (outcome : Run.Outcome) :
    exit logger outcome =
      { exit Logger.off outcome with
        err := logger.shown outcome.log ++ (exit Logger.off outcome).err } := by
  rw [exit, exit, Logger.shown_off]
  cases outcome.result with
  | ok v => simp only [String.append_empty]
  | error failure => simp only [String.empty_append]

/-- A program whose word holds a value logs no error. -/
theorem shown_errors_of_ok {v : Value} (h : w.classify = .ok v) (words : Run.Record → String) :
    (Logger.errors words).shown (Run.log w) = "" := by
  rw [Run.log_of_ok h]
  rfl

/-- A program whose word holds no value logs one error, which says why. -/
theorem shown_errors_of_error {e : DecodeError} (h : w.classify = .error e)
    (words : Run.Record → String) :
    (Logger.errors words).shown (Run.log w) =
      words { level := .error, text := "cannot decode " ++ w.hex ++ ": " ++ e.message } := by
  rw [Run.log_of_error h]
  simp [Logger.errors]

end Native

/-! ## The inspector with one word -/

namespace Inspector

theorem process_terminator (text input : String) (home : Home) :
    process ["--", text] input home =
      { status := 0
        out := Console.toOut (({} : Options).decodeText text)
        err := some (Console.toErr (({} : Options).decodeText text))
        home } :=
  process_of_read_word (read_terminator text) input home

end Inspector

open Inspector in
/-- **A program and the inspector agree on every word.**  If the word holds a value, the program
prints it and ends well; its bytes, read one by one, are the answer of the inspector, and they are
the bytes that the inspector writes except for characters above 127.  If not, both refuse the word
for the same reason and print nothing, and the complaint of the program is the report of the
inspector with a word in front.  This is the program with its logger switched off.  Any other logger
adds its records in front of what stands on standard error, and changes nothing else; one that shows
errors only adds nothing if the word holds a value, and one record otherwise. -/
theorem native_agrees_with_inspector {options : Options} (hdebug : options.debug = false)
    {text : String} {w : Word} (hw : Word.ofText text = .ok w) (arguments : List String)
    (logger : Native.Logger) (words : Run.Record → String) (input : String) (home : Home) :
    let outcome := Id.run (Run.program (pure w) Sink.unlimited)
    let exit := Id.run (Native.process (pure w) arguments Native.Logger.off)
    let inspected := process ["--", text] input home
    Word.ofText w.hex = .ok w ∧
    Id.run (Native.process (pure w) arguments logger) =
      { exit with err := logger.shown outcome.log ++ exit.err } ∧
    ((∃ v answer, w.classify = .ok v ∧ options.decodeText text = .ok answer ∧
        outcome.result = .ok v ∧ outcome.sink.held = exit.out ∧
        exit.status = 0 ∧ exit.err = "" ∧ Text.ofLatin1 exit.out = answer ++ "\n" ∧
        ((Console.unlimited.report (.ok answer)).2.out.held = exit.out ↔
          ¬ ∃ code, v = .char code ∧ 128 ≤ code.toNat) ∧
        (Native.Logger.errors words).shown outcome.log = "") ∨
      ∃ e account, w.classify = .error e ∧ options.decodeText text = .error (.decode e) ∧
        outcome.result = .error (.decode e) ∧ outcome.sink.held = [] ∧
        exit.out = [] ∧ inspected.out = [] ∧ exit.status = 1 ∧ inspected.status = 0 ∧
        inspected.err = some (Text.utf8 account) ∧ exit.err = "Error: " ++ account ∧
        (Native.Logger.errors words).shown outcome.log =
          words { level := .error, text := "cannot decode " ++ w.hex ++ ": " ++ e.message }) := by
  intro outcome exit inspected
  refine ⟨Word.ofText_hex w, Native.exit_eq_off logger _, ?_⟩
  have houtcome : outcome = Run.finish w Sink.unlimited := rfl
  have hexit : exit = Native.exit Native.Logger.off (Run.finish w Sink.unlimited) := rfl
  have hlog : (Run.finish w Sink.unlimited).log = Run.log w := rfl
  have hinspected : inspected = _ := process_terminator text input home
  cases hv : w.classify with
  | ok v =>
    obtain ⟨hresult, hheld⟩ := Run.finish_unlimited_of_ok hv
    have hanswer : options.decodeText text = .ok v.display := by
      rw [Options.decodeText_of_ofText hw, hv]
      exact congrArg Except.ok (Options.showValue_of_not_debug hdebug w v)
    have hsmall : (∀ code, v = .char code → code.toNat < 128) ↔
        ¬ ∃ code, v = .char code ∧ 128 ≤ code.toNat := by
      simp only [not_exists, not_and, Nat.not_le]
    left
    rw [houtcome, hexit, Native.exit_of_ok hv, hlog]
    exact ⟨v, v.display, rfl, hanswer, hresult, hheld, rfl, rfl, v.ofLatin1_line,
      v.utf8_answer_eq_line_iff.trans hsmall, Native.shown_errors_of_ok hv words⟩
  | error e =>
    obtain ⟨hresult, hheld⟩ := Run.finish_unlimited_of_error hv
    have hrefused : ∀ o : Options, o.decodeText text = .error (.decode e) := fun o =>
      Options.decodeText_eq_error_iff.2 (.inr ⟨w, e, hw, hv, rfl⟩)
    rw [hrefused {}] at hinspected
    right
    rw [houtcome, hexit, Native.exit_of_error hv, hinspected, hlog]
    exact ⟨e, Report.render (.decode e), rfl, hrefused options, hresult, hheld, rfl, rfl, rfl, rfl,
      rfl, rfl, Native.shown_errors_of_error hv words⟩

open Inspector in
/-- A word with stray bits that holds a character above 127, and one that points to a pair, which is
also an error in the log. -/
theorem native_agrees_with_inspector_on_letter_and_pair :
    let errors := Native.Logger.errors fun record => record.level.name ++ " " ++ record.text ++ "\n"
    ({} : Options).debug = false ∧ Word.ofText " 0x1_00e907" = .ok 0x100e907 ∧
    Word.ofText "-7" = .ok (-7) ∧
    (let letter := Id.run (Native.process (pure 0x100e907) ["--help"])
     letter.status = 0 ∧ letter.out = Text.utf8 "#\\" ++ [0xE9, 0x0A] ∧ letter.err = "" ∧
       Text.ofLatin1 letter.out = "#\\é\n" ∧
       (Console.unlimited.report (.ok "#\\é")).2.out.held ≠ letter.out ∧
       Id.run (Native.process (pure 0x100e907) ["--help"] errors) = letter) ∧
    (let pair := Id.run (Native.process (pure (-7)) [])
     let inspected := process ["--", "-7"] "4\n" .unset
     pair.status = 1 ∧ inspected.status = 0 ∧ pair.out = [] ∧ inspected.out = [] ∧
       (∃ account, inspected.err = some (Text.utf8 account) ∧ pair.err = "Error: " ++ account) ∧
       (Id.run (Native.process (pure (-7)) [] errors)).err =
         errors { level := .error, text := "cannot decode 0xfffffffffffffff9: " ++
           (DecodeError.reservedTag (-7) .pair).message } ++ pair.err) := by
  intro errors
  have hletter : Word.ofText " 0x1_00e907" = .ok 0x100e907 := rfl
  have hpair : Word.ofText "-7" = .ok (-7) := rfl
  refine ⟨rfl, hletter, hpair, ?_, ?_⟩
  · obtain ⟨-, hlogged, hagree⟩ :=
      @native_agrees_with_inspector {} rfl " 0x1_00e907" _ hletter ["--help"] errors
        (fun record => record.level.name ++ " " ++ record.text ++ "\n") "" .unset
    rcases hagree with ⟨v, answer, hv, hanswer, -, -, hstatus, herr, hlatin, hiff, hquiet⟩ |
      ⟨e, account, he, -⟩
    · obtain rfl : Value.char 0xE9 = v := Except.ok.inj hv
      obtain rfl : "#\\é" = answer := Except.ok.inj hanswer
      rw [hquiet, String.empty_append] at hlogged
      exact ⟨hstatus, rfl, herr, hlatin, mt hiff.1 fun h => h ⟨0xE9, rfl, by decide⟩, hlogged⟩
    · exact nomatch he
  · obtain ⟨-, hlogged, hagree⟩ := @native_agrees_with_inspector {} rfl "-7" _ hpair [] errors
      (fun record => record.level.name ++ " " ++ record.text ++ "\n") "4\n" .unset
    rcases hagree with ⟨v, answer, hv, -⟩ |
      ⟨e, account, he, -, -, -, hout, hout', hstatus, hstatus', herr, herr', hshown⟩
    · exact nomatch hv
    · obtain rfl : DecodeError.reservedTag (-7) .pair = e := Except.error.inj he
      rw [hshown] at hlogged
      exact ⟨hstatus, hstatus', hout, hout', ⟨account, herr, herr'⟩,
        congrArg Native.Exit.err hlogged⟩

end TaggedWords

import TaggedWords.Proofs.Run

/-!
# What one run delivers

A run ends in one of four ways: its word holds no value, the line of its value does not fit into
the sink, the line fits but the sink cannot be flushed, or all is well.  This file says for each of
them what the sink has taken, whether it was flushed, what the run reports and what was logged.  A
run that reports a value has put the whole line into the sink and flushed it.

* `Sink.room` — how much a sink takes that may hold something already.
* `finish_of_fits`, `finish_of_not_fits` — the run of a word that holds a value.
* `counting` — an entry point that can tell how often it was called.
* `program_accounting` — the account of one run.
-/

set_option autoImplicit false

namespace TaggedWords

/-! ## Room -/

namespace Sink

/-- How many more bytes the sink takes; without a bound if `none`. -/
def room (sink : Sink) : Option Nat :=
  sink.capacity.map fun n => n - sink.held.length

theorem fitting_eq_kept (sink : Sink) (bytes : List UInt8) :
    sink.fitting bytes = kept sink.room bytes := by
  rw [fitting, room]
  cases sink.capacity <;> rfl

/-- What is kept is all of it exactly if it fits. -/
theorem kept_eq_self_iff {capacity : Option Nat} {bytes : List UInt8} :
    kept capacity bytes = bytes ↔ Fits capacity bytes.length := by
  constructor
  · intro h n hn
    subst hn
    have hlength := congrArg List.length h
    rw [kept, List.length_take] at hlength
    omega
  · exact kept_eq_self

/-- A write succeeds exactly if there is room for it. -/
theorem write_eq_ok_iff_room {sink : Sink} {bytes : List UInt8} :
    (sink.write bytes).1 = .ok () ↔ Fits sink.room bytes.length := by
  rw [write_eq_ok_iff, fitting_eq_kept, kept_eq_self_iff]

end Sink

/-! ## One run -/

namespace Run

section OneRun

variable {sink : Sink} {w : Word} {v : Value} (h : w.classify = .ok v)
include h

/-- **A line that fits goes into the sink**, and the flush decides what is reported. -/
theorem finish_of_fits (hfits : Sink.Fits sink.room v.line.length) :
    (finish w sink).result =
        (if sink.flushFails then .error (.undelivered .notFlushed) else .ok v) ∧
      (finish w sink).sink =
        { sink with held := sink.held ++ v.line, flushes := sink.flushes + 1 } := by
  have hwritten := Sink.write_eq_ok_iff_room.2 hfits
  obtain ⟨hresult, hsink⟩ := finish_of_written h hwritten
  refine ⟨hresult, hsink.trans ?_⟩
  have hall : sink.fitting v.line = v.line := Sink.write_eq_ok_iff.1 hwritten
  simp only [Sink.write, hall]

/-- **A line that does not fit is cut off**, and the sink is not flushed. -/
theorem finish_of_not_fits (hfits : ¬ Sink.Fits sink.room v.line.length) :
    (finish w sink).result = .error (.undelivered .full) ∧
      (finish w sink).sink = { sink with held := sink.held ++ Sink.kept sink.room v.line } := by
  have hwritten := mt Sink.write_eq_ok_iff_room.1 hfits
  obtain ⟨hresult, hsink⟩ := finish_of_not_written h hwritten
  refine ⟨hresult, hsink.trans ?_⟩
  simp only [Sink.write, Sink.fitting_eq_kept]

end OneRun

/-! ## The log -/

theorem log_of_error {w : Word} {e : DecodeError} (h : w.classify = .error e) :
    log w =
      [{ level := .debug, text := "scheme_entry returned " ++ w.hex },
        { level := .error, text := "cannot decode " ++ w.hex ++ ": " ++ e.message }] := by
  rw [log, h]

theorem log_of_ok {w : Word} {v : Value} (h : w.classify = .ok v) :
    log w =
      [{ level := .debug, text := "scheme_entry returned " ++ w.hex },
        { level := .debug,
          text := "decoded " ++ w.hex ++ " as " ++ v.kind ++ " " ++ v.display }] := by
  rw [log, h]

/-! ## Calls -/

/-- An entry point that returns the word and counts its calls. -/
def counting (w : Word) : StateM Nat Word := do
  modify (· + 1)
  return w

/-- A run does what its entry point does, once, and turns the word into the outcome. -/
theorem program_eq_map {m : Type → Type} [Monad m] [LawfulMonad m] (entry : m Word) (sink : Sink) :
    program entry sink = (fun w => finish w sink) <$> entry :=
  bind_pure_comp _ _

theorem run_program_counting (w : Word) (sink : Sink) (calls : Nat) :
    (program (counting w) sink).run calls = (finish w sink, calls + 1) := rfl

/-- **The account of one run.**  The entry point is called once.  Two records are logged, and they
depend on the word only.

If the word holds no value, the sink is left alone and the failure to decode is reported.  If it
holds one, the sink takes the beginning of its line, as much as there is room for.  The sink is
flushed once if that is the whole line, and not at all if not.  The value is reported exactly if
the whole line was taken and the flush succeeded; otherwise it is the fault of the sink that is
reported, and a fault of the flush comes after the whole line was taken. -/
theorem program_accounting (w : Word) (sink : Sink) :
    let outcome := finish w sink
    (∀ (m : Type → Type) [Monad m] [LawfulMonad m] (entry : m Word),
      program entry sink = (fun w => finish w sink) <$> entry) ∧
    (∀ calls, (program (counting w) sink).run calls = (outcome, calls + 1)) ∧
    outcome.log.length = 2 ∧ (∀ sink', (finish w sink').log = outcome.log) ∧
    (∀ e, w.classify = .error e →
      outcome.log =
        [{ level := .debug, text := "scheme_entry returned " ++ w.hex },
          { level := .error, text := "cannot decode " ++ w.hex ++ ": " ++ e.message }] ∧
      outcome.sink = sink ∧ outcome.result = .error (.decode e)) ∧
    ∀ v, w.classify = .ok v →
      outcome.log =
        [{ level := .debug, text := "scheme_entry returned " ++ w.hex },
          { level := .debug,
            text := "decoded " ++ w.hex ++ " as " ++ v.kind ++ " " ++ v.display }] ∧
      outcome.sink.held = sink.held ++ Sink.kept sink.room v.line ∧
      outcome.sink.flushes =
        (if Sink.Fits sink.room v.line.length then sink.flushes + 1 else sink.flushes) ∧
      (outcome.result = .ok v ↔
        Sink.Fits sink.room v.line.length ∧ sink.flushFails = false) ∧
      (¬ Sink.Fits sink.room v.line.length →
        ∃ fault, (sink.write v.line).1 = .error fault ∧ fault.message = "device full" ∧
          outcome.result = .error (.undelivered fault)) ∧
      (Sink.Fits sink.room v.line.length → sink.flushFails = true →
        ∃ fault, (sink.write v.line).2.flush.1 = .error fault ∧ fault.message = "cannot flush" ∧
          outcome.result = .error (.undelivered fault) ∧
          outcome.sink.held = sink.held ++ v.line) := by
  intro outcome
  have hlog : ∀ sink', (finish w sink').log = log w := fun sink' => rfl
  refine ⟨fun m _ _ entry => program_eq_map entry sink, run_program_counting w sink,
    rfl, fun sink' => (hlog sink').trans (hlog sink).symm, fun e h => ?_, fun v h => ?_⟩
  · obtain ⟨hresult, hsink⟩ := @finish_of_error sink w e h
    exact ⟨(hlog sink).trans (log_of_error h), hsink, hresult⟩
  · refine ⟨(hlog sink).trans (log_of_ok h), ?_⟩
    by_cases hfits : Sink.Fits sink.room v.line.length
    · obtain ⟨hresult, hsink⟩ := finish_of_fits h hfits
      have hkept : Sink.kept sink.room v.line = v.line := Sink.kept_eq_self hfits
      rw [hsink, hresult, hkept, if_pos hfits]
      refine ⟨rfl, rfl, ?_, fun hnot => absurd hfits hnot, fun _ hflush => ?_⟩
      · cases sink.flushFails <;> simp [hfits]
      · refine ⟨.notFlushed, ?_, rfl, if_pos hflush, rfl⟩
        exact if_pos hflush
    · obtain ⟨hresult, hsink⟩ := finish_of_not_fits h hfits
      rw [hsink, hresult, if_neg hfits]
      refine ⟨rfl, rfl, by simp [hfits], fun _ => ?_, fun hnot => absurd hnot hfits⟩
      exact ⟨.full, Sink.write_eq_full (mt Sink.write_eq_ok_iff_room.1 hfits), rfl, rfl⟩

/-- A line that takes the last room in a sink that cannot be flushed. -/
theorem program_accounting_not_flushed :
    let sink : Sink := { Sink.ofCapacity (some 3) with flushFails := true }
    let outcome := finish 0x6 sink
    let outcome' := finish (-4) sink
    outcome.log.length = 2 ∧ outcome'.log.length = 2 ∧
      outcome.result = .error (.decode (.reservedTag 0x6 .closure)) ∧ outcome.sink = sink ∧
      outcome'.result = .error (.undelivered .notFlushed) ∧
      outcome'.sink.held = Text.utf8 "-1\n" ∧ outcome'.sink.flushes = 1 := by
  intro sink outcome outcome'
  obtain ⟨-, -, hlog, -, hrefused, -⟩ := program_accounting 0x6 sink
  obtain ⟨-, -, hlog', -, -, hdecoded⟩ := program_accounting (-4) sink
  obtain ⟨-, hsink, hresult⟩ := hrefused (.reservedTag 0x6 .closure) rfl
  have hfits : Sink.Fits sink.room 3 := by decide
  obtain ⟨-, -, hflushes, -, -, hflush⟩ := hdecoded (.integer ⟨-1, by decide, by decide⟩) rfl
  obtain ⟨fault, hfault, -, hresult', hheld⟩ := hflush hfits rfl
  obtain rfl : Sink.Fault.notFlushed = fault := Except.error.inj hfault
  exact ⟨hlog, hlog', hresult, hsink, hresult', hheld, hflushes⟩

end Run
end TaggedWords

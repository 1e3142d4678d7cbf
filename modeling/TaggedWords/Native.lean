import TaggedWords.Report
import TaggedWords.Run

/-!
# The native process

A compiled program linked with its runtime.  It prints the value of the program and ends with
status 0, or reports on standard error why it could not and ends with status 1.  Arguments on the
command line are accepted and mean nothing.

The records of the log go to standard error too, in front of a report.  Which of them are shown, and
in what words, is not for the process to say but for the logger that it was started with.  One that
was told nothing shows errors and nothing else, and it can be switched off.

* `Logger` — what is shown of a record; `Logger.off` and `Logger.errors` are two of them.
* `Native.process` — what a process writes and how it ends, under a given logger.
-/

set_option autoImplicit false

namespace TaggedWords
namespace Native

/-! ## Loggers -/

/-- What a logger puts on standard error for a record: nothing, if the record is not to be shown. -/
abbrev Logger := Run.Record → String

namespace Logger

/-- The logger that is switched off. -/
def off : Logger :=
  fun _ => ""

/-- The logger that shows errors, in the given words, and nothing else. -/
def errors (words : Run.Record → String) : Logger :=
  fun record => if record.level = .error then words record else ""

/-- What a logger puts on standard error for all records of a log. -/
def shown (logger : Logger) (log : List Run.Record) : String :=
  String.join (log.map logger)

@[simp] theorem shown_nil (logger : Logger) : logger.shown [] = "" := rfl

@[simp] theorem shown_cons (logger : Logger) (record : Run.Record) (log : List Run.Record) :
    logger.shown (record :: log) = logger record ++ logger.shown log := by
  simp [shown]

theorem shown_off (log : List Run.Record) : off.shown log = "" := by
  induction log with
  | nil => rfl
  | cons record log ih => rw [shown_cons, ih, off, String.append_empty]

end Logger

/-! ## The process -/

/-- How a process ended. -/
structure Exit where
  /-- The exit status. -/
  status : UInt32
  /-- What it wrote to standard output. -/
  out : List UInt8
  /-- What it and its logger wrote to standard error. -/
  err : String
deriving DecidableEq, Repr

/-- The end of a process whose program came to the given outcome.  The log was written while the
program ran, and so it stands in front of the report. -/
def exit (logger : Logger) (outcome : Run.Outcome) : Exit :=
  let logged := logger.shown outcome.log
  match outcome.result with
  | .ok _ => { status := 0, out := outcome.sink.held, err := logged }
  | .error failure =>
    { status := 1, out := outcome.sink.held,
      err := logged ++ ("Error: " ++ Report.render failure) }

/-- Runs a program as a process of its own.  The logger is off unless another one is given. -/
def process {m : Type → Type} [Monad m] (entry : m Word) (_arguments : List String)
    (logger : Logger := Logger.off) : m Exit := do
  let outcome ← Run.program entry Sink.unlimited
  return exit logger outcome

end Native
end TaggedWords

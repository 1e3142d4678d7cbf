import TaggedWords.Tagging

/-!
# Running a program

A compiled program has one entry point, which returns a word.  Running it means: call the entry
once, decode the word, and print the value on a line.  Nothing is printed when the word does not
decode, and the sink is flushed when the whole line went into it.

* `Run.finish` — everything after the call, as a function of the word and the sink.
* `Run.program` — the run of a program whose entry point is an action of any kind.
* `Run.each` — one run after the other into the same sink, whatever becomes of each.
-/

set_option autoImplicit false

namespace TaggedWords
namespace Run

/-! ## The log -/

/-- How important a log record is. -/
inductive Level where
  | debug
  | error
deriving DecidableEq, Repr

/-- The name of a level in the log. -/
def Level.name : Level → String
  | debug => "DEBUG"
  | error => "ERROR"

/-- One entry of the log. -/
structure Record where
  level : Level
  text : String
deriving DecidableEq, Repr

/-- The part of the program that the records come from. -/
def logTarget : String := "pasquim::entry"

/-- What is logged of a run that returned the word `w`: the word, and what became of it. -/
def log (w : Word) : List Record :=
  [{ level := .debug, text := "scheme_entry returned " ++ w.hex },
    match w.classify with
    | .ok v =>
      { level := .debug, text := "decoded " ++ w.hex ++ " as " ++ v.kind ++ " " ++ v.display }
    | .error e => { level := .error, text := "cannot decode " ++ w.hex ++ ": " ++ e.message }]

/-! ## Runs -/

/-- What a run comes to. -/
structure Outcome where
  /-- The value, if the word decoded and the value was printed. -/
  result : Except Failure Value
  /-- The sink after the run. -/
  sink : Sink
  /-- What was logged, oldest first. -/
  log : List Record

/-- Puts the line of a value into a sink and flushes the sink. -/
def print (v : Value) (sink : Sink) : Except Sink.Fault Unit × Sink :=
  match sink.write v.line with
  | (.ok (), written) => written.flush
  | (.error fault, written) => (.error fault, written)

/-- The result of a run that returned the word `w`, and the sink after it. -/
def deliver (w : Word) (sink : Sink) : Except Failure Value × Sink :=
  match w.classify with
  | .error e => (.error (.decode e), sink)
  | .ok v =>
    match print v sink with
    | (.ok (), printed) => (.ok v, printed)
    | (.error fault, printed) => (.error (.undelivered fault), printed)

/-- The outcome of a run that returned the word `w`. -/
def finish (w : Word) (sink : Sink) : Outcome :=
  let (result, printed) := deliver w sink
  { result, sink := printed, log := log w }

/-- Calls the entry point once and prints the value that it returns. -/
def program {m : Type → Type} [Monad m] (entry : m Word) (sink : Sink) : m Outcome := do
  let w ← entry
  return finish w sink

/-- The outcomes of runs that return the given words, one after the other on the same sink. -/
def each (sink : Sink) : List Word → List Outcome
  | [] => []
  | w :: words =>
    let outcome := finish w sink
    outcome :: each outcome.sink words

end Run
end TaggedWords

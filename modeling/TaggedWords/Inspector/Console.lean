import TaggedWords.Inspector.Options
import TaggedWords.Report

/-!
# The two streams of the inspector

Answers go to standard output and reports of failures to standard error, each on lines of its own.
A failed answer does not stop those after it, but a stream that fails does.

* `Console.report` — writes one answer or report.
* `Console.reportAll` — writes one after the other, up to the first fault of a stream.
* `Options.runInputs` — writes the answers to the inputs of the command line.
-/

set_option autoImplicit false

namespace TaggedWords
namespace Inspector

/-- Standard output and standard error. -/
structure Console where
  /-- Where answers go. -/
  out : Sink
  /-- Where reports of failures go. -/
  err : Sink
deriving DecidableEq, Repr

namespace Console

/-- Two empty streams without a bound. -/
def unlimited : Console := { out := Sink.unlimited, err := Sink.unlimited }

/-- Writes an answer, or the report of why there is none. -/
def report (answer : Except Failure String) (console : Console) :
    Except Sink.Fault Unit × Console :=
  match answer with
  | .ok text =>
    let (result, out) := console.out.write (Text.utf8 (text ++ "\n"))
    (result, { console with out })
  | .error failure =>
    let (result, err) := console.err.write (Text.utf8 (Report.render failure))
    (result, { console with err })

/-- Writes answers in order until a stream fails. -/
def reportAll (answers : List (Except Failure String)) (console : Console) :
    Except Sink.Fault Unit × Console :=
  match answers with
  | [] => (.ok (), console)
  | answer :: rest =>
    match console.report answer with
    | (.ok (), reported) => reported.reportAll rest
    | (.error fault, reported) => (.error fault, reported)

end Console

/-- Writes the answers to the inputs of the command line. -/
def Options.runInputs (options : Options) (console : Console) :
    Except Sink.Fault Unit × Console :=
  console.reportAll options.answers

end Inspector
end TaggedWords

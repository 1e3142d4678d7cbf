import TaggedWords.Inspector.CommandLine
import TaggedWords.Inspector.Console
import TaggedWords.Inspector.History
import TaggedWords.Text.Backspace

/-!
# The inspector as a process

The process reads its command line, answers the inputs given there and, if a session was asked
for, answers the lines of standard input.  Backspaces in a line have their effect before the line
is looked at, and the process breaks down at a line where one of them cannot have it.  The lines of
a session go into the history, which lives in the home directory, when the session is over; what
was read before a breakdown is lost.

The process logs nothing that is an error, and records of less weight are not shown unless they are
asked for.  So the log has no part in what it writes to standard error.

* `Home` — what there is of a home directory.
* `sessionLines`, `sessionBreaksDown` — the lines of standard input as they were meant, up to the
  first that cannot be read, and whether there is one.
* `Inspector.process` — what a process writes, how it ends, and what it leaves at home.
-/

set_option autoImplicit false

namespace TaggedWords
namespace Inspector

/-! ## The home directory -/

/-- What there is of a home directory. -/
inductive Home where
  /-- A directory, with the history file in it if there is one. -/
  | directory (history : Option String)
  /-- The name of a directory that does not exist. -/
  | missing
  /-- No name at all. -/
  | unset
deriving DecidableEq, Repr

namespace Home

/-- The text of the history file. -/
def history? : Home → Option String
  | directory history => history
  | missing => none
  | unset => none

/-- The home after a session with the given lines.  Where there is no directory, nothing can be
kept, and that is no failure of the session. -/
def record (lines : List String) : Home → Home
  | directory history => directory (History.record history lines)
  | missing => missing
  | unset => unset

theorem record_nil (home : Home) : home.record [] = home := by
  cases home with
  | directory history => rw [record, History.record_nil]
  | missing => rfl
  | unset => rfl

end Home

/-! ## The process -/

/-- How a process ended. -/
structure Exit where
  /-- The exit status. -/
  status : UInt32
  /-- What it wrote to standard output. -/
  out : List UInt8
  /-- What it wrote to standard error; `none` if that ends in a text whose wording is not laid down,
  because the process refused its command line or broke down. -/
  err : Option (List UInt8)
  /-- The home that it left. -/
  home : Home
deriving DecidableEq, Repr

/-- The lines that are read of the given ones, with the effect of the backspaces in them: all of
them, or those before the first one that cannot be read. -/
def readLines : List String → List String
  | [] => []
  | line :: rest =>
    match Text.applyBackspaces? line with
    | some left => left :: readLines rest
    | none => []

/-- The lines of standard input that are read in a session. -/
def sessionLines (input : String) : List String :=
  readLines (Text.lines input)

/-- Whether a session breaks down at a line of standard input that cannot be read. -/
def sessionBreaksDown (input : String) : Bool :=
  (Text.lines input).any fun line => (Text.applyBackspaces? line).isNone

/-- Answers the lines of a session. -/
def Options.answerLines (options : Options) (lines : List String) (console : Console) :
    Except Sink.Fault Unit × Console :=
  console.reportAll (lines.map options.evalLine)

/-- The process that was given these options. -/
def Options.process (options : Options) (input : String) (home : Home) : Exit :=
  let answered := (options.runInputs Console.unlimited).2
  if options.repl then
    let lines := sessionLines input
    let console := (options.answerLines lines answered).2
    if sessionBreaksDown input then
      { status := 101, out := console.out.held, err := none, home }
    else
      { status := 0, out := console.out.held, err := some console.err.held,
        home := home.record lines }
  else { status := 0, out := answered.out.held, err := some answered.err.held, home }

/-- The process with the given command line, standard input and home. -/
def process (arguments : List String) (input : String) (home : Home) : Exit :=
  match CommandLine.read arguments with
  | .ok options => options.process input home
  | .error stop =>
    match stop.message with
    | some text => { status := stop.status, out := Text.utf8 text, err := some [], home }
    | none => { status := stop.status, out := [], err := none, home }

end Inspector
end TaggedWords

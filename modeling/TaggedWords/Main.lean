import TaggedWords.Inspector.Session

/-!
# The inspector at the command line

Reads what the process needs from the outside, and writes what it comes to.  Standard input and
the history file are read only when a session was asked for.
-/

set_option autoImplicit false

namespace TaggedWords
namespace Inspector

/-- The name of the history file in the home directory. -/
def historyName : String := ".pasquim.history"

/-- The contents of a file that may not exist. -/
def readFile? (path : String) : BaseIO (Option String) := do
  match ← (IO.FS.readFile path).toBaseIO with
  | .ok text => return some text
  | .error _ => return none

/-- Replaces the contents of a file if that is possible. -/
def writeFile (path text : String) : BaseIO Unit := do
  match ← (IO.FS.writeFile path text).toBaseIO with
  | .ok () => return ()
  | .error _ => return ()

/-- What stands on standard error for a text whose wording is not laid down. -/
def remark (status : UInt32) : String :=
  if status = 2 then "try --help\n" else "cannot read the line\n"

/-- Writes bytes to a stream. -/
def writeBytes (stream : IO.FS.Stream) (bytes : List UInt8) : IO Unit := do
  stream.write (ByteArray.mk bytes.toArray)
  stream.flush

/-- Whether the arguments ask for a session. -/
def wantsSession (arguments : List String) : Bool :=
  match CommandLine.read arguments with
  | .ok options => options.repl
  | .error _ => false

/-- Runs the process in the world. -/
def runMain (arguments : List String) : IO UInt32 := do
  let session := wantsSession arguments
  let path? := (← IO.getEnv "HOME").map fun home => home ++ "/" ++ historyName
  let home ← match path? with
    | none => pure Home.unset
    | some path => if session then Home.directory <$> readFile? path else pure (.directory none)
  let input ← if session then (← IO.getStdin).readToEnd else pure ""
  let exit := process arguments input home
  writeBytes (← IO.getStdout) exit.out
  writeBytes (← IO.getStderr) (exit.err.getD (Text.utf8 (remark exit.status)))
  if session then
    match path?, exit.home.history? with
    | some path, some text => if home.history? ≠ some text then writeFile path text
    | _, _ => pure ()
  return exit.status

end Inspector
end TaggedWords

/-- The inspector. -/
def main (arguments : List String) : IO UInt32 :=
  TaggedWords.Inspector.runMain arguments

import TaggedWords.Inspector.Options

/-!
# The command line of the inspector

Arguments are read from left to right, and the first problem or request for help ends the reading.

* `Flag`, `Opt` — the options there are, with their letters and names.
* `Argument.of` — what an argument is by its looks: a word, a cluster of letters after one hyphen,
  a name after two, or the two hyphens alone that end the options.
* `Draft` — what has been read so far.
* `CommandLine.read` — the options that a list of arguments denotes, or why reading stopped.

A hyphen alone is a word, and so is one that begins a number, so that negative words can be given
as they are.  The option that takes a literal takes it from its own argument when more follows
there, and otherwise takes the next argument whatever that looks like.
-/

set_option autoImplicit false

namespace TaggedWords
namespace Inspector

/-! ## The options -/

/-- The options that take no value. -/
inductive Flag where
  | repl
  | debug
  | help
  | version
deriving DecidableEq, Repr

/-- The options. -/
inductive Opt where
  /-- Takes a literal. -/
  | encode
  | flag (flag : Flag)
deriving DecidableEq, Repr

namespace Opt

/-- The option with the given letter. -/
def ofLetter? : Char → Option Opt
  | 'e' => some encode
  | 'r' => some (flag .repl)
  | 'd' => some (flag .debug)
  | 'h' => some (flag .help)
  | 'V' => some (flag .version)
  | _ => none

/-- The options by name. -/
def names : List (String × Opt) :=
  [("encode", encode), ("repl", flag .repl), ("debug", flag .debug), ("help", flag .help),
    ("version", flag .version)]

/-- The option with the given name, which must be written out in full. -/
def ofName? (name : List Char) : Option Opt :=
  (names.find? fun entry => entry.1.toList == name).map fun entry => entry.2

end Opt

/-! ## Why reading stops -/

/-- Why reading stopped before the end. -/
inductive Stop where
  /-- The help text was asked for. -/
  | helpWanted
  /-- The version was asked for. -/
  | versionWanted
  /-- There is no such option. -/
  | unknownArgument
  /-- An option was given twice. -/
  | repeatedOption
  /-- The option that takes a literal was given none. -/
  | missingValue
  /-- A flag was given a value. -/
  | unexpectedValue
deriving DecidableEq, Repr

/-- The help text. -/
def helpText : String :=
  "Runtime support for programs built by the pasquim scheme compiler\n" ++
  "\n" ++
  "Usage: pasquim-inspect [OPTIONS] [WORDS]...\n" ++
  "\n" ++
  "Arguments:\n" ++
  "  [WORDS]...  Words to decode, in decimal or with a 0x or 0b prefix\n" ++
  "\n" ++
  "Options:\n" ++
  "  -e, --encode <ENCODE>  Prints the tagged word for a literal such as 42, #\\A or #t\n" ++
  "  -r, --repl             Starts a repl session\n" ++
  "  -d, --debug            Shows the word and the value's type next to the printed value\n" ++
  "  -h, --help             Print help\n" ++
  "  -V, --version          Print version\n"

/-- The text that states the version. -/
def versionText : String := "pasquim 0.1.0\n"

namespace Stop

/-- The text that was asked for, if reading stopped on request. -/
def message : Stop → Option String
  | helpWanted => some helpText
  | versionWanted => some versionText
  | _ => none

/-- The exit status: 0 if reading stopped on request, 2 if the arguments are wrong. -/
def status (stop : Stop) : UInt32 :=
  if stop.message.isSome then 0 else 2

end Stop

/-! ## What arguments look like -/

/-- Whether the text is an exponent: its mark and at least one digit. -/
def isExponent : List Char → Bool
  | mark :: digits => (mark == 'e' || mark == 'E') && !digits.isEmpty && digits.all Char.isDigit
  | [] => false

/-- Whether the text is an unsigned number: at least one digit, then perhaps a point with digits
or nothing after it, then perhaps an exponent. -/
def isNumber (cs : List Char) : Bool :=
  let fraction :=
    match cs.dropWhile Char.isDigit with
    | '.' :: rest => rest.dropWhile Char.isDigit
    | rest => rest
  cs.head?.any Char.isDigit && (fraction.isEmpty || isExponent fraction)

/-- What an argument is by its looks. -/
inductive Argument where
  /-- Two hyphens alone: all that follows is words. -/
  | terminator
  /-- What follows two hyphens. -/
  | named (body : List Char)
  /-- What follows one hyphen. -/
  | letters (cluster : List Char)
  | word
deriving DecidableEq, Repr

/-- What an argument is by its looks. -/
def Argument.of : List Char → Argument
  | ['-', '-'] => .terminator
  | '-' :: '-' :: body => .named body
  | ['-'] => .word
  | '-' :: cluster => if isNumber cluster then .word else .letters cluster
  | _ => .word

/-! ## Reading -/

/-- What has been read so far.  A literal that stands in an argument of its own is pending until
the next argument has been recognised, and only then counts as given. -/
structure Draft where
  options : Options := {}
  pending : Option String := none
deriving DecidableEq, Repr

namespace Draft

/-- Sets the literal to encode, which must not have been given before. -/
def setEncode (draft : Draft) (literal : String) : Except Stop Draft :=
  if draft.options.encode.isSome then .error .repeatedOption
  else .ok { draft with options := { draft.options with encode := some literal } }

/-- Counts the pending literal as given. -/
def settle (draft : Draft) : Except Stop Draft :=
  match draft.pending with
  | none => .ok draft
  | some literal => { draft with pending := none }.setEncode literal

/-- Counts a literal as given at once. -/
def attach (draft : Draft) (literal : String) : Except Stop Draft := do
  let settled ← draft.settle
  settled.setEncode literal

/-- Adds words behind those that were given before. -/
def addWords (draft : Draft) (words : List String) : Except Stop Draft := do
  let settled ← draft.settle
  let given := settled.options.words
  return { settled with options := { settled.options with words := given ++ words } }

/-- Raises a flag, which must not have been given before. -/
def raise (draft : Draft) (flag : Flag) : Except Stop Draft := do
  let settled ← draft.settle
  match flag with
  | .repl =>
    if settled.options.repl then throw .repeatedOption
    else return { settled with options := { settled.options with repl := true } }
  | .debug =>
    if settled.options.debug then throw .repeatedOption
    else return { settled with options := { settled.options with debug := true } }
  | .help => throw .helpWanted
  | .version => throw .versionWanted

end Draft

/-- Where reading stands after an argument. -/
inductive Progress where
  /-- The argument is done with. -/
  | complete (draft : Draft)
  /-- The next argument is the literal to encode. -/
  | awaitsLiteral (draft : Draft)
  /-- All arguments that follow are words. -/
  | onlyWords (draft : Draft)
deriving DecidableEq, Repr

/-- Reads the letters of a cluster. -/
def readLetters (draft : Draft) : List Char → Except Stop Progress
  | [] => .ok (.complete draft)
  | letter :: rest =>
    match Opt.ofLetter? letter with
    | none => .error .unknownArgument
    | some (.flag flag) => do
      let raised ← draft.raise flag
      readLetters raised rest
    | some .encode =>
      match rest with
      | [] => draft.settle.map .awaitsLiteral
      | '=' :: literal => (draft.attach (String.ofList literal)).map .complete
      | literal => (draft.attach (String.ofList literal)).map .complete

/-- The value after the first equals sign, if there is one. -/
def attachedValue? (body : List Char) : Option (List Char) :=
  match body.dropWhile fun c => c != '=' with
  | [] => none
  | _ :: value => some value

/-- Reads a name and the value that may be attached to it. -/
def readNamed (draft : Draft) (body : List Char) : Except Stop Progress :=
  match Opt.ofName? (body.takeWhile fun c => c != '='), attachedValue? body with
  | none, _ => .error .unknownArgument
  | some (.flag flag), none => (draft.raise flag).map .complete
  | some (.flag _), some _ => .error .unexpectedValue
  | some .encode, none => draft.settle.map .awaitsLiteral
  | some .encode, some literal => (draft.attach (String.ofList literal)).map .complete

/-- Reads one argument. -/
def readArgument (draft : Draft) (argument : String) : Except Stop Progress :=
  match Argument.of argument.toList with
  | .terminator => .ok (.onlyWords draft)
  | .named body => readNamed draft body
  | .letters cluster => readLetters draft cluster
  | .word => (draft.addWords [argument]).map .complete

/-- Reads the remaining arguments. -/
def readFrom (draft : Draft) : List String → Except Stop Draft
  | [] => draft.settle
  | argument :: rest =>
    match readArgument draft argument with
    | .error stop => .error stop
    | .ok (.complete next) => readFrom next rest
    | .ok (.onlyWords next) => next.addWords rest
    | .ok (.awaitsLiteral next) =>
      match rest with
      | [] => .error .missingValue
      | literal :: rest => readFrom { next with pending := some literal } rest

/-- The options that a list of arguments denotes. -/
def CommandLine.read (arguments : List String) : Except Stop Options :=
  (readFrom {} arguments).map Draft.options

end Inspector
end TaggedWords

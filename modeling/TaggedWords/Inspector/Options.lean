import TaggedWords.Spelling.Literal
import TaggedWords.Spelling.Word
import TaggedWords.Tagging

/-!
# What the inspector answers

The inspector shows which value a word holds and which word holds a value.

* `Options` — what the command line may ask for.
* `Options.decode`, `Options.encode` — the two answers.  With `debug` they have three fields: the
  word in hexadecimal, the kind of the value, and the answer proper, which is the printed value
  for `decode` and the word in decimal for `encode`.
* `Options.evalLine` — the answer to a line of a session.
* `Options.answers` — the answers to the inputs of the command line.
-/

set_option autoImplicit false

namespace TaggedWords
namespace Inspector

/-- What the command line may ask for. -/
structure Options where
  /-- Words to decode. -/
  words : List String := []
  /-- A literal to encode. -/
  encode : Option String := none
  /-- Whether to start a session. -/
  repl : Bool := false
  /-- Whether answers show the word and the kind of the value. -/
  debug : Bool := false
deriving DecidableEq, Repr

namespace Options

/-- The value that a text spells as a word, in its printed form. -/
def decodeText (options : Options) (text : String) : Except Failure String := do
  let w ← Word.ofText text
  let v ← w.classify.mapError .decode
  return if options.debug then w.hex ++ " " ++ v.kind ++ " " ++ v.display else v.display

/-- The word of the value that a text spells as a literal. -/
def encodeText (options : Options) (text : String) : Except Failure String := do
  let v ← Value.ofLiteral text
  let w := v.word
  return if options.debug then w.hex ++ " " ++ v.kind ++ " " ++ w.decimal else w.hex

/-- The word that asks for a literal to be encoded. -/
def encodeCommand : List Char := ":encode".toList

/-- The answer to a line of a session: a literal to encode after `:encode` and a blank, or a word
to decode.  A blank line gets an empty answer.  Blanks at the end of the line are left alone, as
they may be the character that a literal names. -/
def evalLine (options : Options) (line : String) : Except Failure String :=
  let request := Text.trimStart line.toList
  match Text.splitAtBlank? request with
  | some (command, literal) =>
    if command = encodeCommand then options.encodeText (String.ofList literal)
    else options.decodeText (String.ofList request)
  | none => if request.isEmpty then .ok "" else options.decodeText (String.ofList request)

/-- The answers to the inputs of the command line: the literal, then the words in order. -/
def answers (options : Options) : List (Except Failure String) :=
  options.encode.toList.map options.encodeText ++ options.words.map options.decodeText

end Options
end Inspector
end TaggedWords

import TaggedWords.Failure

/-!
# Reports

The account of a failure that people read: two lines for a terminal, coloured by escape sequences.
The first gives the code and the message, the second the advice, if there is any.

Advice is filled to the width of a terminal.  Words go on the line as long as they fit, and a line
that is begun anew is indented.  Messages quote what they are about and are never broken.

* `Report.fill` — greedy filling.
* `Report.render` — the report of a failure, with a line feed after each line.
-/

set_option autoImplicit false

namespace TaggedWords
namespace Report

/-! ## Colours -/

/-- The text in the given colour, back to plain at its end. -/
def paint (colour text : String) : String :=
  "\x1b[" ++ colour ++ "m" ++ text ++ "\x1b[0m"

/-! ## Filling -/

/-- The room for a paragraph. -/
structure Margins where
  /-- How many columns a line has. -/
  width : Nat
  /-- How many blanks begin each line but the first. -/
  indent : Nat
deriving DecidableEq, Repr

/-- The margins of advice. -/
def adviceMargins : Margins := { width := 80, indent := 10 }

/-- Continues a line that has reached `column`: each word goes on the line after a space if it
ends within the width, and otherwise begins a new line. -/
def fill (margins : Margins) (column : Nat) : List (List Char) → List Char
  | [] => []
  | word :: words =>
    let reached := column + 1 + word.length
    if reached ≤ margins.width then ' ' :: word ++ fill margins reached words
    else
      '\n' :: List.replicate margins.indent ' ' ++ word ++
        fill margins (margins.indent + word.length) words

/-- A paragraph whose first line begins at `column`.  Its words are parted by single spaces. -/
def paragraph (margins : Margins) (column : Nat) (text : String) : String :=
  match text.toList.splitOn ' ' with
  | [] => ""
  | word :: words => String.ofList (word ++ fill margins (column + word.length) words)

/-! ## Reports -/

/-- The columns that stand before advice. -/
def adviceColumn : Nat := "  =  help: ".length

/-- The line of advice. -/
def advice : Option String → String
  | none => "  "
  | some help =>
    "  " ++ paint "2" "=" ++ paint "36" "  help: " ++ paragraph adviceMargins adviceColumn help

/-- The report of a failure. -/
def render (failure : Failure) : String :=
  "  " ++ paint "91;1" "Failure" ++ paint "91;1" ("[" ++ failure.code ++ "]: ") ++ " " ++
    failure.message ++ "\n" ++ advice failure.help ++ "\n"

end Report
end TaggedWords

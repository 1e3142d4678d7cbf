import TaggedWords.Text.Blank
import TaggedWords.Value

/-!
# How values are spelled

A literal is `#t` or `#f`, a decimal integer, or `#\` with a character after it.  The character is
written as itself or by its name.

White space around a literal means nothing, with one exception.  A blank that follows `#\` with
nothing but blanks after it is the character, because that is how the character is printed.

* `charNames` — the characters that have names.
* `spelledChar?` — the character that stands after `#\`.
* `Value.ofLiteral` — reads a literal.
-/

set_option autoImplicit false

namespace TaggedWords

/-! ## Characters -/

/-- The names of characters, with their codes. -/
def charNames : List (String × UInt8) :=
  [("alarm", 0x07), ("backspace", 0x08), ("delete", 0x7F), ("escape", 0x1B), ("newline", 0x0A),
    ("null", 0x00), ("nul", 0x00), ("return", 0x0D), ("space", 0x20), ("tab", 0x09)]

/-- The code of the character with the given name. -/
def namedChar? (name : List Char) : Option UInt8 :=
  (charNames.find? fun entry => entry.1.toList == name).map fun entry => entry.2

/-- The code of the character that `rest`, the text after `#\`, stands for. -/
def spelledChar? (rest : List Char) : Option UInt8 :=
  let name := Text.trimEnd rest
  match namedChar? name with
  | some code => some code
  | none =>
    match name with
    | [] => rest.head?.bind Text.latin1?
    | [c] => Text.latin1? c
    | _ => none

/-! ## Literals -/

/-- Reads a literal.  An integer that a word cannot hold is no literal at all; one that a word can
hold and a fixnum cannot is out of range. -/
def Value.ofLiteral (text : String) : Except Failure Value :=
  let start := Text.trimStart text.toList
  let trimmed := Text.trimEnd start
  let invalid : Except Failure Value := .error (.invalidLiteral (String.ofList trimmed))
  if trimmed = ['#', 't'] then .ok (.boolean true)
  else if trimmed = ['#', 'f'] then .ok (.boolean false)
  else
    match start with
    | '#' :: '\\' :: rest =>
      match spelledChar? rest with
      | some code => .ok (.char code)
      | none => invalid
    | _ =>
      match (Text.integer? trimmed).bind Word.ofInt? with
      | some w => (Fixnum.ofInt w.toInt).map .integer
      | none => invalid

end TaggedWords

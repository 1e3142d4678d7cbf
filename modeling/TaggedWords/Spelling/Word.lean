import TaggedWords.Failure
import TaggedWords.Text.Blank

/-!
# How words are spelled

A word is spelled as a signed decimal number, or as a bit pattern in hexadecimal or binary after a
prefix.  Underscores may stand anywhere and white space at the ends; neither means anything.

* `Word.ofSpelling?` — the word that a bare spelling stands for.
* `Word.ofText` — the same for a text with underscores and white space.  A refusal quotes the text
  with its underscores and without the white space.
-/

set_option autoImplicit false

namespace TaggedWords
namespace Word

/-- The word that a spelling without underscores and white space stands for. -/
def ofSpelling? (spelling : List Char) : Option Word :=
  match spelling with
  | '0' :: 'x' :: digits => (Text.unsigned? 16 digits).bind ofPattern?
  | '0' :: 'X' :: digits => (Text.unsigned? 16 digits).bind ofPattern?
  | '0' :: 'b' :: digits => (Text.unsigned? 2 digits).bind ofPattern?
  | '0' :: 'B' :: digits => (Text.unsigned? 2 digits).bind ofPattern?
  | digits => (Text.integer? digits).bind ofInt?

/-- A text without its underscores. -/
def withoutUnderscores (cs : List Char) : List Char :=
  cs.filter fun c => c != '_'

/-- Reads a word. -/
def ofText (text : String) : Except Failure Word :=
  let trimmed := Text.trim text.toList
  match ofSpelling? (withoutUnderscores trimmed) with
  | some w => .ok w
  | none => .error (.invalidWord (String.ofList trimmed))

end Word
end TaggedWords

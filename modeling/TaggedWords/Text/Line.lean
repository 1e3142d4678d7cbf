/-!
# Lines

A line ends at a line feed, and a carriage return that stands right before the line feed belongs
to the ending.  What follows the last line feed is a line too unless it is empty, and as it has no
ending it keeps all of its characters.
-/

set_option autoImplicit false

namespace TaggedWords
namespace Text

/-- A line as its reversed characters, without the carriage return of its ending. -/
def endedLine (reversed : List Char) : List Char :=
  match reversed with
  | '\r' :: cs => cs.reverse
  | cs => cs.reverse

/-- The lines of a text whose first line has begun with the characters `reversed`, the newest of
them first. -/
def linesFrom (reversed : List Char) : List Char → List (List Char)
  | [] => if reversed.isEmpty then [] else [reversed.reverse]
  | c :: cs =>
    if c = '\n' then endedLine reversed :: linesFrom [] cs else linesFrom (c :: reversed) cs

/-- A line that has an ending is read off whole, and the lines after it do not depend on it. -/
theorem linesFrom_append_newline {line : List Char} (h : '\n' ∉ line)
    (reversed cs : List Char) :
    linesFrom reversed (line ++ '\n' :: cs) =
      endedLine (line.reverse ++ reversed) :: linesFrom [] cs := by
  induction line generalizing reversed with
  | nil => rfl
  | cons c line ih =>
    rw [List.mem_cons, not_or] at h
    rw [List.cons_append, linesFrom, if_neg (Ne.symm h.1), ih h.2]
    simp

/-- The lines of a text, without their endings. -/
def lines (text : String) : List String :=
  (linesFrom [] text.toList).map String.ofList

end Text
end TaggedWords

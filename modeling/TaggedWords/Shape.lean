import TaggedWords.Tagging

/-!
# The eight tests

A word passes at most one of eight tests: those of the three immediate layouts and those of the
five kinds of heap objects.  `Word.classify` happens to try them in one order; this file has them
as a table that can be put into any.

* `Shape` — what a word can be recognised as, with its test and what it is then taken for.
* `Shape.classifyInOrder` — takes a word for the first shape in a list that it has.
* `tests_fit`, `tests_disjoint` — no tag is wider than its mask, and no two tests overlap.  A new
  tag that breaks either of them makes the build fail here.
-/

set_option autoImplicit false

namespace TaggedWords

/-- What a word can be recognised as. -/
inductive Shape where
  | fixnum
  | char
  | boolean
  | heap (kind : HeapKind)
deriving DecidableEq, Repr

namespace Shape

/-- How a word of this shape is recognised. -/
def test : Shape → TagTest
  | fixnum => Layout.fixnum.toTagTest
  | char => Layout.char.toTagTest
  | boolean => Layout.boolean.toTagTest
  | heap kind => kind.test

/-- What a word of this shape is taken for. -/
def reading (w : Word) : Shape → Except DecodeError Value
  | fixnum => .ok (.integer w.fixnum)
  | char => .ok (.char w.charCode)
  | boolean => .ok (.boolean w.truth)
  | heap kind => .error (.reservedTag w kind)

/-- All shapes. -/
def all : List Shape :=
  [fixnum, char, boolean] ++ HeapKind.all.map heap

/-- Takes a word for the first shape in the list that it has. -/
def classifyInOrder (shapes : List Shape) (w : Word) : Except DecodeError Value :=
  match shapes.find? fun shape => shape.test.passes w with
  | some shape => shape.reading w
  | none => .error (.unknownTag w)

theorem mem_all (shape : Shape) : shape ∈ all := by
  cases shape with
  | fixnum => decide
  | char => decide
  | boolean => decide
  | heap kind => exact List.mem_append_right _ (List.mem_map_of_mem kind.mem_all)

theorem tests_fit : ∀ shape ∈ all, shape.test.fits = true := by
  decide

theorem tests_disjoint : all.Pairwise fun a b => a.test.disjoint b.test = true := by
  decide

end Shape
end TaggedWords

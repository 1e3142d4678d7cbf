import TaggedWords.TagTest

/-!
# The layout of words

Which bits of a word say what the word holds.  The code generator lays words out by the same
table.

| kind    | mask          | tag          | payload                                 |
| ------- | ------------- | ------------ | --------------------------------------- |
| integer | low two bits  | `00`         | the other bits, as a signed number      |
| char    | low byte      | `0000 0111`  | the next byte                           |
| boolean | low byte      | `0000 1111`  | the other bits, of which one is enough  |

* `Layout.fixnum`, `Layout.char`, `Layout.boolean` — the immediate values: how each is recognised
  and where its payload begins.
* `HeapKind` — the objects that live on the heap.  Their addresses are multiples of eight, so the
  low three bits are free to carry a tag.  Such a word is only recognised, never followed.
-/

set_option autoImplicit false

namespace TaggedWords

/-! ## Immediate values -/

/-- How a kind of immediate value is stored in a word. -/
structure Layout extends TagTest where
  /-- How many bits lie below the payload. -/
  shift : Nat
deriving DecidableEq, Repr

namespace Layout

/-- Integers take all bits but the low two. -/
def fixnum : Layout := { mask := 0b11, tag := 0b00, shift := 2 }

/-- Characters take the byte above the tag. -/
def char : Layout := { mask := 0xFF, tag := 0b0000_0111, shift := 8 }

/-- Booleans take the bits above the tag. -/
def boolean : Layout := { mask := 0xFF, tag := 0b0000_1111, shift := 8 }

end Layout

/-! ## Heap objects -/

/-- The kinds of objects that live on the heap. -/
inductive HeapKind where
  | pair
  | vector
  | string
  | symbol
  | closure
deriving DecidableEq, Repr

namespace HeapKind

/-- The bits of an address that carry a tag. -/
def pointerMask : Word := 0b111

/-- The tag that a pointer to such an object carries. -/
def tag : HeapKind → Word
  | pair => 0b001
  | vector => 0b010
  | string => 0b011
  | symbol => 0b101
  | closure => 0b110

/-- The name of the kind in messages. -/
def name : HeapKind → String
  | pair => "pair"
  | vector => "vector"
  | string => "string"
  | symbol => "symbol"
  | closure => "closure"

/-- All kinds, by increasing tag. -/
def all : List HeapKind := [pair, vector, string, symbol, closure]

/-- The test that a word points to such an object. -/
def test (kind : HeapKind) : TagTest := { mask := pointerMask, tag := kind.tag }

/-- The kind of object that the word points to. -/
def ofWord? (w : Word) : Option HeapKind :=
  all.find? fun kind => kind.test.passes w

theorem mem_all (kind : HeapKind) : kind ∈ all := by
  cases kind <;> decide

end HeapKind
end TaggedWords

import TaggedWords.Proofs.TagTest
import TaggedWords.Proofs.Tagging
import TaggedWords.Shape

/-!
# The order of the eight tests

`Word.classify` tries the eight tests one after the other.  It would answer the same if it tried
them in any other order, because no word passes two of them, and a word that was made from a value
passes the test for values of that kind and nothing else.

* `classifyInOrder_all` — classifying is trying the eight tests in the order of their table.
* `classify_of_passes`, `exists_passes_of_classify` — one test decides about a word, and a word
  that holds a value passes one.
* `passes_word_iff` — the test that the word of a value passes.
* `classify_independent_of_order` — any order gives the same answer.
-/

set_option autoImplicit false

namespace TaggedWords

/-- The shape of the words that hold the value. -/
def Value.shape : Value → Shape
  | integer _ => .fixnum
  | char _ => .char
  | boolean _ => .boolean

namespace Shape

variable {w : Word} {shape : Shape}

/-! ## One order -/

theorem find?_map_heap (w : Word) :
    (HeapKind.all.map heap).find? (fun shape => shape.test.passes w) =
      (HeapKind.ofWord? w).map heap := by
  rw [List.find?_map]
  rfl

/-- **Classifying is trying the eight tests in one order.** -/
theorem classifyInOrder_all (w : Word) : classifyInOrder all w = w.classify := by
  rw [classifyInOrder, Word.classify, all, List.find?_append, find?_map_heap]
  cases hfixnum : Layout.fixnum.passes w with
  | true => simp [test, hfixnum, reading]
  | false =>
    cases hchar : Layout.char.passes w with
    | true => simp [test, hfixnum, hchar, reading]
    | false =>
      cases hboolean : Layout.boolean.passes w with
      | true => simp [test, hfixnum, hchar, hboolean, reading]
      | false => cases hheap : HeapKind.ofWord? w <;> simp [test, hfixnum, hchar, hboolean, reading]

/-! ## One test -/

/-- **No word passes two of the tests.** -/
theorem eq_of_passes {shape' : Shape} (h : shape.test.passes w = true)
    (h' : shape'.test.passes w = true) : shape = shape' :=
  TagTest.eq_of_passes tests_disjoint shape.mem_all shape'.mem_all h h'

/-- The test that a word passes decides what it is taken for. -/
theorem classify_of_passes (h : shape.test.passes w = true) : w.classify = shape.reading w := by
  rw [← classifyInOrder_all, classifyInOrder]
  cases hfirst : all.find? fun shape => shape.test.passes w with
  | none => exact absurd h (List.find?_eq_none.1 hfirst shape shape.mem_all)
  | some first =>
    have hpasses : first.test.passes w = true := by simpa using List.find?_some hfirst
    rw [eq_of_passes h hpasses]

/-- A word that passes none of the tests has no known tag. -/
theorem classify_of_not_passes (h : ∀ shape : Shape, shape.test.passes w = false) :
    w.classify = .error (.unknownTag w) := by
  have hfirst : (all.find? fun shape => shape.test.passes w) = none :=
    List.find?_eq_none.2 fun shape _ => by simp [h shape]
  rw [← classifyInOrder_all, classifyInOrder, hfirst]

/-- A word that holds a value passes one of the tests. -/
theorem exists_passes_of_classify {v : Value} (h : w.classify = .ok v) :
    ∃ shape : Shape, shape.test.passes w = true ∧ shape.reading w = .ok v := by
  rw [← classifyInOrder_all, classifyInOrder] at h
  cases hfirst : all.find? fun shape => shape.test.passes w with
  | none =>
    rw [hfirst] at h
    cases h
  | some shape =>
    rw [hfirst] at h
    exact ⟨shape, by simpa using List.find?_some hfirst, h⟩

/-- A shape is read as values of its own kind. -/
theorem shape_of_reading {v : Value} (h : shape.reading w = .ok v) : shape = v.shape := by
  cases shape with
  | heap kind => cases h
  | fixnum | char | boolean =>
    obtain rfl := Except.ok.inj h
    rfl

/-- **The words that hold a value** are those of its kind that are read as it. -/
theorem classify_eq_ok_iff {v : Value} :
    w.classify = .ok v ↔ v.shape.test.passes w = true ∧ v.shape.reading w = .ok v := by
  constructor
  · intro h
    obtain ⟨shape, hpasses, hreading⟩ := exists_passes_of_classify h
    rw [← shape_of_reading hreading]
    exact ⟨hpasses, hreading⟩
  · rintro ⟨hpasses, hreading⟩
    rw [classify_of_passes hpasses, hreading]

/-- **The word of a value passes the test for its kind and no other.** -/
theorem passes_word_iff (v : Value) : shape.test.passes v.word = true ↔ shape = v.shape := by
  constructor
  · intro h
    exact shape_of_reading ((classify_of_passes h).symm.trans v.classify_word)
  · rintro rfl
    exact (classify_eq_ok_iff.1 v.classify_word).1

/-! ## Any order -/

/-- **Classifying does not depend on the order of the tests.**  Whatever order the eight tests are
tried in, the first one that a word passes gives the value, or the kind of heap object, that
`Word.classify` answers, and if there is none the answer is that the word has no known tag.  No
word passes two tests, and the word of a value passes the test for the kind of the value only. -/
theorem classify_independent_of_order {order : List Shape} (horder : order.Perm all) (w : Word) :
    order.length = 8 ∧
    classifyInOrder order w = w.classify ∧
    (∀ a b : Shape, a.test.passes w = true → b.test.passes w = true → a = b) ∧
    ∀ (v : Value) (shape : Shape), shape.test.passes v.word = true ↔ shape = v.shape := by
  refine ⟨horder.length_eq, ?_, fun a b => eq_of_passes, fun v shape => passes_word_iff v⟩
  have hfirst : (order.find? fun shape => shape.test.passes w) =
      all.find? fun shape => shape.test.passes w :=
    TagTest.first?_eq_of_perm tests_disjoint horder w
  rw [← classifyInOrder_all, classifyInOrder, classifyInOrder, hfirst]

/-- The tests from last to first, on a negative word that points to a closure. -/
theorem classify_independent_of_order_reversed :
    all.reverse.Perm all ∧
      classifyInOrder all.reverse (-2) = .error (.reservedTag (-2) .closure) ∧
      (∀ shape : Shape, shape.test.passes (-2) = true → shape = heap .closure) ∧
      (heap .closure).test.passes (Value.boolean true).word = false := by
  have horder : all.reverse.Perm all := List.reverse_perm all
  obtain ⟨-, hanswer, hone, hvalue⟩ := classify_independent_of_order horder (-2)
  refine ⟨horder, hanswer, fun shape hshape => hone shape (heap .closure) hshape rfl, ?_⟩
  rw [← Bool.not_eq_true, hvalue]
  exact Shape.noConfusion

end Shape
end TaggedWords

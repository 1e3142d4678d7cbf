import TaggedWords.Word

/-!
# Tag tests

A tag test looks at the bits of a word that its mask covers and compares them with a tag.  Every
kind of thing that a word can hold is recognised by one such test.

* `TagTest.passes` — the test itself.
* `TagTest.fits` — the tag has no bit outside the mask.  A test that does not fit never passes.
* `TagTest.disjoint` — the tags disagree on a bit that both masks cover, so that no word passes
  both tests.  A table of pairwise disjoint tests may be tried in any order.
-/

set_option autoImplicit false

namespace TaggedWords

/-- A mask and the value that the masked bits of a word must have. -/
structure TagTest where
  /-- The bits that are looked at. -/
  mask : Word
  /-- The value that they must have. -/
  tag : Word
deriving DecidableEq, Repr

namespace TagTest

/-- Whether the masked bits of the word are the tag. -/
def passes (test : TagTest) (w : Word) : Bool :=
  w &&& test.mask == test.tag

/-- Whether the tag lies within the mask. -/
def fits (test : TagTest) : Bool :=
  test.tag &&& ~~~test.mask == 0

/-- Whether the two tags disagree on some bit that both masks cover. -/
def disjoint (a b : TagTest) : Bool :=
  let common := a.mask &&& b.mask
  a.tag &&& common != b.tag &&& common

theorem passes_iff {test : TagTest} {w : Word} :
    test.passes w = true ↔ w &&& test.mask = test.tag := by
  simp [passes]

/-- **Disjoint tests exclude each other.**  A word that passes both has the bits that both masks
cover in common with both tags, so that the tags agree there. -/
theorem not_passes_of_disjoint {a b : TagTest} (h : a.disjoint b = true) {w : Word}
    (ha : a.passes w = true) : b.passes w = false := by
  rw [passes_iff] at ha
  rw [← Bool.not_eq_true, passes_iff]
  intro hb
  have hcommon : a.tag &&& (a.mask &&& b.mask) = b.tag &&& (a.mask &&& b.mask) := by
    rw [← ha, ← hb, BitVec.and_assoc, BitVec.and_assoc, ← BitVec.and_assoc a.mask,
      BitVec.and_self, BitVec.and_comm a.mask, ← BitVec.and_assoc b.mask, BitVec.and_self]
  simp [disjoint, hcommon] at h

end TagTest
end TaggedWords

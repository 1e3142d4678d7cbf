import Mathlib.Data.List.Find
import Mathlib.Data.List.Nodup
import Mathlib.Data.List.Pairwise
import TaggedWords.TagTest

/-!
# Tables of tag tests

`TagTest.disjoint` compares two tags on the bits that both masks cover.  For tests that fit their
masks that is the whole truth about them: if the tags agree there, the bits of both tags together
are a word that passes both tests.

A table of tests is tried from one end, and the first test that passes decides.  Which end does not
matter if and only if the tests of the table are disjoint.

* `passes_both` — what the two tags have to do with a word that passes both tests.
* `first?` — the first entry of a table that a word passes.
* `pairwise_disjoint_iff_first?` — disjoint tables are those that may be put into any order.
* `disjoint_decides_order` — the same with the words and the orders written out, for any table.
-/

set_option autoImplicit false

namespace TaggedWords
namespace TagTest

/-! ## Two tests -/

theorem fits_iff {test : TagTest} : test.fits = true ↔ test.tag &&& ~~~test.mask = 0 := by
  rw [fits, beq_iff_eq]

theorem disjoint_eq_false_iff {a b : TagTest} :
    a.disjoint b = false ↔ a.tag &&& (a.mask &&& b.mask) = b.tag &&& (a.mask &&& b.mask) := by
  simp [disjoint]

theorem disjoint_comm (a b : TagTest) : a.disjoint b = b.disjoint a := by
  simp only [disjoint, BitVec.and_comm b.mask]
  exact bne_comm

/-- The bits of a tag lie within the mask of a test that fits. -/
theorem mask_of_tag {test : TagTest} (h : test.fits = true) {i : Nat} (hi : i < 64)
    (hbit : test.tag[i] = true) : test.mask[i] = true := by
  have hzero := congrArg (fun w : Word => w[i]) (fits_iff.1 h)
  simpa [hbit] using hzero

/-- Of two tests that agree on their common bits, the first passes the bits of both tags. -/
theorem passes_union {a b : TagTest} (ha : a.fits = true) (hb : b.fits = true)
    (h : a.disjoint b = false) : a.passes (a.tag ||| b.tag) = true := by
  rw [passes_iff]
  ext i hi
  have hagree := congrArg (fun w : Word => w[i]) (disjoint_eq_false_iff.1 h)
  have hmask := mask_of_tag ha hi
  have hmask' := mask_of_tag hb hi
  simp only [BitVec.getElem_and, BitVec.getElem_or] at hagree ⊢
  -- Only a bit of the other tag could be too much, and there the tags agree.
  cases htag : a.tag[i] with
  | true => simp [hmask htag]
  | false =>
    cases htag' : b.tag[i] with
    | false => rfl
    | true => simpa [htag, htag', hmask' htag'] using hagree

/-- **Tests that overlap are passed by a common word.** -/
theorem exists_passes_both {a b : TagTest} (ha : a.fits = true) (hb : b.fits = true)
    (h : a.disjoint b = false) : ∃ w, a.passes w = true ∧ b.passes w = true := by
  refine ⟨a.tag ||| b.tag, passes_union ha hb h, ?_⟩
  rw [BitVec.or_comm]
  exact passes_union hb ha (by rwa [disjoint_comm])

/-! ## Tables -/

section Tables

universe u

variable {ι : Type u} {test : ι → TagTest} {entries order : List ι}

/-- The first entry whose test the word passes. -/
def first? (test : ι → TagTest) (entries : List ι) (w : Word) : Option ι :=
  entries.find? fun i => (test i).passes w

/-- Of the entries of a disjoint table, a word passes one at most. -/
theorem eq_of_passes (h : entries.Pairwise fun i j => (test i).disjoint (test j) = true) {w : Word}
    {i j : ι} (hi : i ∈ entries) (hj : j ∈ entries) (hiw : (test i).passes w = true)
    (hjw : (test j).passes w = true) : i = j := by
  have hsymm : Std.Symm fun i j => (test i).disjoint (test j) = true :=
    ⟨fun i j hij => by rwa [disjoint_comm]⟩
  by_contra hne
  have hnot := not_passes_of_disjoint (h.forall hi hj hne) hiw
  rw [hjw] at hnot
  cases hnot

/-- **A disjoint table may be tried in any order.** -/
theorem first?_eq_of_perm (h : entries.Pairwise fun i j => (test i).disjoint (test j) = true)
    (hperm : order.Perm entries) (w : Word) : first? test order w = first? test entries w := by
  refine List.find?_eq_find?_of_perm hperm ?_
  rintro i ⟨hi, hiw⟩ j ⟨hj, hjw⟩
  exact eq_of_passes h (hperm.subset hi) (hperm.subset hj) hiw hjw

/-- An entry may be put in front, and then it is the first one that its words pass. -/
theorem exists_order_first? (test : ι → TagTest) {i : ι} (hi : i ∈ entries) :
    ∃ order : List ι, order.Perm entries ∧
      ∀ w, (test i).passes w = true → first? test order w = some i := by
  obtain ⟨before, after, rfl⟩ := List.append_of_mem hi
  exact ⟨i :: (before ++ after), List.perm_middle.symm, fun w hw => List.find?_cons_of_pos hw⟩

/-- **The order does not matter exactly if the table is disjoint.**  The entries are told apart by
what they are, and so none may occur twice. -/
theorem pairwise_disjoint_iff_first? (hdistinct : entries.Nodup)
    (hfits : ∀ i ∈ entries, (test i).fits = true) :
    (entries.Pairwise fun i j => (test i).disjoint (test j) = true) ↔
      ∀ w, ∀ order : List ι, order.Perm entries → first? test order w = first? test entries w := by
  constructor
  · intro h w order hperm
    exact first?_eq_of_perm h hperm w
  · intro h
    refine hdistinct.pairwise_of_forall_ne fun i hi j hj hne => ?_
    by_contra hoverlap
    rw [Bool.not_eq_true] at hoverlap
    obtain ⟨w, hiw, hjw⟩ := exists_passes_both (hfits i hi) (hfits j hj) hoverlap
    -- With either of the two in front it is the answer, and the answers are the same.
    obtain ⟨order, hperm, hfirst⟩ := exists_order_first? test hi
    obtain ⟨order', hperm', hfirst'⟩ := exists_order_first? test hj
    have hsame : some i = some j := by
      rw [← hfirst w hiw, ← hfirst' w hjw, h w order hperm, h w order' hperm']
    exact hne (Option.some.inj hsame)

end Tables

/-! ## Labelled tests -/

section Labelled

universe u

variable {α : Type u}

/-- The test at a place of a table. -/
def testAt (table : List (α × TagTest)) (place : Fin table.length) : TagTest :=
  (table.get place).2

theorem pairwise_testAt_iff {table : List (α × TagTest)} :
    ((List.finRange table.length).Pairwise fun i j =>
        (testAt table i).disjoint (testAt table j) = true) ↔
      table.Pairwise fun entry entry' => entry.2.disjoint entry'.2 = true := by
  conv_rhs => rw [← List.map_get_finRange table]
  rw [List.pairwise_map]
  rfl

/-- **What `disjoint` decides.**  No word passes two tests that are disjoint, whatever their masks
and tags are; if they fit their masks and are not disjoint, some word passes both.  So the tests of
a table that fit their masks are disjoint, each from each, if and only if the first one that a word
passes is the same one in every order of the table.  An entry is known by its place in the table,
or, if no two entries are equal, by its label and its test. -/
theorem disjoint_decides_order :
    (∀ a b : TagTest, a.disjoint b = true →
      ∀ w, ¬ (w &&& a.mask = a.tag ∧ w &&& b.mask = b.tag)) ∧
    (∀ a b : TagTest, a.tag &&& ~~~a.mask = 0 → b.tag &&& ~~~b.mask = 0 → a.disjoint b = false →
      ∃ w, w &&& a.mask = a.tag ∧ w &&& b.mask = b.tag) ∧
    ∀ (α : Type u) (table : List (α × TagTest)),
      (∀ entry ∈ table, entry.2.tag &&& ~~~entry.2.mask = 0) →
      ((table.Pairwise fun entry entry' => entry.2.disjoint entry'.2 = true) ↔
        ∀ w, ∀ places : List (Fin table.length), places.Perm (List.finRange table.length) →
          first? (testAt table) places w =
            first? (testAt table) (List.finRange table.length) w) ∧
      (table.Nodup →
        ((table.Pairwise fun entry entry' => entry.2.disjoint entry'.2 = true) ↔
          ∀ w, ∀ order : List (α × TagTest), order.Perm table →
            first? Prod.snd order w = first? Prod.snd table w)) := by
  refine ⟨fun a b h w hw => ?_, fun a b ha hb h => ?_,
    fun α table hfits => ⟨?_, fun hdistinct => ?_⟩⟩
  · have hnot := not_passes_of_disjoint h (passes_iff.2 hw.1)
    rw [passes_iff.2 hw.2] at hnot
    cases hnot
  · obtain ⟨w, haw, hbw⟩ := exists_passes_both (fits_iff.2 ha) (fits_iff.2 hb) h
    exact ⟨w, passes_iff.1 haw, passes_iff.1 hbw⟩
  · rw [← pairwise_testAt_iff]
    exact pairwise_disjoint_iff_first? (List.nodup_finRange _) fun i _ =>
      fits_iff.2 (hfits _ (List.get_mem table i))
  · exact pairwise_disjoint_iff_first? hdistinct fun entry hentry => fits_iff.2 (hfits entry hentry)

/-- A tag that has the low bits of an integer.  Words of both kinds exist, and then it depends on
the order of the tests what such a word is taken for. -/
theorem disjoint_decides_order_of_low_bits :
    let integer : TagTest := { mask := 0b11, tag := 0b00 }
    let char : TagTest := { mask := 0xFF, tag := 0b0000_0100 }
    let table := [("integer", integer), ("char", char)]
    (∃ w, w &&& integer.mask = integer.tag ∧ w &&& char.mask = char.tag) ∧
      (∀ entry ∈ table, entry.2.tag &&& ~~~entry.2.mask = 0) ∧ table.Nodup ∧
      ¬ ∀ w, ∀ order : List (String × TagTest), order.Perm table →
        first? Prod.snd order w = first? Prod.snd table w := by
  intro integer char table
  obtain ⟨-, hoverlap, htable⟩ := disjoint_decides_order
  have hfits : ∀ entry ∈ table, entry.2.tag &&& ~~~entry.2.mask = 0 := by decide
  have hdistinct : table.Nodup := by decide
  have hagree : integer.disjoint char = false := by decide
  refine ⟨hoverlap integer char (by decide) (by decide) hagree, hfits, hdistinct, fun hsame => ?_⟩
  have hdisjoint := ((htable String table hfits).2 hdistinct).2 hsame
  exact absurd hdisjoint (by decide)

end Labelled

end TagTest
end TaggedWords

import Mathlib.Logic.ExistsUnique
import TaggedWords.Proofs.Shape

/-!
# Classifying by division

What a word is taken for can be worked out from its signed value alone, by division with remainder
in the integers: the quotient is rounded down, and the remainder is never negative.  This is so for
negative words as well, whose bits say the same about a remainder as those of any other word, and
for words with stray bits, which are a matter of the quotient.

* `Word.toInt_emod` — signed and unsigned values leave the same remainders.
* `HasRemainder` — the nine cases, each by the remainders of a number.
* `hasRemainder_some_iff`, `hasRemainder_none_iff` — remainders and tests say the same.
* `classify_by_division` — what a word is taken for in each of the cases.
-/

set_option autoImplicit false

namespace TaggedWords

/-! ## Remainders -/

/-- **Signed and unsigned values leave the same remainders.**  They differ by a multiple of the
number of words, if they differ at all. -/
theorem Word.toInt_emod (w : Word) {m : Int} (h : m ∣ 0x1_0000_0000_0000_0000) :
    w.toInt % m = w.toNat % m := by
  have hdvd : m ∣ ((2 ^ 64 : Nat) : Int) := h
  rw [BitVec.toInt_eq_toNat_bmod, ← Int.emod_emod_of_dvd _ hdvd,
    ← Int.emod_emod_of_dvd w.toNat hdvd]
  exact congrArg (· % m) Int.bmod_emod

/-- The remainder by eight of a word that points to an object of the kind. -/
def HeapKind.remainder : HeapKind → Int
  | pair => 1
  | vector => 2
  | string => 3
  | symbol => 5
  | closure => 6

/-- A number has the remainders by which words of a shape are known, or, in the case of `none`,
those of the words that have no shape. -/
def HasRemainder (n : Int) : Option Shape → Prop
  | some .fixnum => n % 4 = 0
  | some .char => n % 256 = 7
  | some .boolean => n % 256 = 15
  | some (.heap kind) => n % 8 = kind.remainder
  | none => n % 8 = 7 ∧ n % 256 ≠ 7 ∧ n % 256 ≠ 15

variable {w : Word}

/-- **A test asks for a remainder.** -/
theorem hasRemainder_some_iff {shape : Shape} :
    HasRemainder w.toInt (some shape) ↔ shape.test.passes w = true := by
  have hquarter := w.toInt_emod (m := 4) (by decide)
  have heighth := w.toInt_emod (m := 8) (by decide)
  have hbyte := w.toInt_emod (m := 256) (by decide)
  cases shape with
  | fixnum =>
    rw [HasRemainder, Shape.test, Word.fixnum_passes_iff]
    omega
  | char =>
    rw [HasRemainder, Shape.test, Word.char_passes_iff]
    omega
  | boolean =>
    rw [HasRemainder, Shape.test, Word.boolean_passes_iff]
    omega
  | heap kind =>
    have htag : kind.remainder = kind.tag.toNat := by cases kind <;> rfl
    have hpasses : kind.test.passes w = true ↔ w.toNat % 8 = kind.tag.toNat :=
      TagTest.passes_iff_mod (k := 3) rfl
    rw [HasRemainder, Shape.test, hpasses, htag]
    omega

/-- **What is left over passes no test.** -/
theorem hasRemainder_none_iff :
    HasRemainder w.toInt none ↔ ∀ shape : Shape, shape.test.passes w = false := by
  have hnot : (∀ shape : Shape, shape.test.passes w = false) ↔
      ∀ shape : Shape, ¬ HasRemainder w.toInt (some shape) := by
    simp only [hasRemainder_some_iff, Bool.not_eq_true]
  rw [hnot]
  constructor
  · rintro ⟨heighth, hchar, hboolean⟩ shape h
    rcases shape with _ | _ | _ | kind
    · simp only [HasRemainder] at h
      omega
    · exact hchar h
    · exact hboolean h
    · cases kind <;> simp only [HasRemainder, HeapKind.remainder] at h <;> omega
  · intro h
    have hquarter : ¬ w.toInt % 4 = 0 := h .fixnum
    have hpair : ¬ w.toInt % 8 = 1 := h (.heap .pair)
    have hvector : ¬ w.toInt % 8 = 2 := h (.heap .vector)
    have hstring : ¬ w.toInt % 8 = 3 := h (.heap .string)
    have hsymbol : ¬ w.toInt % 8 = 5 := h (.heap .symbol)
    have hclosure : ¬ w.toInt % 8 = 6 := h (.heap .closure)
    -- Integers take the remainders 0 and 4, so that 7 is the only one that is left.
    exact ⟨by omega, h .char, h .boolean⟩

/-- **Every number is in one case and no more.** -/
theorem existsUnique_hasRemainder (w : Word) :
    ∃! case : Option Shape, HasRemainder w.toInt case := by
  by_cases h : ∃ shape : Shape, shape.test.passes w = true
  · obtain ⟨shape, hpasses⟩ := h
    refine ⟨some shape, hasRemainder_some_iff.2 hpasses, fun case hcase => ?_⟩
    cases case with
    | none =>
      have hnot := hasRemainder_none_iff.1 hcase shape
      rw [hpasses] at hnot
      cases hnot
    | some other => rw [Shape.eq_of_passes (hasRemainder_some_iff.1 hcase) hpasses]
  · simp only [not_exists, Bool.not_eq_true] at h
    refine ⟨none, hasRemainder_none_iff.2 h, fun case hcase => ?_⟩
    cases case with
    | none => rfl
    | some shape =>
      have hpasses := hasRemainder_some_iff.1 hcase
      rw [h shape] at hpasses
      cases hpasses

/-! ## Payloads -/

/-- The byte above the tag is a quotient of the signed value as well. -/
theorem Word.charCode_eq_ediv (w : Word) : (w.charCode.toNat : Int) = w.toInt / 256 % 256 := by
  have := w.isLt
  rw [toNat_charCode, BitVec.toInt_eq_toNat_cond]
  split <;> omega

/-- Of the words of booleans, one alone has an empty payload. -/
theorem Word.truth_of_emod (h : w.toInt % 256 = 15) : w.truth = decide (w.toInt ≠ 15) := by
  have := w.isLt
  have hvalue := BitVec.toInt_eq_toNat_cond w
  rw [truth_eq, decide_eq_decide]
  split at hvalue <;> omega

/-! ## Classifying -/

/-- **Classifying a word is dividing its signed value.**  Every number falls into one of nine cases
by its remainders and into no second one.  A multiple of four is the integer that is a quarter of
it; a number that leaves 7 by 256 is a character, and one that leaves 15 a boolean, which is false
for 15 itself and true for all others; the remainder by eight says which kind of heap object there
would be; and what is left over has no known tag. -/
theorem Word.classify_by_division (w : Word) :
    (∃! case : Option Shape, HasRemainder w.toInt case) ∧
    (w.toInt % 4 = 0 → ∃ n : Fixnum, n.val = w.toInt / 4 ∧ w.classify = .ok (.integer n)) ∧
    (w.toInt % 256 = 7 → ∃ code : UInt8, (code.toNat : Int) = w.toInt / 256 % 256 ∧
      w.classify = .ok (.char code)) ∧
    (w.toInt % 256 = 15 → w.classify = .ok (.boolean (decide (w.toInt ≠ 15)))) ∧
    (∀ kind : HeapKind, w.toInt % 8 = kind.remainder →
      w.classify = .error (.reservedTag w kind)) ∧
    (w.toInt % 8 = 7 → w.toInt % 256 ≠ 7 → w.toInt % 256 ≠ 15 →
      w.classify = .error (.unknownTag w)) := by
  have hshape : ∀ shape : Shape, HasRemainder w.toInt (some shape) →
      w.classify = shape.reading w :=
    fun shape h => Shape.classify_of_passes (hasRemainder_some_iff.1 h)
  refine ⟨existsUnique_hasRemainder w, fun h => ?_, fun h => ?_, fun h => ?_, fun kind h => ?_,
    fun heighth hchar hboolean => ?_⟩
  · exact ⟨w.fixnum, w.fixnum_val, hshape .fixnum h⟩
  · exact ⟨w.charCode, w.charCode_eq_ediv, hshape .char h⟩
  · rw [hshape .boolean h, Shape.reading, truth_of_emod h]
  · exact hshape (.heap kind) h
  · exact Shape.classify_of_not_passes (hasRemainder_none_iff.1 ⟨heighth, hchar, hboolean⟩)

/-- Negative words of all sorts: the least integer, a character and a boolean with stray bits up to
the sign, a symbol, and a word that is nothing. -/
theorem Word.classify_by_division_negative :
    (∃ n : Fixnum, n.val = -0x2000_0000_0000_0000 ∧
      Word.classify (BitVec.intMin 64) = .ok (.integer n)) ∧
    (∃ code : UInt8, code.toNat = 0xFE ∧ (-505 : Word).classify = .ok (.char code)) ∧
    (-241 : Word).classify = .ok (.boolean true) ∧
    (-3 : Word).classify = .error (.reservedTag (-3) .symbol) ∧
    (-1 : Word).classify = .error (.unknownTag (-1)) := by
  obtain ⟨-, hinteger, -⟩ := classify_by_division (BitVec.intMin 64)
  obtain ⟨-, -, hchar, -⟩ := classify_by_division (-505)
  obtain ⟨-, -, -, hboolean, -⟩ := classify_by_division (-241)
  obtain ⟨-, -, -, -, hheap, -⟩ := classify_by_division (-3)
  obtain ⟨-, -, -, -, -, hunknown⟩ := classify_by_division (-1)
  obtain ⟨n, hn, hleast⟩ := hinteger (by decide)
  obtain ⟨code, hcode, hletter⟩ := hchar (by decide)
  refine ⟨⟨n, hn.trans (by decide), hleast⟩, ⟨code, ?_, hletter⟩, hboolean (by decide),
    hheap .symbol (by decide), hunknown (by decide) (by decide) (by decide)⟩
  have hquotient : (-505 : Word).toInt / 256 % 256 = 0xFE := by decide
  omega

end TaggedWords

import Mathlib.Logic.Function.Basic
import TaggedWords.Proofs.Shape

/-!
# Canonical words

Many words may hold the same value, because not all bits of a word count.  One of them is the word
that the value is laid out as, and this is the canonical one.  The others have stray bits: a
character does not look above its byte, and a boolean does not look which of its bits are set.  An
integer takes every bit there is.

* `Word.canonical` — the canonical word with the value of a word.
* `classify_integer_iff`, `classify_char_iff`, `classify_boolean_iff` — which words hold a value.
* `IsCanonical`, `Alike` — bit by bit, the words that are canonical and the words that differ in
  stray bits only.
* `word_eq_self_iff`, `eq_iff_alike` — the same in terms of the values.
* `canonical_words` — all of this together.
-/

set_option autoImplicit false

namespace TaggedWords

/-- **Different values are laid out as different words**, whatever their kinds are. -/
theorem Value.word_injective : Function.Injective Value.word := by
  intro v v' h
  have hv := v.classify_word
  rw [h, v'.classify_word] at hv
  exact (Except.ok.inj hv).symm

namespace Word

variable {a b w : Word} {v x y : Value}

/-! ## Bits -/

/-- **An integer takes every bit of its word.** -/
theorem word_fixnum (h : Layout.fixnum.passes w = true) : w.fixnum.word = w := by
  rw [fixnum_passes_iff] at h
  have hvalue := BitVec.toInt_eq_toNat_cond w
  rw [← BitVec.toInt_inj, Fixnum.toInt_word, fixnum_val]
  split at hvalue <;> omega

theorem charCode_eq_iff : a.charCode = b.charCode ↔ a.extractLsb 15 8 = b.extractLsb 15 8 := by
  rw [← UInt8.toNat_inj, ← BitVec.toNat_inj, toNat_charCode, toNat_charCode,
    BitVec.extractLsb_toNat, BitVec.extractLsb_toNat, Nat.shiftRight_eq_div_pow,
    Nat.shiftRight_eq_div_pow]

/-- The bits above the low byte, as a number. -/
theorem toNat_payload (w : Word) : (w.extractLsb 63 8).toNat = w.toNat / 256 := by
  have := w.isLt
  rw [BitVec.extractLsb_toNat, Nat.shiftRight_eq_div_pow]
  omega

theorem truth_eq_false_iff : w.truth = false ↔ w.extractLsb 63 8 = 0 := by
  have hzero : (0 : BitVec 56).toNat = 0 := rfl
  rw [truth_eq, decide_eq_false_iff_not, ← BitVec.toNat_inj, toNat_payload, hzero]
  omega

theorem truth_eq_iff :
    a.truth = b.truth ↔ (a.extractLsb 63 8 = 0 ↔ b.extractLsb 63 8 = 0) := by
  rw [← truth_eq_false_iff, ← truth_eq_false_iff]
  cases a.truth <;> cases b.truth <;> decide

/-- A character is in its own word if no bit above its byte is set. -/
theorem word_charCode_iff (h : Layout.char.passes w = true) :
    (Value.char w.charCode).word = w ↔ w.extractLsb 63 16 = 0 := by
  have := w.isLt
  have hzero : (0 : BitVec 48).toNat = 0 := rfl
  rw [char_passes_iff] at h
  rw [← BitVec.toNat_inj, ← BitVec.toNat_inj, Value.toNat_word_char, toNat_charCode,
    BitVec.extractLsb_toNat, Nat.shiftRight_eq_div_pow, hzero]
  omega

/-- A boolean is in its own word if the bits above its tag are the number 0 or the number 1. -/
theorem word_truth_iff (h : Layout.boolean.passes w = true) :
    (Value.boolean w.truth).word = w ↔ w.extractLsb 63 8 = 0 ∨ w.extractLsb 63 8 = 1 := by
  have hzero : (0 : BitVec 56).toNat = 0 := rfl
  have hone : (1 : BitVec 56).toNat = 1 := rfl
  rw [boolean_passes_iff] at h
  rw [← BitVec.toNat_inj, ← BitVec.toNat_inj, ← BitVec.toNat_inj, Value.toNat_word_boolean,
    truth_eq, toNat_payload, hzero, hone]
  -- The word of the value has the payload 1 if there is any payload, and else none.
  by_cases hlarge : 256 ≤ w.toNat
  · rw [decide_eq_true hlarge, Bool.toNat_true]
    omega
  · rw [decide_eq_false hlarge, Bool.toNat_false]
    omega

/-! ## The words of a value -/

theorem classify_integer_iff {n : Fixnum} :
    w.classify = .ok (.integer n) ↔ Shape.fixnum.test.passes w = true ∧ w.fixnum = n := by
  rw [Shape.classify_eq_ok_iff, Value.shape, Shape.reading, Except.ok.injEq, Value.integer.injEq]

theorem classify_char_iff {code : UInt8} :
    w.classify = .ok (.char code) ↔ Shape.char.test.passes w = true ∧ w.charCode = code := by
  rw [Shape.classify_eq_ok_iff, Value.shape, Shape.reading, Except.ok.injEq, Value.char.injEq]

theorem classify_boolean_iff {truth : Bool} :
    w.classify = .ok (.boolean truth) ↔ Shape.boolean.test.passes w = true ∧ w.truth = truth := by
  rw [Shape.classify_eq_ok_iff, Value.shape, Shape.reading, Except.ok.injEq, Value.boolean.injEq]

/-- The canonical word with the value of a word. -/
def canonical (w : Word) : Except DecodeError Word :=
  w.classify.map Value.word

theorem canonical_of_classify (h : w.classify = .ok v) : w.canonical = .ok v.word := by
  rw [canonical, h]
  rfl

/-- The words without stray bits. -/
inductive IsCanonical (w : Word) : Prop
  | integer (h : Shape.fixnum.test.passes w = true)
  | char (h : Shape.char.test.passes w = true) (hrest : w.extractLsb 63 16 = 0)
  | boolean (h : Shape.boolean.test.passes w = true)
      (hpayload : w.extractLsb 63 8 = 0 ∨ w.extractLsb 63 8 = 1)

/-- **A word is the word of its value exactly if it has no stray bits.** -/
theorem word_eq_self_iff (h : w.classify = .ok v) : v.word = w ↔ IsCanonical w := by
  cases v with
  | integer n =>
    obtain ⟨htest, rfl⟩ := classify_integer_iff.1 h
    exact iff_of_true (word_fixnum htest) (.integer htest)
  | char code =>
    obtain ⟨htest, rfl⟩ := classify_char_iff.1 h
    rw [word_charCode_iff htest]
    refine ⟨.char htest, fun hcanonical => ?_⟩
    cases hcanonical with
    | integer hother => cases Shape.eq_of_passes hother htest
    | char _ hrest => exact hrest
    | boolean hother => cases Shape.eq_of_passes hother htest
  | boolean truth =>
    obtain ⟨htest, rfl⟩ := classify_boolean_iff.1 h
    rw [word_truth_iff htest]
    refine ⟨.boolean htest, fun hcanonical => ?_⟩
    cases hcanonical with
    | integer hother => cases Shape.eq_of_passes hother htest
    | char hother => cases Shape.eq_of_passes hother htest
    | boolean _ hpayload => exact hpayload

/-- The words that differ in stray bits, if they differ at all. -/
inductive Alike (a b : Word) : Prop
  | integer (ha : Shape.fixnum.test.passes a = true) (hb : Shape.fixnum.test.passes b = true)
      (h : a = b)
  | char (ha : Shape.char.test.passes a = true) (hb : Shape.char.test.passes b = true)
      (h : a.extractLsb 15 8 = b.extractLsb 15 8)
  | boolean (ha : Shape.boolean.test.passes a = true) (hb : Shape.boolean.test.passes b = true)
      (h : a.extractLsb 63 8 = 0 ↔ b.extractLsb 63 8 = 0)

/-- Stray bits do not matter. -/
theorem Alike.classify_eq (h : Alike a b) : a.classify = b.classify := by
  cases h with
  | integer _ _ h => rw [h]
  | char ha hb h =>
    rw [Shape.classify_of_passes ha, Shape.classify_of_passes hb, Shape.reading, Shape.reading,
      charCode_eq_iff.2 h]
  | boolean ha hb h =>
    rw [Shape.classify_of_passes ha, Shape.classify_of_passes hb, Shape.reading, Shape.reading,
      truth_eq_iff.2 h]

/-- **Two words hold the same value exactly if they differ in stray bits only.** -/
theorem eq_iff_alike (ha : a.classify = .ok x) (hb : b.classify = .ok y) :
    x = y ↔ Alike a b := by
  constructor
  · rintro rfl
    cases x with
    | integer n =>
      obtain ⟨hatest, hapayload⟩ := classify_integer_iff.1 ha
      obtain ⟨hbtest, hbpayload⟩ := classify_integer_iff.1 hb
      refine .integer hatest hbtest ?_
      rw [← word_fixnum hatest, ← word_fixnum hbtest, hapayload, hbpayload]
    | char code =>
      obtain ⟨hatest, hapayload⟩ := classify_char_iff.1 ha
      obtain ⟨hbtest, hbpayload⟩ := classify_char_iff.1 hb
      exact .char hatest hbtest (charCode_eq_iff.1 (hapayload.trans hbpayload.symm))
    | boolean truth =>
      obtain ⟨hatest, hapayload⟩ := classify_boolean_iff.1 ha
      obtain ⟨hbtest, hbpayload⟩ := classify_boolean_iff.1 hb
      exact .boolean hatest hbtest (truth_eq_iff.1 (hapayload.trans hbpayload.symm))
  · intro h
    rw [h.classify_eq, hb] at ha
    exact (Except.ok.inj ha).symm

/-- **Every value has one canonical word.**  Laying a value out and classifying the word gives the
value back, and so different values have different words.  The canonical word of a word that holds
a value holds the same value and is its own canonical word; it is the word itself exactly if that
has no stray bits, which integers never have, characters have above their byte, and booleans have
in any payload but 0 and 1.  Two words hold the same value exactly if they have the same canonical
word, and that is so exactly if they are the same integer, or characters with the same byte, or
booleans that both have a payload or both have none. -/
theorem canonical_words :
    (∀ v : Value, v.word.classify = .ok v) ∧ Function.Injective Value.word ∧
    (∀ (w : Word) (v : Value), w.classify = .ok v → ∃ c : Word, w.canonical = .ok c ∧
      c = v.word ∧ c.classify = .ok v ∧ c.canonical = .ok c ∧ (c = w ↔ IsCanonical w)) ∧
    ∀ (a b : Word) (x y : Value), a.classify = .ok x → b.classify = .ok y →
      (x = y ↔ a.canonical = b.canonical) ∧ (x = y ↔ Alike a b) := by
  refine ⟨Value.classify_word, Value.word_injective, fun w v h => ?_, fun a b x y ha hb => ?_⟩
  · exact ⟨v.word, canonical_of_classify h, rfl, v.classify_word,
      canonical_of_classify v.classify_word, word_eq_self_iff h⟩
  · refine ⟨?_, eq_iff_alike ha hb⟩
    rw [canonical_of_classify ha, canonical_of_classify hb, Except.ok.injEq,
      Value.word_injective.eq_iff]

/-- A letter with a stray bit where the sign is, and booleans with several payloads. -/
theorem canonical_words_of_stray_bits :
    Word.canonical 0x8000_0000_0000_4107 = .ok 0x4107 ∧
    Word.classify 0x4107 = Word.classify 0x8000_0000_0000_4107 ∧
    ¬ IsCanonical 0x8000_0000_0000_4107 ∧ IsCanonical 0x4107 ∧
    Alike 0x8000_0000_0000_4107 0x4107 ∧
    Word.canonical 0x20F = Word.canonical (-241) ∧ ¬ Alike 0x0F (-241) := by
  obtain ⟨hclassify, hinjective, hcanonical, hsame⟩ := canonical_words
  have hletter : Word.classify 0x8000_0000_0000_4107 = .ok (.char 0x41) := rfl
  have hbare : Word.classify 0x4107 = .ok (.char 0x41) := hclassify (.char 0x41)
  have hbit : Word.classify 0x20F = .ok (.boolean true) := rfl
  have hsign : Word.classify (-241) = .ok (.boolean true) := rfl
  have hfalse : Word.classify 0x0F = .ok (.boolean false) := hclassify (.boolean false)
  obtain ⟨c, hc, rfl, hagain, hfixed, hself⟩ := hcanonical _ _ hletter
  obtain ⟨c', hc', rfl, -, -, hself'⟩ := hcanonical _ _ hbare
  refine ⟨hc, hbare.trans hletter.symm, fun h => ?_, hself'.1 rfl, ?_, ?_, fun h => ?_⟩
  · exact absurd (hself.2 h) (by decide)
  · exact (hsame _ _ _ _ hletter hbare).2.1 rfl
  · exact (hsame _ _ _ _ hbit hsign).1.1 rfl
  · exact absurd ((hsame _ _ _ _ hfalse hsign).2.2 h) (by decide)

end Word
end TaggedWords

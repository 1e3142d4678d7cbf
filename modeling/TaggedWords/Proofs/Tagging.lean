import TaggedWords.Tagging

/-!
# Words as numbers

`Word.classify` and `Value.word` work on bits: masks, shifts and a payload beside a tag.  Read as
numbers they are division with remainder, which is what this file shows.

* `fixnum_passes_iff`, `char_passes_iff`, `boolean_passes_iff` — a tag test asks for a remainder.
* `fixnum_val`, `toNat_charCode`, `truth_eq` — a payload is a quotient, rounded down.
* `Fixnum.toInt_word`, `Value.toNat_word_char`, `Value.toNat_word_boolean` — a payload beside a tag
  is a sum.
* `Word.fixnum_word`, `Word.charCode_word`, `Word.truth_word` — payloads read back.
* `Value.classify_word` — the word that holds a value is classified as the value.
-/

set_option autoImplicit false

namespace TaggedWords

/-! ## Tests -/

/-- Masking the low bits of a word takes a remainder. -/
theorem TagTest.passes_iff_mod {test : TagTest} {k : Nat} (hmask : test.mask.toNat = 1 <<< k - 1)
    {w : Word} : test.passes w = true ↔ w.toNat % (1 <<< k) = test.tag.toNat := by
  rw [passes_iff, ← BitVec.toNat_inj, BitVec.toNat_and, hmask, Nat.one_shiftLeft,
    Nat.and_two_pow_sub_one_eq_mod]

namespace Word

variable {w : Word}

theorem fixnum_passes_iff : Layout.fixnum.passes w = true ↔ w.toNat % 4 = 0 :=
  TagTest.passes_iff_mod (k := 2) rfl

theorem char_passes_iff : Layout.char.passes w = true ↔ w.toNat % 256 = 7 :=
  TagTest.passes_iff_mod (k := 8) rfl

theorem boolean_passes_iff : Layout.boolean.passes w = true ↔ w.toNat % 256 = 15 :=
  TagTest.passes_iff_mod (k := 8) rfl

/-! ## Payloads -/

theorem fixnum_val (w : Word) : w.fixnum.val = w.toInt / 4 := by
  show (w.sshiftRight Layout.fixnum.shift).toInt = w.toInt / 4
  rw [BitVec.toInt_sshiftRight, Int.shiftRight_eq_div_pow]
  rfl

/-- The sign fills the high bits of a shifted word, and no payload of a character reaches them. -/
theorem toNat_charCode (w : Word) : w.charCode.toNat = w.toNat / 256 % 256 := by
  have hlow : (w.sshiftRight Layout.char.shift).setWidth 8 = (w >>> 8).setWidth 8 := by
    ext i hi
    have hbit : ¬ 64 ≤ i := by omega
    have hinside : 8 + i < 64 := by omega
    rw [BitVec.getElem_setWidth, BitVec.getLsbD_sshiftRight, BitVec.getElem_setWidth,
      BitVec.getLsbD_ushiftRight]
    simp [Layout.char, hbit, hinside]
  rw [charCode, hlow]
  simp [Nat.shiftRight_eq_div_pow]

theorem truth_eq (w : Word) : w.truth = decide (256 ≤ w.toNat) := by
  have hshift : (w.sshiftRight Layout.boolean.shift).toInt = w.toInt / 256 := by
    rw [BitVec.toInt_sshiftRight, Int.shiftRight_eq_div_pow]
    rfl
  have hzero : w.sshiftRight Layout.boolean.shift = 0 ↔ w.toInt / 256 = 0 := by
    rw [← hshift, ← BitVec.toInt_inj]
    rfl
  have hsmall : w.toInt / 256 = 0 ↔ ¬ 256 ≤ w.toNat := by
    have := w.isLt
    rw [BitVec.toInt_eq_toNat_cond]
    split <;> omega
  rw [truth, bne, Bool.eq_iff_iff, Bool.not_eq_true', beq_eq_false_iff_ne, Ne, hzero, hsmall,
    Decidable.not_not, decide_eq_true_iff]

/-! ## The three kinds of values -/

theorem classify_of_fixnum (h : w.toNat % 4 = 0) : w.classify = .ok (.integer w.fixnum) := by
  rw [classify, if_pos (fixnum_passes_iff.2 h)]

theorem classify_of_char (h : w.toNat % 256 = 7) : w.classify = .ok (.char w.charCode) := by
  rw [classify, if_neg (mt fixnum_passes_iff.1 (by omega)), if_pos (char_passes_iff.2 h)]

theorem classify_of_boolean (h : w.toNat % 256 = 15) : w.classify = .ok (.boolean w.truth) := by
  rw [classify, if_neg (mt fixnum_passes_iff.1 (by omega)),
    if_neg (mt char_passes_iff.1 (by omega)), if_pos (boolean_passes_iff.2 h)]

end Word

/-! ## Laying values out -/

theorem Fixnum.toInt_word (n : Fixnum) : n.word.toInt = 4 * n.val := by
  have hleast := n.least_le
  have hbound := n.lt_bound
  have hword : n.word = BitVec.ofInt 64 (4 * n.val) := by
    show BitVec.ofInt 64 n.val <<< 2 ||| 0#64 = _
    rw [BitVec.or_zero, BitVec.shiftLeft_eq_mul_twoPow, Int.mul_comm, BitVec.ofInt_mul]
    rfl
  rw [hword, BitVec.toInt_ofInt_eq_self (by decide) (by omega) (by omega)]

/-- Bits beside a tag of eight bits are a multiple of 256 and the tag. -/
theorem toNat_shiftLeft_or {x tag : Word} (hx : x.toNat < 0x100_0000_0000_0000)
    (htag : tag.toNat < 0x100) : (x <<< 8 ||| tag).toNat = x.toNat * 256 + tag.toNat := by
  rw [BitVec.toNat_or, BitVec.toNat_shiftLeft, Nat.shiftLeft_eq, Nat.mod_eq_of_lt (by omega),
    ← Nat.shiftLeft_eq, ← Nat.shiftLeft_add_eq_or_of_lt (i := 8) htag, Nat.shiftLeft_eq]

namespace Value

theorem toNat_word_char (code : UInt8) : (char code).word.toNat = code.toNat * 256 + 7 := by
  have hcode : (code.toBitVec.setWidth 64).toNat = code.toNat := by
    simp
  have := code.toNat_lt
  rw [word, Layout.char, toNat_shiftLeft_or (by omega) (by decide), hcode]
  rfl

theorem toNat_word_boolean (b : Bool) : (boolean b).word.toNat = b.toNat * 256 + 15 := by
  cases b <;> rfl

end Value

/-! ## Reading values back -/

namespace Word

/-- **A fixnum is the payload of its word.** -/
theorem fixnum_word (n : Fixnum) : n.word.fixnum = n := by
  ext
  rw [fixnum_val, n.toInt_word, Int.mul_ediv_cancel_left _ (by decide)]

theorem charCode_word (code : UInt8) : (Value.char code).word.charCode = code := by
  have hword := Value.toNat_word_char code
  have := code.toNat_lt
  rw [← UInt8.toNat_inj, toNat_charCode]
  omega

theorem truth_word (b : Bool) : (Value.boolean b).word.truth = b := by
  rw [truth_eq, Value.toNat_word_boolean b]
  cases b <;> rfl

end Word

/-- **The word that holds a value is classified as the value.** -/
theorem Value.classify_word (v : Value) : v.word.classify = .ok v := by
  cases v with
  | integer n =>
    have htag : n.word.toNat % 4 = 0 := by
      have h := n.toInt_word
      rw [BitVec.toInt_eq_toNat_cond] at h
      split at h <;> omega
    rw [word, Word.classify_of_fixnum htag, Word.fixnum_word]
  | char code =>
    have h := toNat_word_char code
    rw [Word.classify_of_char (by omega), Word.charCode_word]
  | boolean b =>
    have h := toNat_word_boolean b
    rw [Word.classify_of_boolean (by omega), Word.truth_word]

end TaggedWords

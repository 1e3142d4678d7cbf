import TaggedWords.Proofs.Canonical
import TaggedWords.Proofs.Grammar.Literal

/-!
# The range of fixnums

A fixnum has two bits less than a word, and the integers in its range are those that come back
when they are shifted up by the two bits of the tag and down again.  Integers are checked against
the range where they come in, but payloads are not: that a payload is in range follows from the
shift, whatever the word is.

* `shifted_back_iff` — the integers that lose no bit to the tag.
* `exists_ofInt_iff`, `ofInt_eq_error` — which integers are fixnums, and what becomes of others.
* `ofInt_payload`, `ofInt_of_classify` — what makes fixnums without a check makes those that would
  pass it.
* `word_lt_iff`, `payload_lt_iff` — the order of fixnums is the order of their words.
* `range_exact` — all of this together.
-/

set_option autoImplicit false

namespace TaggedWords
namespace Fixnum

/-! ## The range -/

/-- **The integers that lose no bit to the tag** are those in the range of fixnums. -/
theorem shifted_back_iff (n : Word) :
    (n <<< Layout.fixnum.shift).sshiftRight Layout.fixnum.shift = n ↔
      -0x2000_0000_0000_0000 ≤ n.toInt ∧ n.toInt < 0x2000_0000_0000_0000 := by
  constructor
  · intro h
    -- What is shifted down is the payload of some word.
    have hpayload : (Word.fixnum (n <<< Layout.fixnum.shift)).val = n.toInt :=
      congrArg BitVec.toInt h
    rw [← hpayload]
    exact ⟨least_le _, lt_bound _⟩
  · rintro ⟨hleast, hbound⟩
    -- What is shifted up is the word of a fixnum, and that has the fixnum as its payload.
    have hword : Fixnum.word ⟨n.toInt, hleast, hbound⟩ = n <<< Layout.fixnum.shift := by
      show BitVec.ofInt 64 n.toInt <<< Layout.fixnum.shift ||| 0#64 = _
      rw [BitVec.ofInt_toInt, BitVec.or_zero]
    have hback := Word.fixnum_word ⟨n.toInt, hleast, hbound⟩
    rw [hword] at hback
    exact BitVec.toInt_inj.1 (congrArg val hback)

theorem ofInt_eq_ok_iff {n : Int} {i : Fixnum} : ofInt n = .ok i ↔ i.val = n := by
  constructor
  · intro h
    rw [ofInt] at h
    split at h
    · rw [← Except.ok.inj h]
    · cases h
  · rintro rfl
    exact i.ofInt_val

/-- **An integer is a fixnum exactly if it is in range.** -/
theorem exists_ofInt_iff {n : Int} : (∃ i, ofInt n = .ok i) ↔
    -0x2000_0000_0000_0000 ≤ n ∧ n < 0x2000_0000_0000_0000 := by
  constructor
  · rintro ⟨i, h⟩
    rw [← ofInt_eq_ok_iff.1 h]
    exact ⟨i.least_le, i.lt_bound⟩
  · intro h
    exact ⟨⟨n, h.1, h.2⟩, ofInt_eq_ok_iff.2 rfl⟩

theorem ofInt_eq_error {n : Int}
    (h : ¬ (-0x2000_0000_0000_0000 ≤ n ∧ n < 0x2000_0000_0000_0000)) :
    ofInt n = .error (.fixnumOverflow n) := by
  rw [ofInt, dif_neg h]

/-! ## Where fixnums come from -/

/-- **A payload is in range**, whatever the word is. -/
theorem ofInt_payload (w : Word) :
    ofInt (w.sshiftRight Layout.fixnum.shift).toInt = .ok w.fixnum :=
  ofInt_eq_ok_iff.2 rfl

theorem ofInt_of_classify {w : Word} {i : Fixnum} (h : w.classify = .ok (.integer i)) :
    ofInt (w.sshiftRight Layout.fixnum.shift).toInt = .ok i := by
  obtain ⟨-, rfl⟩ := Word.classify_integer_iff.1 h
  exact ofInt_payload w

/-- A literal that is an integer is the one that it spells. -/
theorem integer?_of_ofLiteral {text : String} {i : Fixnum}
    (h : Value.ofLiteral text = .ok (.integer i)) :
    Text.integer? (Text.trim text.toList) = some i.val := by
  obtain ⟨form, hwrites⟩ := Value.ofLiteral_eq_ok_iff.1 h
  rw [Text.trim]
  generalize Text.trimStart text.toList = start at hwrites
  cases hwrites with
  | fixnum hinteger => exact Text.integer?_eq_some_iff.2 hinteger

/-! ## Order -/

/-- **The words of fixnums are in the order of the fixnums.** -/
theorem word_lt_iff (i j : Fixnum) : i.word.toInt < j.word.toInt ↔ i.val < j.val := by
  rw [toInt_word, toInt_word]
  omega

/-- **The payloads of words are in the order of the words**, if the words are those of fixnums. -/
theorem payload_lt_iff {a b : Word} (ha : Layout.fixnum.passes a = true)
    (hb : Layout.fixnum.passes b = true) :
    a.fixnum.val < b.fixnum.val ↔ a.toInt < b.toInt := by
  rw [← word_lt_iff, Word.word_fixnum ha, Word.word_fixnum hb]

/-! ## All together -/

/-- **The range of fixnums is what a word can hold, and nothing leaves it.**  A number of 64 bits is
accepted exactly if it comes back when it is shifted up beside the tag and down again, which is so
for the numbers from -2⁶¹ up to 2⁶¹, and is refused by name otherwise.  The ends of the range, the
payload of any word, the integers that words are classified as, and those that literals spell are
all accepted as what they are.  The word of a fixnum is four times its value, is recognised, and
has the fixnum as its payload; and words and payloads are in the same order. -/
theorem range_exact :
    (∀ n : Word,
      ((∃ i, ofInt n.toInt = .ok i) ↔
        (n <<< Layout.fixnum.shift).sshiftRight Layout.fixnum.shift = n) ∧
      ((∃ i, ofInt n.toInt = .ok i) ↔
        -0x2000_0000_0000_0000 ≤ n.toInt ∧ n.toInt < 0x2000_0000_0000_0000) ∧
      (∀ i, ofInt n.toInt = .ok i → i.val = n.toInt) ∧
      ((¬ ∃ i, ofInt n.toInt = .ok i) → ofInt n.toInt = .error (.fixnumOverflow n.toInt))) ∧
    ofInt ((BitVec.intMin 64).sshiftRight Layout.fixnum.shift).toInt = .ok least ∧
    ofInt ((BitVec.intMax 64).sshiftRight Layout.fixnum.shift).toInt = .ok greatest ∧
    (∀ w : Word, ofInt (w.sshiftRight Layout.fixnum.shift).toInt = .ok w.fixnum ∧
      ∀ i, w.classify = .ok (.integer i) →
        ofInt (w.sshiftRight Layout.fixnum.shift).toInt = .ok i) ∧
    (∀ text i, Value.ofLiteral text = .ok (.integer i) →
      Text.integer? (Text.trim text.toList) = some i.val ∧ ofInt i.val = .ok i) ∧
    (∀ i : Fixnum, ofInt i.val = .ok i ∧ i.word.toInt = 4 * i.val ∧
      Layout.fixnum.passes i.word = true ∧ i.word.fixnum = i) ∧
    (∀ i j : Fixnum, i.val < j.val ↔ i.word.toInt < j.word.toInt) ∧
    ∀ a b : Word, Layout.fixnum.passes a = true → Layout.fixnum.passes b = true →
      (a.toInt < b.toInt ↔ a.fixnum.val < b.fixnum.val) := by
  refine ⟨fun n => ⟨?_, exists_ofInt_iff, fun i => ofInt_eq_ok_iff.1, fun hnone => ?_⟩,
    ofInt_eq_ok_iff.2 (by decide), ofInt_eq_ok_iff.2 (by decide),
    fun w => ⟨ofInt_payload w, fun i => ofInt_of_classify⟩,
    fun text i h => ⟨integer?_of_ofLiteral h, i.ofInt_val⟩,
    fun i => ⟨i.ofInt_val, i.toInt_word, ?_, Word.fixnum_word i⟩,
    fun i j => (word_lt_iff i j).symm, fun a b ha hb => (payload_lt_iff ha hb).symm⟩
  · rw [exists_ofInt_iff, shifted_back_iff]
  · rw [exists_ofInt_iff] at hnone
    exact ofInt_eq_error hnone
  · exact (Word.classify_integer_iff.1 (Value.classify_word (.integer i))).1

/-- The first integer above the range, the payload of a word that is no fixnum, and the two ends as
literals and as words. -/
theorem range_exact_at_the_ends :
    ofInt (0x2000_0000_0000_0000 : Word).toInt =
      .error (.fixnumOverflow (0x2000_0000_0000_0000 : Word).toInt) ∧
    ofInt ((-1 : Word).sshiftRight Layout.fixnum.shift).toInt = .ok (Word.fixnum (-1)) ∧
    Text.integer? (Text.trim " -2305843009213693952".toList) = some least.val ∧
    least.word.toInt < greatest.word.toInt ∧ least.word.fixnum.val < greatest.word.fixnum.val := by
  obtain ⟨hnumber, -, -, hpayload, hliteral, hword, hword_lt, hpayload_lt⟩ := range_exact
  obtain ⟨-, hrange, -, hrefused⟩ := hnumber 0x2000_0000_0000_0000
  have hlt : least.word.toInt < greatest.word.toInt := (hword_lt least greatest).1 (by decide)
  refine ⟨hrefused fun h => ?_, (hpayload (-1)).1, (hliteral _ least rfl).1, hlt, ?_⟩
  · exact absurd (hrange.1 h) (by decide)
  · exact (hpayload_lt _ _ (hword least).2.2.1 (hword greatest).2.2.1).1 hlt

end Fixnum
end TaggedWords

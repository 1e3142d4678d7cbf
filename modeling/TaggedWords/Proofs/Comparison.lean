import TaggedWords.Proofs.Fixnum

/-!
# Comparing values by their words

Two words are compared by the values that they hold.  Whether the values are equal, and how they
are ordered, can be said of the words themselves, although words that differ may hold equal values.
Equality asks for the words that the values are laid out as, which have no stray bits.  Order asks
for the words as they are, because integers are the only values that are ordered and have no stray
bits to lose.

* `Word.compareValues_of_classify`, `Word.compareValues_eq_error_iff` — when there is an answer, and
  which word is at fault when there is none.
* `Word.compare_payload` — the shift that takes the tag away keeps the order.
* `Value.order?_eq_some_iff`, `Value.exists_order?_iff` — which values are ordered.
* `compareValues_agrees_with_words` — comparing values is comparing words.
-/

set_option autoImplicit false

namespace TaggedWords

variable {a b : Word} {x y : Value}

/-! ## Answers and failures -/

theorem Word.compareValues_of_classify (ha : a.classify = .ok x) (hb : b.classify = .ok y) :
    a.compareValues b = .ok { equal := x == y, order := x.order? y } := by
  rw [compareValues, ha, hb]
  rfl

/-- **There is no answer if a word holds no value**, and the first such word is at fault. -/
theorem Word.compareValues_eq_error_iff {e : DecodeError} :
    a.compareValues b = .error e ↔
      a.classify = .error e ∨ (∃ x, a.classify = .ok x) ∧ b.classify = .error e := by
  rw [compareValues]
  rcases a.classify with ea | x
  · simp [bind, Except.bind]
  · rcases b.classify with eb | y <;> simp [bind, Except.bind, pure, Except.pure]

/-! ## Order -/

namespace Value

/-- **Integers are ordered and nothing else is.** -/
theorem order?_eq_some_iff {o : Ordering} :
    x.order? y = some o ↔
      ∃ m n, x = .integer m ∧ y = .integer n ∧ compare m.val n.val = o := by
  constructor
  · intro h
    unfold order? at h
    split at h
    · exact ⟨_, _, rfl, rfl, Option.some.inj h⟩
    · cases h
  · rintro ⟨m, n, rfl, rfl, rfl⟩
    rfl

theorem exists_order?_iff :
    (∃ o, x.order? y = some o) ↔ (∃ m, x = .integer m) ∧ ∃ n, y = .integer n := by
  constructor
  · rintro ⟨o, h⟩
    obtain ⟨m, n, hx, hy, -⟩ := order?_eq_some_iff.1 h
    exact ⟨⟨m, hx⟩, n, hy⟩
  · rintro ⟨⟨m, hx⟩, n, hy⟩
    exact ⟨compare m.val n.val, order?_eq_some_iff.2 ⟨m, n, hx, hy, rfl⟩⟩

end Value

/-- **Payloads compare as the words do**, if the words are those of integers.  A payload is a
quotient, but no remainder is lost on the way. -/
theorem Word.compare_payload (ha : Layout.fixnum.passes a = true)
    (hb : Layout.fixnum.passes b = true) :
    compare a.fixnum.val b.fixnum.val = compare a.toInt b.toInt := by
  have hlt := Fixnum.payload_lt_iff ha hb
  have hgt := Fixnum.payload_lt_iff hb ha
  cases hwords : compare a.toInt b.toInt with
  | lt => exact Int.compare_eq_lt.2 (hlt.2 (Int.compare_eq_lt.1 hwords))
  | eq =>
    have hsame : a = b := BitVec.toInt_inj.1 (Int.compare_eq_eq.1 hwords)
    rw [hsame]
    exact Int.compare_eq_eq.2 rfl
  | gt => exact Int.compare_eq_gt.2 (hgt.2 (Int.compare_eq_gt.1 hwords))

/-- The order of two values, where they have one, is that of the words that hold them. -/
theorem Word.compare_of_order? (ha : a.classify = .ok x) (hb : b.classify = .ok y) {o : Ordering}
    (h : x.order? y = some o) : compare a.toInt b.toInt = o := by
  obtain ⟨m, n, rfl, rfl, rfl⟩ := Value.order?_eq_some_iff.1 h
  obtain ⟨hatest, rfl⟩ := classify_integer_iff.1 ha
  obtain ⟨hbtest, rfl⟩ := classify_integer_iff.1 hb
  exact (compare_payload hatest hbtest).symm

/-! ## All together -/

/-- **Comparing values is comparing words.**  If both words hold a value, there is an answer.  It
calls the values equal exactly if they are laid out as one word, which is so exactly if the given
words differ in stray bits only, and never if the values are of different kinds.  It orders the
values exactly if both are integers, and then in the signed order of the given words.  If a word
holds no value there is no answer, and of two such words the first is at fault. -/
theorem compareValues_agrees_with_words (a b : Word) :
    (∀ x y, a.classify = .ok x → b.classify = .ok y → ∃ c, a.compareValues b = .ok c ∧
      (c.equal = true ↔ x = y) ∧ (c.equal = true ↔ x.word = y.word) ∧
      (c.equal = true ↔ a.Alike b) ∧ (x.kind ≠ y.kind → c.equal = false) ∧
      ((∃ o, c.order = some o) ↔ (∃ m, x = .integer m) ∧ ∃ n, y = .integer n) ∧
      ∀ o, c.order = some o →
        (o = .lt ↔ a.toInt < b.toInt) ∧ (o = .eq ↔ a = b) ∧ (o = .gt ↔ b.toInt < a.toInt)) ∧
    ∀ e, a.compareValues b = .error e ↔
      a.classify = .error e ∨ (∃ x, a.classify = .ok x) ∧ b.classify = .error e := by
  refine ⟨fun x y ha hb => ⟨_, Word.compareValues_of_classify ha hb, beq_iff_eq, ?_, ?_,
    fun hkind => ?_, Value.exists_order?_iff, fun o ho => ?_⟩,
    fun e => Word.compareValues_eq_error_iff⟩
  · rw [beq_iff_eq, Value.word_injective.eq_iff]
  · rw [beq_iff_eq, Word.eq_iff_alike ha hb]
  · exact beq_false_of_ne fun h => hkind (congrArg Value.kind h)
  · rw [← Word.compare_of_order? ha hb ho, ← BitVec.toInt_inj]
    exact ⟨Int.compare_eq_lt, Int.compare_eq_eq, Int.compare_eq_gt⟩

/-- A letter with and without a stray bit where the sign is, the least integer and a positive one, a
pair and a vector, and a letter and a vector. -/
theorem compareValues_agrees_with_words_of_stray_bits :
    Word.classify 0x8000_0000_0000_4107 = .ok (.char 0x41) ∧
    (∃ c, Word.compareValues 0x8000_0000_0000_4107 0x4107 = .ok c ∧ c.equal = true ∧
      ¬ ∃ o, c.order = some o) ∧
    (∃ c, Word.compareValues (BitVec.intMin 64) 4 = .ok c ∧ c.equal = false ∧
      c.order = some .lt) ∧
    Word.compareValues 1 2 = .error (.reservedTag 1 .pair) ∧
    Word.compareValues 0x4107 2 = .error (.reservedTag 2 .vector) := by
  obtain ⟨hletters, -⟩ := compareValues_agrees_with_words 0x8000_0000_0000_4107 0x4107
  obtain ⟨hintegers, -⟩ := compareValues_agrees_with_words (BitVec.intMin 64) 4
  obtain ⟨-, hpair⟩ := compareValues_agrees_with_words 1 2
  obtain ⟨-, hvector⟩ := compareValues_agrees_with_words 0x4107 2
  have hstray : Word.classify 0x8000_0000_0000_4107 = .ok (.char 0x41) := rfl
  have hbare : Word.classify 0x4107 = .ok (.char 0x41) := rfl
  have hleast : Word.classify (BitVec.intMin 64) = .ok (.integer Fixnum.least) := rfl
  have hone : Word.classify 4 = .ok (.integer ⟨1, by decide, by decide⟩) := rfl
  refine ⟨hstray, ?_, ?_, (hpair _).2 (.inl rfl), (hvector _).2 (.inr ⟨⟨_, hbare⟩, rfl⟩)⟩
  · obtain ⟨c, hc, hequal, -, -, -, hordered, -⟩ := hletters _ _ hstray hbare
    have hnone : ¬ ∃ m, Value.char 0x41 = .integer m := by
      rintro ⟨m, hm⟩
      cases hm
    exact ⟨c, hc, hequal.2 rfl, fun h => hnone (hordered.1 h).1⟩
  · obtain ⟨c, hc, -, hequal, -, -, hordered, horder⟩ := hintegers _ _ hleast hone
    obtain ⟨o, ho⟩ := hordered.2 ⟨⟨_, rfl⟩, _, rfl⟩
    have hless : o = .lt := (horder o ho).1.2 (by decide)
    exact ⟨c, hc, Bool.eq_false_iff.2 (mt hequal.1 (by decide)), hless ▸ ho⟩

end TaggedWords

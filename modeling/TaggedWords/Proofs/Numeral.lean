import TaggedWords.Text.Blank
import TaggedWords.Text.Numeral

/-!
# Numerals read back

Numerals are written by `Nat.toDigits` and `Text.decimal`, and read by `Text.natural?`,
`Text.unsigned?` and `Text.integer?`.  The two directions share nothing but the digits, so this
file ties them together.

* `natural?_toDigits`, `unsigned?_toDigits`, `integer?_decimal` — what was written is read, with
  the value that it was written for.
* `exists_of_mem_toDigits` — every character of a numeral is the digit of some number below the
  base.  That is why numerals hold no sign, no underscore and no blank (`ne_of_mem_toDigits`,
  `forall_mem_toDigits`).
-/

set_option autoImplicit false

namespace TaggedWords
namespace Text

/-! ## One digit -/

theorem digitValue?_digitChar {d : Nat} (h : d < 16) : digitValue? d.digitChar = some d := by
  have hall : ∀ d, d < 16 → digitValue? d.digitChar = some d := by decide
  exact hall d h

theorem digit?_digitChar {base d : Nat} (hbase : base ≤ 16) (h : d < base) :
    digit? base d.digitChar = some d := by
  rw [digit?, digitValue?_digitChar (by omega)]
  simp [h]

/-! ## The characters of a numeral -/

theorem exists_of_mem_toDigits {base : Nat} (hbase : 1 < base) {n : Nat} {c : Char}
    (h : c ∈ Nat.toDigits base n) : ∃ d, d < base ∧ d.digitChar = c := by
  induction n using Nat.base_induction base hbase with
  | single n hn =>
    rw [Nat.toDigits_of_lt_base hn, List.mem_singleton] at h
    exact ⟨n, hn, h.symm⟩
  | digit n d hd hn ih =>
    rw [← Nat.toDigits_append_toDigits hbase hn hd, List.mem_append] at h
    rcases h with h | h
    · exact ih h
    · rw [Nat.toDigits_of_lt_base hd, List.mem_singleton] at h
      exact ⟨d, hd, h.symm⟩

/-- What holds of every digit holds of all characters of a numeral. -/
theorem forall_mem_toDigits {base : Nat} (hbase : 1 < base) {p : Char → Prop}
    (hdigit : ∀ d, d < base → p d.digitChar) (n : Nat) : ∀ c ∈ Nat.toDigits base n, p c := by
  intro c hc
  obtain ⟨d, hd, rfl⟩ := exists_of_mem_toDigits hbase hc
  exact hdigit d hd

section

variable {base n : Nat} (hone : 1 < base) (hbase : base ≤ 16)
include hone hbase

/-- A numeral holds digits only. -/
theorem ne_of_mem_toDigits {c stranger : Char} (hstranger : digitValue? stranger = none)
    (h : c ∈ Nat.toDigits base n) : c ≠ stranger := by
  obtain ⟨d, hd, rfl⟩ := exists_of_mem_toDigits hone h
  rintro rfl
  rw [digitValue?_digitChar (by omega)] at hstranger
  cases hstranger

/-! ## Reading -/

theorem mapM_digit?_toDigits :
    ∃ digits, (Nat.toDigits base n).mapM (digit? base) = some digits ∧
      ofDigits base digits = n := by
  induction n using Nat.base_induction base hone with
  | single n hn =>
    refine ⟨[n], ?_, by simp [ofDigits]⟩
    simp [Nat.toDigits_of_lt_base hn, digit?_digitChar hbase hn]
  | digit n d hd hn ih =>
    obtain ⟨digits, hdigits, hvalue⟩ := ih
    refine ⟨digits ++ [d], ?_, ?_⟩
    · rw [← Nat.toDigits_append_toDigits hone hn hd, List.mapM_append, hdigits,
        Nat.toDigits_of_lt_base hd]
      simp [digit?_digitChar hbase hd]
    · rw [ofDigits] at hvalue ⊢
      rw [List.foldl_append, hvalue, List.foldl_cons, List.foldl_nil, Nat.mul_comm]

/-- **A numeral reads back as the number that it was written for.** -/
theorem natural?_toDigits : natural? base (Nat.toDigits base n) = some n := by
  obtain ⟨digits, hdigits, hvalue⟩ := mapM_digit?_toDigits (n := n) hone hbase
  rw [natural?, if_neg (by simp [Nat.toDigits_ne_nil]), hdigits, Option.map_some, hvalue]

/-- A numeral begins with a digit, so that no reader takes its first character for a sign. -/
theorem toDigits_ne_cons {stranger : Char} (hstranger : digitValue? stranger = none)
    (cs : List Char) : Nat.toDigits base n ≠ stranger :: cs := by
  intro h
  exact ne_of_mem_toDigits hone hbase hstranger (h ▸ List.mem_cons_self) rfl

theorem unsigned?_toDigits : unsigned? base (Nat.toDigits base n) = some n := by
  rw [unsigned?, natural?_toDigits hone hbase]
  exact toDigits_ne_cons hone hbase (by decide)

end

/-! ## Integers -/

/-- **An integer reads back as it was written.** -/
theorem integer?_decimal (n : Int) : integer? (decimal n) = some n := by
  have hread : natural? 10 (Nat.toDigits 10 n.natAbs) = some n.natAbs :=
    natural?_toDigits (by decide) (by decide)
  rcases Int.lt_or_le n 0 with hneg | hnonneg
  · rw [decimal, if_pos hneg, integer?, hread, Option.map_some, Int.ofNat_eq_natCast]
    exact congrArg some (by omega)
  · rw [decimal, if_neg (by omega), integer?, hread, Option.map_some, Int.ofNat_eq_natCast]
    · exact congrArg some (by omega)
    all_goals exact toDigits_ne_cons (by decide) (by decide) (by decide)

/-- What holds of a minus and of every digit holds of all characters of an integer. -/
theorem forall_mem_decimal {p : Char → Prop} (hminus : p '-')
    (hdigit : ∀ d, d < 10 → p d.digitChar) (n : Int) : ∀ c ∈ decimal n, p c := by
  have hdigits := forall_mem_toDigits (by decide) hdigit n.natAbs
  rw [decimal]
  split
  · exact List.forall_mem_cons.2 ⟨hminus, hdigits⟩
  · exact hdigits

end Text
end TaggedWords

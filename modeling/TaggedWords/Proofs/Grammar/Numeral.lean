import Mathlib.Data.List.Forall2
import Mathlib.Data.Nat.Digits.Defs
import TaggedWords.Proofs.Numeral

/-!
# What a numeral is

The readers of numerals go through the characters and keep a value as they go.  Here the numerals
are described without a reader: which characters are digits, what a row of them is worth, and where
a sign may stand.  Each reader accepts what is described and nothing else, whatever its length.

* `IsDigit`, `Natural`, `Unsigned`, `Integer` — digits, rows of digits, and rows behind a sign.
* `natural?_eq_some_iff`, `unsigned?_eq_some_iff`, `integer?_eq_some_iff` — the readers.
-/

set_option autoImplicit false

namespace TaggedWords
namespace Text

/-! ## Numerals -/

/-- The character is the digit `d` of the base, in either case.  Bases go up to sixteen. -/
def IsDigit (base : Nat) (c : Char) (d : Nat) : Prop :=
  d < base ∧ (c = d.digitChar ∨ c = d.digitChar.toUpper)

/-- The text is one or more digits of the base, the most significant one first, worth `n`. -/
def Natural (base : Nat) (cs : List Char) (n : Nat) : Prop :=
  cs ≠ [] ∧ ∃ digits, List.Forall₂ (IsDigit base) cs digits ∧ Nat.ofDigits base digits.reverse = n

/-- The text is digits of the base, perhaps behind a plus. -/
inductive Unsigned (base : Nat) : List Char → Nat → Prop
  | bare {cs : List Char} {n : Nat} (h : Natural base cs n) : Unsigned base cs n
  | plus {cs : List Char} {n : Nat} (h : Natural base cs n) : Unsigned base ('+' :: cs) n

/-- The text is decimal digits, perhaps behind a sign. -/
inductive Integer : List Char → Int → Prop
  | bare {cs : List Char} {n : Nat} (h : Natural 10 cs n) : Integer cs n
  | plus {cs : List Char} {n : Nat} (h : Natural 10 cs n) : Integer ('+' :: cs) n
  | minus {cs : List Char} {n : Nat} (h : Natural 10 cs n) : Integer ('-' :: cs) (-n)

/-! ## Digits -/

instance (base : Nat) (c : Char) (d : Nat) : Decidable (IsDigit base c d) :=
  inferInstanceAs (Decidable (_ ∧ _))

/-- In a range of digits each character is the digit that its distance from the first one says. -/
theorem isDigit_of_mem_range {first last c : Char} (value : Nat → Nat)
    (hdigit : ∀ k ≤ last.toNat - first.toNat, IsDigit 16 (Char.ofNat (first.toNat + k)) (value k))
    (h : first ≤ c ∧ c ≤ last) : IsDigit 16 c (value (c.toNat - first.toNat)) := by
  have hfirst : first.toNat ≤ c.toNat := h.1
  have hlast : c.toNat ≤ last.toNat := h.2
  have hc := hdigit (c.toNat - first.toNat) (by omega)
  rwa [Nat.add_sub_cancel' hfirst, Char.ofNat_toNat] at hc

theorem digitValue?_eq_some_iff {c : Char} {d : Nat} : digitValue? c = some d ↔ IsDigit 16 c d := by
  constructor
  · intro h
    rw [digitValue?] at h
    split at h
    · rename_i hrange
      exact Option.some.inj h ▸ isDigit_of_mem_range (fun k => k) (by decide) hrange
    split at h
    · rename_i hrange
      exact Option.some.inj h ▸ isDigit_of_mem_range (fun k => 10 + k) (by decide) hrange
    split at h
    · rename_i hrange
      exact Option.some.inj h ▸ isDigit_of_mem_range (fun k => 10 + k) (by decide) hrange
    · cases h
  · have hread : ∀ d < 16, digitValue? d.digitChar = some d ∧
      digitValue? d.digitChar.toUpper = some d := by decide
    rintro ⟨hd, rfl | rfl⟩
    · exact (hread d hd).1
    · exact (hread d hd).2

/-- **A character is read as a digit exactly if it is one.** -/
theorem digit?_eq_some_iff {base : Nat} (hbase : base ≤ 16) {c : Char} {d : Nat} :
    digit? base c = some d ↔ IsDigit base c d := by
  rw [digit?, Option.filter_eq_some_iff, digitValue?_eq_some_iff, decide_eq_true_iff]
  constructor
  · rintro ⟨⟨-, hc⟩, hd⟩
    exact ⟨hd, hc⟩
  · rintro ⟨hd, hc⟩
    exact ⟨⟨by omega, hc⟩, hd⟩

/-! ## Rows of digits -/

theorem mapM_eq_some_iff {α β : Type} {f : α → Option β} {xs : List α} {ys : List β} :
    xs.mapM f = some ys ↔ List.Forall₂ (fun x y => f x = some y) xs ys := by
  induction xs generalizing ys with
  | nil => simp [eq_comm]
  | cons x xs ih =>
    rw [List.mapM_cons, List.forall₂_cons_left_iff]
    simp only [Option.bind_eq_bind, Option.pure_def, Option.bind_eq_some_iff, Option.some.injEq]
    constructor
    · rintro ⟨y, hy, ys, hys, rfl⟩
      exact ⟨y, ys, hy, ih.1 hys, rfl⟩
    · rintro ⟨y, ys, hy, hys, rfl⟩
      exact ⟨y, hy, ys, ih.2 hys, rfl⟩

/-- The value that is kept while reading is the value of the digits by their places. -/
theorem ofDigits_eq (base : Nat) (digits : List Nat) :
    ofDigits base digits = Nat.ofDigits base digits.reverse := by
  rw [Nat.ofDigits_eq_foldr, List.foldr_reverse, ofDigits]
  simp only [Nat.cast_id, Nat.mul_comm base, Nat.add_comm]

section Readers

variable {base : Nat} (hbase : base ≤ 16)
include hbase

/-- **Digits are read with their value**, and nothing else is read as digits. -/
theorem natural?_eq_some_iff {cs : List Char} {n : Nat} :
    natural? base cs = some n ↔ Natural base cs n := by
  have hdigit : (fun c d => digit? base c = some d) = IsDigit base := by
    funext c d
    exact propext (digit?_eq_some_iff hbase)
  rw [natural?, Natural]
  cases cs with
  | nil => simp
  | cons c cs =>
    rw [List.isEmpty_cons, if_neg Bool.false_ne_true, Option.map_eq_some_iff]
    simp only [mapM_eq_some_iff, hdigit, ofDigits_eq]
    exact ⟨fun h => ⟨List.cons_ne_nil c cs, h⟩, And.right⟩

/-- A numeral begins with a digit. -/
theorem Natural.ne_cons {cs : List Char} {n : Nat} (h : Natural base cs n) {stranger : Char}
    (hstranger : digitValue? stranger = none) (rest : List Char) : cs ≠ stranger :: rest := by
  rintro rfl
  obtain ⟨-, digits, hdigits, -⟩ := h
  obtain ⟨d, rest', hd, -⟩ := List.forall₂_cons_left_iff.1 hdigits
  have hread := (digit?_eq_some_iff hbase).2 hd
  rw [digit?, hstranger] at hread
  cases hread

theorem unsigned?_eq_some_iff {cs : List Char} {n : Nat} :
    unsigned? base cs = some n ↔ Unsigned base cs n := by
  constructor
  · intro h
    unfold unsigned? at h
    split at h
    · exact .plus ((natural?_eq_some_iff hbase).1 h)
    · exact .bare ((natural?_eq_some_iff hbase).1 h)
  · intro h
    cases h with
    | plus h => exact (natural?_eq_some_iff hbase).2 h
    | bare h =>
      rw [unsigned?, (natural?_eq_some_iff hbase).2 h]
      exact h.ne_cons hbase (by decide)

end Readers

/-- A zero in front does not change the value. -/
theorem Natural.cons_zero {base : Nat} (hbase : 0 < base) {cs : List Char} {n : Nat}
    (h : Natural base cs n) : Natural base ('0' :: cs) n := by
  obtain ⟨-, digits, hdigits, hvalue⟩ := h
  refine ⟨List.cons_ne_nil _ _, 0 :: digits, .cons ⟨hbase, .inl rfl⟩ hdigits, ?_⟩
  rw [List.reverse_cons, Nat.ofDigits_append_zero, hvalue]

/-- **Integers are read with their value**, and nothing else is read as an integer. -/
theorem integer?_eq_some_iff {cs : List Char} {n : Int} :
    integer? cs = some n ↔ Integer cs n := by
  have hread : ∀ {cs : List Char} {n : Nat}, natural? 10 cs = some n ↔ Natural 10 cs n :=
    natural?_eq_some_iff (by decide)
  constructor
  · intro h
    unfold integer? at h
    split at h
    all_goals
      obtain ⟨m, hm, rfl⟩ := Option.map_eq_some_iff.1 h
    · exact .plus (hread.1 hm)
    · exact .minus (hread.1 hm)
    · exact .bare (hread.1 hm)
  · intro h
    cases h with
    | plus h => rw [integer?, hread.2 h]; rfl
    | minus h => rw [integer?, hread.2 h]; rfl
    | bare h =>
      rw [integer?, hread.2 h]
      · rfl
      all_goals exact h.ne_cons (by decide) (by decide)

/-! ## The characters of a numeral -/

section Characters

variable {base : Nat} {p : Char → Prop}
  (hdigit : ∀ d < base, p d.digitChar ∧ p d.digitChar.toUpper)

include hdigit in
/-- What holds of every digit in either case holds of all characters of a numeral. -/
theorem Natural.forall_mem {cs : List Char} {n : Nat} (h : Natural base cs n) : ∀ c ∈ cs, p c := by
  obtain ⟨-, digits, hdigits, -⟩ := h
  have hall : List.Forall₂ (fun c d => p c ∧ IsDigit base c d) cs digits := by
    refine hdigits.imp fun c d hc => ⟨?_, hc⟩
    obtain ⟨hd, rfl | rfl⟩ := hc
    · exact (hdigit d hd).1
    · exact (hdigit d hd).2
  exact ((List.forall₂_and_left cs digits).1 hall).1

include hdigit in
theorem Unsigned.forall_mem (hplus : p '+') {cs : List Char} {n : Nat} (h : Unsigned base cs n) :
    ∀ c ∈ cs, p c := by
  cases h with
  | bare h => exact h.forall_mem hdigit
  | plus h => exact List.forall_mem_cons.2 ⟨hplus, h.forall_mem hdigit⟩

end Characters

theorem Integer.forall_mem {p : Char → Prop}
    (hdigit : ∀ d < 10, p d.digitChar ∧ p d.digitChar.toUpper) (hplus : p '+') (hminus : p '-')
    {cs : List Char} {n : Int} (h : Integer cs n) : ∀ c ∈ cs, p c := by
  cases h with
  | bare h => exact h.forall_mem hdigit
  | plus h => exact List.forall_mem_cons.2 ⟨hplus, h.forall_mem hdigit⟩
  | minus h => exact List.forall_mem_cons.2 ⟨hminus, h.forall_mem hdigit⟩

/-- An integer begins with a sign or a digit. -/
theorem Integer.ne_cons {cs : List Char} {n : Int} (h : Integer cs n) {stranger : Char}
    (hstranger : digitValue? stranger = none) (hsign : stranger ∉ ['+', '-'])
    (rest : List Char) : cs ≠ stranger :: rest := by
  cases h with
  | bare h => exact h.ne_cons (by decide) hstranger rest
  | plus | minus =>
    rintro hcons
    obtain ⟨rfl, -⟩ := List.cons.inj hcons
    simp at hsign

/-- Behind a minus there are digits. -/
theorem Integer.exists_natural_of_minus {cs : List Char} {n : Int} (h : Integer ('-' :: cs) n) :
    ∃ m, Natural 10 cs m := by
  cases h with
  | bare h => exact absurd rfl (h.ne_cons (by decide) (by decide) cs)
  | minus h => exact ⟨_, h⟩

end Text
end TaggedWords

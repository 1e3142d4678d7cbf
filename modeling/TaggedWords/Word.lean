import TaggedWords.Text.Numeral

/-!
# Machine words

A word is what a compiled program hands back: a pattern of 64 bits, as wide as a general purpose
register.  It is read as a pattern when it is shown in hexadecimal and as a two's complement
integer when it is shown in decimal.

* `Word.hex`, `Word.decimal` — the two written forms.
* `Word.ofInt?`, `Word.ofPattern?` — the word with a given signed value or a given pattern, for
  numbers that 64 bits can hold.
-/

set_option autoImplicit false

namespace TaggedWords

/-- A pattern of 64 bits.  Its signed value is `BitVec.toInt`. -/
abbrev Word := BitVec 64

namespace Word

/-- The pattern in hexadecimal, without leading zeros. -/
def hex (w : Word) : String :=
  String.ofList ('0' :: 'x' :: Nat.toDigits 16 w.toNat)

/-- The signed value in base ten. -/
def decimal (w : Word) : String :=
  String.ofList (Text.decimal w.toInt)

/-- The word whose signed value is `n`. -/
def ofInt? (n : Int) : Option Word :=
  if -0x8000_0000_0000_0000 ≤ n ∧ n < 0x8000_0000_0000_0000 then some (BitVec.ofInt 64 n)
  else none

/-- The word whose pattern, read as a natural number, is `n`. -/
def ofPattern? (n : Nat) : Option Word :=
  if n < 0x1_0000_0000_0000_0000 then some (BitVec.ofNat 64 n) else none

theorem toInt_of_ofInt? {n : Int} {w : Word} (h : ofInt? n = some w) : w.toInt = n := by
  unfold ofInt? at h
  split at h
  · rename_i hn
    obtain rfl := Option.some.inj h
    exact BitVec.toInt_ofInt_eq_self (by decide) (by omega) (by omega)
  · simp at h

theorem toNat_of_ofPattern? {n : Nat} {w : Word} (h : ofPattern? n = some w) : w.toNat = n := by
  unfold ofPattern? at h
  split at h
  · rename_i hn
    obtain rfl := Option.some.inj h
    simpa using Nat.mod_eq_of_lt hn
  · simp at h

end Word
end TaggedWords

/-!
# Numerals

Positional numerals in any base up to sixteen, read and written over lists of characters.  The
digits above nine are the letters from `a` to `f`; either case is read and the small letters are
written.

* `natural?`, `unsigned?`, `integer?` — reading: bare digits, digits after an optional plus, and
  decimal digits after an optional sign.  A numeral needs at least one digit and may be of any
  length; bounds are for the caller to check.
* `decimal` — an integer in base ten; unsigned digits come from `Nat.toDigits`.
-/

set_option autoImplicit false

namespace TaggedWords
namespace Text

/-! ## Reading -/

/-- The value of a hexadecimal digit of either case. -/
def digitValue? (c : Char) : Option Nat :=
  if '0' ≤ c ∧ c ≤ '9' then some (c.toNat - '0'.toNat)
  else if 'a' ≤ c ∧ c ≤ 'f' then some (10 + (c.toNat - 'a'.toNat))
  else if 'A' ≤ c ∧ c ≤ 'F' then some (10 + (c.toNat - 'A'.toNat))
  else none

/-- The value of a character as a digit of the given base. -/
def digit? (base : Nat) (c : Char) : Option Nat :=
  (digitValue? c).filter (· < base)

/-- The number that the digits spell, the most significant one first. -/
def ofDigits (base : Nat) (digits : List Nat) : Nat :=
  digits.foldl (fun value digit => value * base + digit) 0

/-- Reads one or more digits of the given base. -/
def natural? (base : Nat) (cs : List Char) : Option Nat :=
  if cs.isEmpty then none else (cs.mapM (digit? base)).map (ofDigits base)

/-- Reads digits of the given base that may follow a plus. -/
def unsigned? (base : Nat) (cs : List Char) : Option Nat :=
  match cs with
  | '+' :: digits => natural? base digits
  | digits => natural? base digits

/-- Reads decimal digits that may follow a sign. -/
def integer? (cs : List Char) : Option Int :=
  match cs with
  | '+' :: digits => (natural? 10 digits).map Int.ofNat
  | '-' :: digits => (natural? 10 digits).map fun n => -Int.ofNat n
  | digits => (natural? 10 digits).map Int.ofNat

/-! ## Writing -/

/-- Writes an integer in base ten, with a minus if it is negative. -/
def decimal (n : Int) : List Char :=
  if n < 0 then '-' :: Nat.toDigits 10 n.natAbs else Nat.toDigits 10 n.natAbs

end Text
end TaggedWords

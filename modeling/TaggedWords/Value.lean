import TaggedWords.Failure
import TaggedWords.Text.Encoding

/-!
# Immediate values

The values that fit into a word: integers of 62 bits, characters of one byte, and booleans.

* `Fixnum` — an integer together with the proof that it is in range; `Fixnum.ofInt` is the way to
  make one.
* `Value.kind` — the name of a value's type.
* `Value.display`, `Value.bytes` — the printed form, as text and as the bytes that a program
  prints.  The two differ for characters above 127, which are printed as the one byte that they
  are and not as UTF-8.
* `Value.order?` — integers are ordered and nothing else is.
-/

set_option autoImplicit false

namespace TaggedWords

/-! ## Integers -/

/-- An integer that fits into a word beside its tag. -/
structure Fixnum where
  /-- The integer. -/
  val : Int
  /-- It is not below the range. -/
  least_le : -0x2000_0000_0000_0000 ≤ val
  /-- It is not above the range. -/
  lt_bound : val < 0x2000_0000_0000_0000
deriving DecidableEq, Repr

namespace Fixnum

/-- The least fixnum. -/
def least : Fixnum := ⟨-0x2000_0000_0000_0000, by decide, by decide⟩

/-- The greatest fixnum. -/
def greatest : Fixnum := ⟨0x1FFF_FFFF_FFFF_FFFF, by decide, by decide⟩

/-- The fixnum with the given value, refusing integers out of range. -/
def ofInt (n : Int) : Except Failure Fixnum :=
  if h : -0x2000_0000_0000_0000 ≤ n ∧ n < 0x2000_0000_0000_0000 then .ok ⟨n, h.1, h.2⟩
  else .error (.fixnumOverflow n)

@[ext] theorem ext {m n : Fixnum} (h : m.val = n.val) : m = n := by
  cases m; cases n; congr

end Fixnum

/-! ## Values -/

/-- A value that a word can hold by itself. -/
inductive Value where
  | integer (n : Fixnum)
  | char (code : UInt8)
  | boolean (b : Bool)
deriving DecidableEq, Repr

namespace Value

/-- The name of the value's type. -/
def kind : Value → String
  | integer _ => "integer"
  | char _ => "char"
  | boolean _ => "boolean"

/-- The printed form as text. -/
def display : Value → String
  | integer n => String.ofList (Text.decimal n.val)
  | char code => String.ofList ['#', '\\', Char.ofUInt8 code]
  | boolean true => "#t"
  | boolean false => "#f"

/-- The printed form as bytes. -/
def bytes : Value → List UInt8
  | char code => Text.utf8 "#\\" ++ [code]
  | v => Text.utf8 v.display

/-- The line that a program prints: the printed form and a line feed. -/
def line (v : Value) : List UInt8 :=
  v.bytes ++ Text.utf8 "\n"

/-- How two integers compare; other values are not ordered. -/
def order? : Value → Value → Option Ordering
  | integer m, integer n => some (compare m.val n.val)
  | _, _ => none

end Value
end TaggedWords

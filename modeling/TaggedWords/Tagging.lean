import TaggedWords.Value

/-!
# Values in words

How a value is laid out in a word, and how a word is read back.

* `Value.word` — the word that holds a value.
* `Word.fixnum`, `Word.charCode`, `Word.truth` — the payloads of a word.  Each is read whatever
  the tag says, and means something only if the word passes the test of that layout.
* `Word.classify` — the value that a word holds.  Stray bits beyond the payload do not matter, so
  many words may hold the same character or boolean; `Value.word` gives the one without stray bits.
-/

set_option autoImplicit false

namespace TaggedWords

/-! ## Laying values out -/

/-- The word that holds an integer. -/
def Fixnum.word (n : Fixnum) : Word :=
  BitVec.ofInt 64 n.val <<< Layout.fixnum.shift ||| Layout.fixnum.tag

/-- The word that holds a value. -/
def Value.word : Value → Word
  | integer n => n.word
  | char code => code.toBitVec.setWidth 64 <<< Layout.char.shift ||| Layout.char.tag
  | boolean b => (BitVec.ofBool b).setWidth 64 <<< Layout.boolean.shift ||| Layout.boolean.tag

/-! ## Reading words back -/

namespace Word

/-- The payload of a word as an integer.  The shift keeps the sign. -/
def fixnum (w : Word) : Fixnum where
  val := (w.sshiftRight Layout.fixnum.shift).toInt
  least_le := by
    have h := BitVec.le_toInt w
    rw [BitVec.toInt_sshiftRight, Int.shiftRight_eq_div_pow]
    simp only [Layout.fixnum]
    omega
  lt_bound := by
    have h := BitVec.toInt_lt (x := w)
    rw [BitVec.toInt_sshiftRight, Int.shiftRight_eq_div_pow]
    simp only [Layout.fixnum]
    omega

/-- The payload of a word as a character: one byte. -/
def charCode (w : Word) : UInt8 :=
  UInt8.ofBitVec ((w.sshiftRight Layout.char.shift).setWidth 8)

/-- The payload of a word as a boolean: whether any bit of it is set. -/
def truth (w : Word) : Bool :=
  w.sshiftRight Layout.boolean.shift != 0

/-- The value that a word holds, or what it is instead. -/
def classify (w : Word) : Except DecodeError Value :=
  if Layout.fixnum.passes w then .ok (.integer w.fixnum)
  else if Layout.char.passes w then .ok (.char w.charCode)
  else if Layout.boolean.passes w then .ok (.boolean w.truth)
  else
    match HeapKind.ofWord? w with
    | some kind => .error (.reservedTag w kind)
    | none => .error (.unknownTag w)

end Word

/-! ## Comparing words -/

/-- How the values of two words relate. -/
structure Comparison where
  /-- Whether they are the same value. -/
  equal : Bool
  /-- How they are ordered, if they are. -/
  order : Option Ordering
deriving DecidableEq, Repr

/-- Compares the values of two words.  If neither holds a value, the first is at fault. -/
def Word.compareValues (a b : Word) : Except DecodeError Comparison := do
  let x ← a.classify
  let y ← b.classify
  return { equal := x == y, order := x.order? y }

end TaggedWords

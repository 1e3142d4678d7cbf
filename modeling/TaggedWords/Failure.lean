import TaggedWords.Layout
import TaggedWords.Sink

/-!
# What can go wrong

Failures are kept as causes, with the word, number or text at fault.  Their wording is one
function each: a message, a code that programs can look for, and advice where there is some.

* `DecodeError` — why a word holds no immediate value.
* `Failure` — why a request was not answered.
-/

set_option autoImplicit false

namespace TaggedWords

/-- Why a word holds no immediate value. -/
inductive DecodeError where
  /-- The word points to a heap object. -/
  | reservedTag (word : Word) (kind : HeapKind)
  /-- The word passes no test at all. -/
  | unknownTag (word : Word)
deriving DecidableEq, Repr

/-- Why a request was not answered. -/
inductive Failure where
  /-- A word did not decode. -/
  | decode (error : DecodeError)
  /-- An integer lies outside the range of fixnums. -/
  | fixnumOverflow (n : Int)
  /-- A text writes no word. -/
  | invalidWord (text : String)
  /-- A text writes no value. -/
  | invalidLiteral (text : String)
  /-- The answer could not be delivered. -/
  | undelivered (fault : Sink.Fault)
deriving DecidableEq, Repr

/-! ## Wording -/

namespace DecodeError

/-- What happened, in a sentence. -/
def message : DecodeError → String
  | reservedTag word kind =>
    "word " ++ word.hex ++ " carries the " ++ kind.name ++
      " tag, which is not an immediate value"
  | unknownTag word => "word " ++ word.hex ++ " matches no immediate tag"

/-- The code of the failure. -/
def code : DecodeError → String
  | reservedTag _ _ => "pasquim::decode::reserved_tag"
  | unknownTag _ => "pasquim::decode::unknown_tag"

/-- What would have been right. -/
def help : DecodeError → String
  | reservedTag _ _ => "heap objects have no representation in this runtime"
  | unknownTag _ =>
    "expected a fixnum (low bits 00), a char (low byte 0x07) or a boolean (low byte 0x0f)"

end DecodeError

namespace Failure

/-- What happened, in a sentence. -/
def message : Failure → String
  | decode error => error.message
  | fixnumOverflow n =>
    "integer " ++ String.ofList (Text.decimal n) ++ " does not fit in a fixnum"
  | invalidWord text => "invalid word '" ++ text ++ "'"
  | invalidLiteral text => "invalid literal '" ++ text ++ "'"
  | undelivered _ => "cannot write the value"

/-- The code of the failure. -/
def code : Failure → String
  | decode error => error.code
  | fixnumOverflow _ => "pasquim::encode::fixnum_overflow"
  | invalidWord _ => "pasquim::parse::word"
  | invalidLiteral _ => "pasquim::parse::literal"
  | undelivered _ => "pasquim::io"

/-- What would have been right, if there is advice to give. -/
def help : Failure → Option String
  | decode error => some error.help
  | fixnumOverflow _ => none
  | invalidWord _ => some "write the word in decimal, or with a 0x or 0b prefix"
  | invalidLiteral _ => some "expected an integer, a character like #\\A, #t or #f"
  | undelivered _ => none

/-- The wording of the fault that lies beneath the failure, if there is one. -/
def source : Failure → Option String
  | undelivered fault => some fault.message
  | _ => none

end Failure
end TaggedWords

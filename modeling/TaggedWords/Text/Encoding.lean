/-!
# Texts as bytes

Two encodings are in use.  Text goes out as UTF-8.  A character of the language is a single byte,
and its meaning as text is the Latin-1 one: byte `n` is the character with code point `n`.
-/

set_option autoImplicit false

namespace TaggedWords
namespace Text

/-- The UTF-8 bytes of a text. -/
def utf8 (text : String) : List UInt8 :=
  text.toList.flatMap String.utf8EncodeChar

theorem utf8_append (s t : String) : utf8 (s ++ t) = utf8 s ++ utf8 t := by
  simp [utf8]

/-- How many bytes characters take as UTF-8. -/
def byteSize (cs : List Char) : Nat :=
  (cs.flatMap String.utf8EncodeChar).length

theorem byteSize_nil : byteSize [] = 0 := rfl

theorem byteSize_cons (c : Char) (cs : List Char) :
    byteSize (c :: cs) = c.utf8Size + byteSize cs := by
  simp [byteSize, String.length_utf8EncodeChar]

theorem byteSize_append (cs ds : List Char) : byteSize (cs ++ ds) = byteSize cs + byteSize ds := by
  simp [byteSize]

/-- Every character takes a byte at least. -/
theorem byteSize_eq_zero_iff {cs : List Char} : byteSize cs = 0 ↔ cs = [] := by
  cases cs with
  | nil => exact iff_of_true rfl rfl
  | cons c cs =>
    have hpos := c.utf8Size_pos
    rw [byteSize_cons]
    exact iff_of_false (by omega) (List.cons_ne_nil c cs)

theorem byteSize_reverse (cs : List Char) : byteSize cs.reverse = byteSize cs := by
  simp [byteSize, List.length_flatMap]

/-- The text whose characters have the given bytes as code points. -/
def ofLatin1 (bytes : List UInt8) : String :=
  String.ofList (bytes.map Char.ofUInt8)

/-- The byte that stands for a character, if its code point fits one. -/
def latin1? (c : Char) : Option UInt8 :=
  if c.toNat < 256 then some (UInt8.ofNat c.toNat) else none

theorem latin1?_eq_some_iff {c : Char} {byte : UInt8} :
    latin1? c = some byte ↔ c.toNat = byte.toNat := by
  have hbyte := byte.toNat_lt
  rw [latin1?]
  split
  · rename_i hc
    rw [Option.some.injEq, ← UInt8.toNat_inj, UInt8.toNat_ofNat', Nat.mod_eq_of_lt hc]
  · exact iff_of_false (by simp) (by omega)

theorem latin1?_eq_none_iff {c : Char} : latin1? c = none ↔ 255 < c.toNat := by
  rw [latin1?]
  split
  · exact iff_of_false (by simp) (by omega)
  · exact iff_of_true rfl (by omega)

theorem latin1?_ofUInt8 (byte : UInt8) : latin1? (Char.ofUInt8 byte) = some byte :=
  latin1?_eq_some_iff.2 rfl

end Text
end TaggedWords

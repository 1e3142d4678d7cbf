import TaggedWords.Proofs.Numeral
import TaggedWords.Value

/-!
# The two printed forms of a value

A value is printed as text where people ask for it and as bytes where a program prints it.  Below
code point 128 the two encodings in use agree, so that the forms differ for some characters only.

* `ofLatin1_utf8` — a text of small code points is one byte a character, whichever way it is
  encoded.
* `Value.ofLatin1_line` — the bytes that a program prints, read byte by byte, are the text.
* `Value.utf8_display_eq_bytes_iff` — the bytes are the UTF-8 form of the text unless the value is
  a character above 127.
-/

set_option autoImplicit false

namespace TaggedWords
namespace Text

/-! ## Small code points -/

theorem utf8Size_eq_one_iff_toNat_lt {c : Char} : c.utf8Size = 1 ↔ c.toNat < 128 := by
  have hval : c.val.toNat = c.toNat := rfl
  have hbound : (127 : UInt32).toNat = 127 := rfl
  rw [Char.utf8Size_eq_one_iff, UInt32.le_iff_toNat_le]
  omega

theorem utf8EncodeChar_of_lt {c : Char} (h : c.toNat < 128) :
    String.utf8EncodeChar c = [UInt8.ofNat c.toNat] := by
  rw [String.utf8EncodeChar_eq_singleton (utf8Size_eq_one_iff_toNat_lt.2 h)]
  rfl

theorem ofUInt8_ofNat_toNat {c : Char} (h : c.toNat < 128) :
    Char.ofUInt8 (UInt8.ofNat c.toNat) = c := by
  have htoNat : (Char.ofUInt8 (UInt8.ofNat c.toNat)).toNat = c.toNat := by
    show (UInt8.ofNat c.toNat).toNat = c.toNat
    rw [UInt8.toNat_ofNat']
    omega
  exact Char.toNat_inj.1 htoNat

theorem ofUInt8_inj {code code' : UInt8} (h : Char.ofUInt8 code = Char.ofUInt8 code') :
    code = code' := by
  have hread := congrArg latin1? h
  rw [latin1?_ofUInt8, latin1?_ofUInt8] at hread
  exact Option.some.inj hread

/-- **Small code points are encoded alike.** -/
theorem ofLatin1_utf8 {text : String} (h : ∀ c ∈ text.toList, c.toNat < 128) :
    ofLatin1 (utf8 text) = text := by
  have hbytes : ∀ cs : List Char, (∀ c ∈ cs, c.toNat < 128) →
      (cs.flatMap String.utf8EncodeChar).map Char.ofUInt8 = cs := by
    intro cs
    induction cs with
    | nil => intro _; rfl
    | cons c cs ih =>
      intro hcs
      rw [List.forall_mem_cons] at hcs
      rw [List.flatMap_cons, utf8EncodeChar_of_lt hcs.1, List.map_append, ih hcs.2,
        List.map_singleton, ofUInt8_ofNat_toNat hcs.1, List.singleton_append]
  rw [ofLatin1, utf8, hbytes text.toList h, String.ofList_toList]

theorem ofLatin1_append (xs ys : List UInt8) :
    ofLatin1 (xs ++ ys) = ofLatin1 xs ++ ofLatin1 ys := by
  rw [ofLatin1, List.map_append, String.ofList_append]
  rfl

end Text

namespace Value

open Text

/-! ## Text and bytes -/

/-- What is no character is printed in signs that can be seen. -/
theorem visible_of_mem_display {v : Value} (hv : ∀ code, v ≠ .char code) :
    ∀ c ∈ v.display.toList, 32 < c.toNat ∧ c.toNat < 127 := by
  cases v with
  | integer n =>
    rw [display, String.toList_ofList]
    exact forall_mem_decimal (by decide) (by decide) n.val
  | char code => exact absurd rfl (hv code)
  | boolean b => cases b <;> simp [display]

/-- The only control character in the printed form of a value is the value. -/
theorem control_not_mem_display {v : Value} {code : UInt8} (hcode : code.toNat < 32)
    (hv : v ≠ .char code) : Char.ofUInt8 code ∉ v.display.toList := by
  have hcontrol : (Char.ofUInt8 code).toNat < 32 := hcode
  intro hmem
  by_cases hchar : ∀ code', v ≠ .char code'
  · obtain ⟨hvisible, -⟩ := visible_of_mem_display hchar _ hmem
    omega
  · obtain ⟨code', rfl⟩ : ∃ code', v = .char code' := by simpa using hchar
    rw [display, String.toList_ofList, List.mem_cons, List.mem_cons,
      List.mem_singleton] at hmem
    rcases hmem with hsign | hsign | hsame
    · exact absurd (hsign ▸ hcontrol) (by decide)
    · exact absurd (hsign ▸ hcontrol) (by decide)
    · exact hv (congrArg char (ofUInt8_inj hsame).symm)

theorem toNat_lt_of_mem_display {v : Value} (hv : ∀ code, v ≠ .char code) :
    ∀ c ∈ v.display.toList, c.toNat < 128 := by
  intro c hc
  obtain ⟨-, hlt⟩ := visible_of_mem_display hv c hc
  omega

theorem bytes_eq_utf8 {v : Value} (hv : ∀ code, v ≠ .char code) : v.bytes = utf8 v.display := by
  cases v with
  | integer n => rfl
  | char code => exact absurd rfl (hv code)
  | boolean b => rfl

/-- **The bytes of a value are its text**, one byte for each character. -/
theorem ofLatin1_bytes (v : Value) : ofLatin1 v.bytes = v.display := by
  by_cases hv : ∀ code, v ≠ .char code
  · rw [bytes_eq_utf8 hv, ofLatin1_utf8 (toNat_lt_of_mem_display hv)]
  · obtain ⟨code, rfl⟩ : ∃ code, v = .char code := by simpa using hv
    rfl

theorem ofLatin1_line (v : Value) : ofLatin1 v.line = v.display ++ "\n" := by
  rw [line, ofLatin1_append, ofLatin1_bytes, ofLatin1_utf8 (by simp)]

/-- **Only characters above 127 are printed in two ways.** -/
theorem utf8_display_eq_bytes_iff (v : Value) :
    utf8 v.display = v.bytes ↔ ∀ code, v = .char code → code.toNat < 128 := by
  by_cases hv : ∀ code, v ≠ .char code
  · rw [bytes_eq_utf8 hv]
    exact iff_of_true rfl fun code h => absurd h (hv code)
  · obtain ⟨code, rfl⟩ : ∃ code, v = .char code := by simpa using hv
    have htoNat : (Char.ofUInt8 code).toNat = code.toNat := rfl
    have hdisplay : utf8 (char code).display =
        utf8 "#\\" ++ String.utf8EncodeChar (Char.ofUInt8 code) := by
      simp [display, utf8]
    rw [hdisplay, bytes, List.append_cancel_left_eq]
    constructor
    · -- A character above 127 takes two bytes, and the printed form has one.
      intro hbytes code' hcode
      cases hcode
      have hlength := congrArg List.length hbytes
      rw [String.length_utf8EncodeChar, List.length_singleton] at hlength
      exact htoNat ▸ utf8Size_eq_one_iff_toNat_lt.1 hlength
    · intro hsmall
      rw [utf8EncodeChar_of_lt (htoNat ▸ hsmall code rfl), htoNat, UInt8.ofNat_toNat]

theorem utf8_answer_eq_line_iff (v : Value) :
    utf8 (v.display ++ "\n") = v.line ↔ ∀ code, v = .char code → code.toNat < 128 := by
  rw [utf8_append, line, List.append_cancel_right_eq, utf8_display_eq_bytes_iff]

end Value
end TaggedWords

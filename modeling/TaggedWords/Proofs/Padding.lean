import TaggedWords.Proofs.Spelling

/-!
# Blanks around a text

Blanks around the spelling of a word never count.  Blanks in front of a literal never count
either, and those behind it count in one case: where a literal breaks off after `#\`, the blank
that is put there becomes the character.

* `Word.ofText_padded` — the word is the same.
* `Value.ofLiteral_append` — the literal is the same unless it breaks off, and if it does,
  `Value.ofLiteral_append_of_broken` says what becomes of it.
* `Value.ofLiteral_display_padded` — so the printed form of a value is read between any blanks, and
  a character that is a blank is not lost among them.
-/

set_option autoImplicit false

namespace TaggedWords

section

variable {before after : String} (hbefore : ∀ c ∈ before.toList, Text.isBlank c = true)
  (hafter : ∀ c ∈ after.toList, Text.isBlank c = true)

/-! ## Words -/

include hbefore hafter in
/-- **Blanks around a word do not count**, and they are not quoted when it is refused. -/
theorem Word.ofText_padded (text : String) :
    Word.ofText (before ++ text ++ after) = Word.ofText text := by
  refine Word.ofText_congr ?_
  rw [String.toList_append, String.toList_append, List.append_assoc,
    Text.trim_padded hbefore hafter]

/-! ## Literals -/

include hafter in
/-- Where something stands behind `#\`, blanks at the end do not change the character. -/
theorem spelledChar?_append {rest : List Char} (h : rest ≠ []) :
    spelledChar? (rest ++ after.toList) = spelledChar? rest := by
  rw [spelledChar?, spelledChar?, Text.trimEnd_append hafter, List.head?_append_of_ne_nil _ h]

namespace Value

include hbefore in
theorem ofLiteral_prepend (text : String) : ofLiteral (before ++ text) = ofLiteral text := by
  rw [ofLiteral, ofLiteral, String.toList_append, Text.trimStart_append hbefore]

include hafter in
/-- A backslash is no blank, so that blanks do not make a character of what was none. -/
theorem trimStart_append_ne_character {text : String}
    (h : ∀ rest, Text.trimStart text.toList ≠ '#' :: '\\' :: rest) (rest : List Char) :
    Text.trimStart (text ++ after).toList ≠ '#' :: '\\' :: rest := by
  rw [String.toList_append]
  rcases hstart : Text.trimStart text.toList with _ | ⟨c, _ | ⟨d, cs⟩⟩
  · rw [Text.trimStart_append_eq_nil hafter hstart]
    exact (List.cons_ne_nil _ _).symm
  · rw [Text.trimStart_append_of_ne_nil (by simp [hstart]), hstart]
    rw [List.singleton_append, Ne, List.cons.injEq, not_and]
    rintro - hcons
    rw [hcons] at hafter
    exact absurd (hafter '\\' List.mem_cons_self) (by decide)
  · rw [Text.trimStart_append_of_ne_nil (by simp [hstart]), hstart]
    rw [List.cons_append, List.cons_append, Ne, List.cons.injEq, List.cons.injEq]
    rintro ⟨rfl, rfl, -⟩
    exact h cs hstart

include hafter in
/-- **Blanks behind a literal do not count**, unless it breaks off after `#\`. -/
theorem ofLiteral_append {text : String} (h : Text.trimStart text.toList ≠ ['#', '\\']) :
    ofLiteral (text ++ after) = ofLiteral text := by
  by_cases hcharacter : ∃ rest, Text.trimStart text.toList = '#' :: '\\' :: rest
  · obtain ⟨rest, hstart⟩ := hcharacter
    have hrest : rest ≠ [] := by
      rintro rfl
      exact h hstart
    have hstart' : Text.trimStart (text ++ after).toList =
        '#' :: '\\' :: (rest ++ after.toList) := by
      rw [String.toList_append, Text.trimStart_append_of_ne_nil (by simp [hstart]), hstart]
      rfl
    rw [ofLiteral_character hstart, ofLiteral_character hstart', Text.trimEnd_append hafter,
      spelledChar?_append hafter hrest]
  · rw [not_exists] at hcharacter
    have hcharacter' := trimStart_append_ne_character hafter hcharacter
    have htrim : Text.trim (text ++ after).toList = Text.trim text.toList := by
      simpa using Text.trim_padded (List.forall_mem_nil _) hafter text.toList
    rw [ofLiteral_of_not_character hcharacter, ofLiteral_of_not_character hcharacter', htrim]

theorem ofLiteral_of_blank {text : String} (h : ∀ c ∈ text.toList, Text.isBlank c = true) :
    ofLiteral text = .error (.invalidLiteral "") := by
  rw [ofLiteral, Text.trimStart_eq_nil_iff.2 h]
  rfl

theorem ofLiteral_of_broken {text : String} (h : Text.trimStart text.toList = ['#', '\\']) :
    ofLiteral text = .error (.invalidLiteral "#\\") := by
  rw [ofLiteral_character h]
  rfl

include hafter in
/-- Where a literal breaks off after `#\`, the first blank behind it becomes the character. -/
theorem ofLiteral_append_of_broken {text : String} (h : Text.trimStart text.toList = ['#', '\\'])
    {c : Char} {rest : List Char} (hcons : after.toList = c :: rest) :
    ofLiteral (text ++ after) =
      (Text.latin1? c).elim (.error (.invalidLiteral "#\\")) fun code => .ok (.char code) := by
  have hstart : Text.trimStart (text ++ after).toList = '#' :: '\\' :: (c :: rest) := by
    rw [String.toList_append, Text.trimStart_append_of_ne_nil (by simp [h]), h, hcons]
    rfl
  rw [hcons] at hafter
  rw [ofLiteral_character hstart, spelledChar?_of_blank hafter, Text.trimEnd_eq_nil_iff.2 hafter]

/-! ## Printed values -/

/-- The codes of the characters that are blanks. -/
def blankCodes : List UInt8 := [0x09, 0x0A, 0x0B, 0x0C, 0x0D, 0x20, 0x85, 0xA0]

theorem isBlank_ofUInt8_iff {code : UInt8} :
    Text.isBlank (Char.ofUInt8 code) = true ↔ code ∈ blankCodes := by
  have htoNat : (Char.ofUInt8 code).toNat = code.toNat := rfl
  have hcode := code.toNat_lt
  simp only [Text.isBlank, Text.blankRanges, blankCodes, List.any_cons, List.any_nil, htoNat,
    Bool.or_eq_true, Bool.and_eq_true, decide_eq_true_iff, List.mem_cons, List.not_mem_nil,
    ← UInt8.toNat_inj]
  simp
  omega

/-- The printed form of a value does not break off. -/
theorem trimStart_display_ne (v : Value) : Text.trimStart v.display.toList ≠ ['#', '\\'] := by
  intro hbroken
  have hrefused := ofLiteral_of_broken hbroken
  rw [ofLiteral_display] at hrefused
  cases hrefused

include hbefore hafter in
/-- **The printed form of a value is read as the value between any blanks.**  This includes the
characters that are blanks themselves, although nothing is left of them where the text is
trimmed. -/
theorem ofLiteral_display_padded :
    (∀ v : Value, ofLiteral (before ++ v.display ++ after) = .ok v) ∧
    (∀ code : UInt8, Text.isBlank (Char.ofUInt8 code) = true ↔ code ∈ blankCodes) ∧
    ∀ code ∈ blankCodes,
      Text.trim (before ++ (char code).display ++ after).toList = ['#', '\\'] := by
  refine ⟨fun v => ?_, fun code => isBlank_ofUInt8_iff, fun code hcode => ?_⟩
  · rw [String.append_assoc, ofLiteral_prepend hbefore,
      ofLiteral_append hafter v.trimStart_display_ne, ofLiteral_display]
  · have hblank : ∀ c ∈ Char.ofUInt8 code :: after.toList, Text.isBlank c = true :=
      List.forall_mem_cons.2 ⟨isBlank_ofUInt8_iff.2 hcode, hafter⟩
    have htext : (before ++ (char code).display ++ after).toList =
        before.toList ++ (['#', '\\'] ++ Char.ofUInt8 code :: after.toList) := by
      simp [display]
    rw [htext, Text.trim_padded hbefore hblank]
    rfl

end Value
end

/-- A blank among blanks, and the least fixnum. -/
theorem Value.ofLiteral_display_padded_blank :
    (∀ c ∈ "\t\u2003".toList, Text.isBlank c = true) ∧
    (∀ c ∈ "\n\u00a0".toList, Text.isBlank c = true) ∧
    Value.ofLiteral "\t\u2003#\\\u0085\n\u00a0" = .ok (.char 0x85) ∧
    Value.ofLiteral "\t\u2003-2305843009213693952\n\u00a0" = .ok (.integer Fixnum.least) := by
  have hbefore : ∀ c ∈ "\t\u2003".toList, Text.isBlank c = true := List.all_eq_true.1 rfl
  have hafter : ∀ c ∈ "\n\u00a0".toList, Text.isBlank c = true := List.all_eq_true.1 rfl
  have hread := (Value.ofLiteral_display_padded hbefore hafter).1
  exact ⟨hbefore, hafter, hread (.char 0x85), hread (.integer Fixnum.least)⟩

end TaggedWords

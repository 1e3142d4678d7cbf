import TaggedWords.Proofs.Grammar.Word
import TaggedWords.Proofs.Padding

/-!
# Words written out

A word is shown as its pattern in hexadecimal and as its signed value in base ten, and people write
it in more ways than that: in binary, with capital letters, with a plus, with zeros in front, with
underscores anywhere and with blanks around.  This file lists the texts that write a word out and
shows that each of them is read as the word.

* `Text.Numeral` — the digits of a number, with zeros in front and letters of either case.
* `Text.Underscored` — a text with underscores put in.
* `Written`, `Written.exists_writes` — the texts that write a word out are in the grammar of words.
* `written_read_back` — they are read as the word, also with underscores in them and blanks around.
-/

set_option autoImplicit false

namespace TaggedWords

namespace Text

/-! ## Digits -/

/-- The character is the given one, or its capital letter. -/
def InEitherCase (c d : Char) : Prop :=
  c = d ∨ c = d.toUpper

/-- The text is the digits of `n`, with zeros in front and letters of either case. -/
def Numeral (base n : Nat) (cs : List Char) : Prop :=
  ∃ zeros digits, cs = List.replicate zeros '0' ++ digits ∧
    List.Forall₂ InEitherCase digits (Nat.toDigits base n)

theorem numeral_toDigits (base n : Nat) : Numeral base n (Nat.toDigits base n) :=
  ⟨0, Nat.toDigits base n, rfl, List.forall₂_same.2 fun _ _ => .inl rfl⟩

section

variable {base n d : Nat} {c c' : Char} {cs cs' : List Char}

/-- A capital letter is the same digit. -/
theorem IsDigit.of_inEitherCase (hbase : base ≤ 16) (h : IsDigit base c d)
    (hcase : InEitherCase c' c) : IsDigit base c' d := by
  have htwice : ∀ d < 16, d.digitChar.toUpper.toUpper = d.digitChar.toUpper := by decide
  obtain ⟨hd, hc⟩ := h
  refine ⟨hd, ?_⟩
  rcases hcase with rfl | rfl
  · exact hc
  · rcases hc with rfl | rfl
    · exact .inr rfl
    · exact .inr (htwice d (by omega))

theorem forall₂_isDigit_of_inEitherCase (hbase : base ≤ 16) {digits : List Nat}
    (hdigits : List.Forall₂ (IsDigit base) cs digits)
    (hcase : List.Forall₂ InEitherCase cs' cs) : List.Forall₂ (IsDigit base) cs' digits := by
  induction hcase generalizing digits with
  | nil => exact hdigits
  | cons hc _ ih =>
    obtain ⟨d, rest, hd, hrest, rfl⟩ := List.forall₂_cons_left_iff.1 hdigits
    exact .cons (hd.of_inEitherCase hbase hc) (ih hrest)

theorem Natural.of_inEitherCase (hbase : base ≤ 16) (h : Natural base cs n)
    (hcase : List.Forall₂ InEitherCase cs' cs) : Natural base cs' n := by
  obtain ⟨hne, digits, hdigits, hvalue⟩ := h
  refine ⟨?_, digits, forall₂_isDigit_of_inEitherCase hbase hdigits hcase, hvalue⟩
  rintro rfl
  exact hne (List.forall₂_nil_left_iff.1 hcase)

/-- **The digits of a number are worth the number**, however they are written. -/
theorem Numeral.natural (hone : 1 < base) (hbase : base ≤ 16) (h : Numeral base n cs) :
    Natural base cs n := by
  obtain ⟨zeros, digits, rfl, hcase⟩ := h
  have hdigits : Natural base digits n :=
    ((natural?_eq_some_iff hbase).1 (natural?_toDigits hone hbase)).of_inEitherCase hbase hcase
  induction zeros with
  | zero => exact hdigits
  | succ zeros ih => exact ih.cons_zero (by omega)

end

/-! ## Underscores -/

/-- The second text is the first with underscores put in. -/
inductive Underscored : List Char → List Char → Prop
  | nil : Underscored [] []
  | keep {bare text : List Char} (c : Char) (h : Underscored bare text) :
      Underscored (c :: bare) (c :: text)
  | insert {bare text : List Char} (h : Underscored bare text) : Underscored bare ('_' :: text)

theorem Underscored.withoutUnderscores {bare text : List Char} (h : Underscored bare text)
    (hbare : '_' ∉ bare) : Word.withoutUnderscores text = bare := by
  induction h with
  | nil => rfl
  | keep c _ ih =>
    rw [List.mem_cons, not_or] at hbare
    rw [Word.withoutUnderscores, List.filter_cons_of_pos (by simpa using Ne.symm hbare.1)]
    exact congrArg (c :: ·) (ih hbare.2)
  | insert _ ih => exact ih hbare

theorem Underscored.eq_or_mem {bare text : List Char} (h : Underscored bare text) :
    ∀ c ∈ text, c = '_' ∨ c ∈ bare := by
  induction h with
  | nil => exact List.forall_mem_nil _
  | keep c _ ih =>
    refine List.forall_mem_cons.2 ⟨.inr List.mem_cons_self, fun d hd => ?_⟩
    exact (ih d hd).imp_right (List.mem_cons_of_mem c)
  | insert _ ih => exact List.forall_mem_cons.2 ⟨.inl rfl, ih⟩

end Text

namespace Word

/-! ## Words -/

/-- The texts that write a word out: its pattern behind a prefix, or its signed value. -/
inductive Written (w : Word) : List Char → Prop
  | pattern {form : Form} {mark : Char} {cs : List Char} (hmark : mark ∈ form.marks)
      (hcs : Text.Numeral form.base w.toNat cs) : Written w ('0' :: mark :: cs)
  | negative {cs : List Char} (hw : w.toInt < 0) (hcs : Text.Numeral 10 w.toInt.natAbs cs) :
      Written w ('-' :: cs)
  | bare {cs : List Char} (hw : 0 ≤ w.toInt) (hcs : Text.Numeral 10 w.toInt.natAbs cs) :
      Written w cs
  | plus {cs : List Char} (hw : 0 ≤ w.toInt) (hcs : Text.Numeral 10 w.toInt.natAbs cs) :
      Written w ('+' :: cs)

/-- A word is written out where it is shown. -/
theorem written_hex (w : Word) : Written w w.hex.toList := by
  rw [hex, String.toList_ofList]
  have hmark : 'x' ∈ Form.hexadecimal.marks := by decide
  exact .pattern hmark (Text.numeral_toDigits 16 w.toNat)

theorem written_decimal (w : Word) : Written w w.decimal.toList := by
  rw [decimal, String.toList_ofList, Text.decimal]
  split
  · rename_i hw
    exact .negative hw (Text.numeral_toDigits 10 _)
  · rename_i hw
    exact .bare (by omega) (Text.numeral_toDigits 10 _)

theorem Form.mem_letters_of_mem_marks {form : Form} {mark : Char} (h : mark ∈ form.marks) :
    mark ∈ ['x', 'X', 'b', 'B'] := by
  cases form with
  | hexadecimal => exact List.mem_append_left ['b', 'B'] h
  | binary => exact List.mem_append_right ['x', 'X'] h
  | decimal => cases h

/-- A decimal number has no letter where the prefixes have theirs. -/
theorem Form.unmarked_of_integer {cs : List Char} {n : Int} (h : Text.Integer cs n) :
    Form.Unmarked cs := by
  have hletters : ∀ c ∈ cs, c ∉ ['x', 'X', 'b', 'B'] :=
    h.forall_mem (by decide) (by decide) (by decide)
  rintro form mark hmark ⟨rest, rfl⟩
  exact hletters mark (by simp) (mem_letters_of_mem_marks hmark)

/-- No text of the grammar holds a blank or an underscore. -/
theorem Form.Writes.forall_mem {form : Form} {cs : List Char} {w : Word} (h : form.Writes cs w) :
    ∀ c ∈ cs, Text.isBlank c = false ∧ c ≠ '_' := by
  have hdigit : ∀ d < 16, (Text.isBlank d.digitChar = false ∧ d.digitChar ≠ '_') ∧
      Text.isBlank d.digitChar.toUpper = false ∧ d.digitChar.toUpper ≠ '_' := by decide
  cases h with
  | pattern hmark hcs =>
    refine List.forall_mem_cons.2 ⟨by decide, List.forall_mem_cons.2 ⟨?_, ?_⟩⟩
    · have hletter := mem_letters_of_mem_marks hmark
      simp only [List.mem_cons, List.not_mem_nil, or_false] at hletter
      rcases hletter with rfl | rfl | rfl | rfl <;> decide
    · exact hcs.forall_mem (fun d hd => hdigit d (hd.trans_le form.base_le)) (by decide)
  | number _ hcs =>
    exact hcs.forall_mem (fun d hd => hdigit d (by omega)) (by decide) (by decide)

/-- **A word that is written out is in the grammar of words.** -/
theorem Written.exists_writes {w : Word} {cs : List Char} (h : Written w cs) :
    ∃ form : Form, form.Writes cs w := by
  have hnumber : ∀ {cs : List Char}, Text.Integer cs w.toInt → Form.decimal.Writes cs w :=
    fun hcs => .number (Form.unmarked_of_integer hcs) hcs (BitVec.le_toInt w) BitVec.toInt_lt rfl
  have hvalue : ∀ {cs : List Char}, Text.Numeral 10 w.toInt.natAbs cs →
      Text.Natural 10 cs w.toInt.natAbs := fun hcs => hcs.natural (by decide) (by decide)
  cases h with
  | @pattern form mark cs hmark hcs =>
    obtain ⟨hbound, hw⟩ := ofPattern?_eq_some_iff.1 (ofPattern?_toNat w)
    refine ⟨form, .pattern hmark (.bare (hcs.natural ?_ form.base_le)) hbound hw⟩
    cases form <;> decide
  | negative hw hcs =>
    have hsign : w.toInt = -(w.toInt.natAbs : Int) := by omega
    exact ⟨.decimal, hnumber (hsign ▸ .minus (hvalue hcs))⟩
  | bare hw hcs =>
    have hsign : w.toInt = w.toInt.natAbs := by omega
    exact ⟨.decimal, hnumber (hsign ▸ .bare (hvalue hcs))⟩
  | plus hw hcs =>
    have hsign : w.toInt = w.toInt.natAbs := by omega
    exact ⟨.decimal, hnumber (hsign ▸ .plus (hvalue hcs))⟩

/-! ## Reading -/

/-- **Underscores do not keep a word from being read.** -/
theorem Form.Writes.ofText_underscored {form : Form} {bare : List Char} {w : Word}
    (h : form.Writes bare w) {text : String} (htext : Text.Underscored bare text.toList) :
    ofText text = .ok w := by
  have hbare := h.forall_mem
  have hblank : ∀ c ∈ text.toList, Text.isBlank c = false := by
    intro c hc
    rcases htext.eq_or_mem c hc with rfl | hc
    · decide
    · exact (hbare c hc).1
  refine ofText_of_ofSpelling? hblank ?_
  rw [htext.withoutUnderscores fun hmem => (hbare '_' hmem).2 rfl]
  exact ofSpelling?_eq_some_iff.2 ⟨form, h⟩

/-- **Every way of writing a word out is read as the word**, with underscores put in anywhere and
with blanks around.  The forms in which a word is shown are among them, so that each of them tells
words apart. -/
theorem written_read_back :
    (∀ (w : Word) (bare : List Char) (before text after : String), Written w bare →
      Text.Underscored bare text.toList → (∀ c ∈ before.toList, Text.isBlank c = true) →
      (∀ c ∈ after.toList, Text.isBlank c = true) → ofText (before ++ text ++ after) = .ok w) ∧
    (∀ w : Word, Written w w.hex.toList ∧ Written w w.decimal.toList) ∧
    (∀ w : Word, ofText w.hex = .ok w) ∧ Function.Injective hex := by
  refine ⟨?_, fun w => ⟨written_hex w, written_decimal w⟩, ofText_hex, fun w w' h => ?_⟩
  · intro w bare before text after hw htext hbefore hafter
    obtain ⟨form, hwrites⟩ := hw.exists_writes
    rw [ofText_padded hbefore hafter, hwrites.ofText_underscored htext]
  · have hread := ofText_hex w
    rw [h, ofText_hex] at hread
    exact (Except.ok.inj hread).symm

/-- A negative number with an underscore before its sign, and a pattern with one inside its prefix
and with letters of both cases. -/
theorem written_read_back_sign_and_prefix :
    Written (-4) ['-', '0', '0', '4'] ∧
    Text.Underscored ['-', '0', '0', '4'] "_-0_04".toList ∧
    ofText ("\t" ++ "_-0_04" ++ "\u00a0") = .ok (-4) ∧
    Written 0xAB07 ['0', 'X', '0', 'a', 'B', '0', '7'] ∧
    Text.Underscored ['0', 'X', '0', 'a', 'B', '0', '7'] "0_X0a_B07_".toList ∧
    ofText ("\t" ++ "0_X0a_B07_" ++ "\u00a0") = .ok 0xAB07 := by
  have hbefore : ∀ c ∈ "\t".toList, Text.isBlank c = true := List.all_eq_true.1 rfl
  have hafter : ∀ c ∈ "\u00a0".toList, Text.isBlank c = true := List.all_eq_true.1 rfl
  have hnegative : Written (-4) ['-', '0', '0', '4'] :=
    .negative (by decide) ⟨2, ['4'], rfl, .cons (.inl rfl) .nil⟩
  have hpattern : Written 0xAB07 ['0', 'X', '0', 'a', 'B', '0', '7'] := by
    have hmark : 'X' ∈ Form.hexadecimal.marks := by decide
    refine .pattern hmark ⟨1, ['a', 'B', '0', '7'], rfl, ?_⟩
    exact .cons (.inl rfl) (.cons (.inr rfl) (.cons (.inl rfl) (.cons (.inl rfl) .nil)))
  have hsign : Text.Underscored ['-', '0', '0', '4'] "_-0_04".toList :=
    .insert (.keep _ (.keep _ (.insert (.keep _ (.keep _ .nil)))))
  have hprefix : Text.Underscored ['0', 'X', '0', 'a', 'B', '0', '7'] "0_X0a_B07_".toList :=
    .keep _ (.insert (.keep _ (.keep _ (.keep _ (.insert (.keep _ (.keep _ (.keep _
      (.insert .nil)))))))))
  obtain ⟨hread, -⟩ := written_read_back
  exact ⟨hnegative, hsign, hread _ _ _ _ _ hnegative hsign hbefore hafter, hpattern, hprefix,
    hread _ _ _ _ _ hpattern hprefix hbefore hafter⟩

end Word
end TaggedWords

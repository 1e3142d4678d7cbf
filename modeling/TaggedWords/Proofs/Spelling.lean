import TaggedWords.Proofs.Blank
import TaggedWords.Proofs.Numeral
import TaggedWords.Spelling.Literal
import TaggedWords.Spelling.Word

/-!
# Spellings read back

Words and values are written in one form each way, and read from many.  This file shows that the
written form is one of those that are read.

* `Word.ofText_hex`, `Word.ofText_decimal` — both forms of a word are read as the word.
* `Value.ofLiteral_character`, `Value.ofLiteral_of_not_character` — how a literal that begins as a
  character is read, and how any other.
* `Value.ofLiteral_display` — the printed form of a value is read as the value, a character that is
  a blank included.
-/

set_option autoImplicit false

namespace TaggedWords

/-! ## Words -/

namespace Word

theorem ofPattern?_toNat (w : Word) : ofPattern? w.toNat = some w := by
  have h : w.toNat < 0x1_0000_0000_0000_0000 := w.isLt
  rw [ofPattern?, if_pos h, BitVec.ofNat_toNat, BitVec.setWidth_eq]

theorem ofInt?_toInt (w : Word) : ofInt? w.toInt = some w := by
  have hleast : -0x8000_0000_0000_0000 ≤ w.toInt := BitVec.le_toInt w
  have hbound : w.toInt < 0x8000_0000_0000_0000 := BitVec.toInt_lt
  rw [ofInt?, if_pos ⟨hleast, hbound⟩, BitVec.ofInt_toInt]

/-- A spelling without the letters of the prefixes is a decimal number. -/
theorem ofSpelling?_of_not_mem {cs : List Char} (h : ∀ c ∈ cs, c ∉ ['x', 'X', 'b', 'B']) :
    ofSpelling? cs = (Text.integer? cs).bind ofInt? := by
  rw [ofSpelling?]
  all_goals
    rintro digits rfl
    simp at h

/-- What counts of a text is what trimming leaves of it. -/
theorem ofText_congr {text text' : String}
    (h : Text.trim text.toList = Text.trim text'.toList) : ofText text = ofText text' := by
  rw [ofText, ofText, h]

theorem withoutUnderscores_eq_self {cs : List Char} (h : ∀ c ∈ cs, c ≠ '_') :
    withoutUnderscores cs = cs :=
  List.filter_eq_self.2 fun c hc => by simp [h c hc]

/-- A text without blanks is read by its spelling. -/
theorem ofText_of_ofSpelling? {text : String} {w : Word}
    (hblank : ∀ c ∈ text.toList, Text.isBlank c = false)
    (h : ofSpelling? (withoutUnderscores text.toList) = some w) : ofText text = .ok w := by
  rw [ofText, Text.trim_eq_self hblank, h]

/-- A text that is spelled without underscores and blanks is read as it stands. -/
theorem ofText_of_bare {cs : List Char} {w : Word}
    (hcs : ∀ c ∈ cs, Text.isBlank c = false ∧ c ≠ '_') (h : ofSpelling? cs = some w) :
    ofText (String.ofList cs) = .ok w := by
  refine ofText_of_ofSpelling? ?_ ?_
  · rw [String.toList_ofList]
    exact fun c hc => (hcs c hc).1
  · rw [String.toList_ofList, withoutUnderscores_eq_self fun c hc => (hcs c hc).2, h]

/-- What holds of an `x` and of every digit holds of all characters of a pattern. -/
theorem forall_mem_hex {p : Char → Prop} (hx : p 'x') (hdigit : ∀ d, d < 16 → p d.digitChar)
    (w : Word) : ∀ c ∈ w.hex.toList, p c := by
  have hdigits := Text.forall_mem_toDigits (by decide) hdigit w.toNat
  rw [hex, String.toList_ofList]
  exact List.forall_mem_cons.2 ⟨hdigit 0 (by decide), List.forall_mem_cons.2 ⟨hx, hdigits⟩⟩

/-- **The pattern of a word in hexadecimal is read as the word.** -/
theorem ofText_hex (w : Word) : ofText w.hex = .ok w := by
  have hall : ∀ c ∈ w.hex.toList, Text.isBlank c = false ∧ c ≠ '_' :=
    forall_mem_hex (by decide) (by decide) w
  rw [hex, String.toList_ofList] at hall
  rw [hex]
  refine ofText_of_bare hall ?_
  rw [ofSpelling?, Text.unsigned?_toDigits (by decide) (by decide), Option.bind_some,
    ofPattern?_toNat]

theorem ofSpelling?_decimal (w : Word) : ofSpelling? (Text.decimal w.toInt) = some w := by
  have hletters : ∀ c ∈ Text.decimal w.toInt, c ∉ ['x', 'X', 'b', 'B'] :=
    Text.forall_mem_decimal (by decide) (by decide) w.toInt
  rw [ofSpelling?_of_not_mem hletters, Text.integer?_decimal, Option.bind_some, ofInt?_toInt]

/-- **The signed value of a word in base ten is read as the word.** -/
theorem ofText_decimal (w : Word) : ofText w.decimal = .ok w :=
  ofText_of_bare (Text.forall_mem_decimal (by decide) (by decide) w.toInt)
    (ofSpelling?_decimal w)

end Word

/-! ## Values -/

namespace Fixnum

theorem ofInt_val (n : Fixnum) : ofInt n.val = .ok n := by
  rw [ofInt, dif_pos ⟨n.least_le, n.lt_bound⟩]

/-- A word can hold every integer that a fixnum can. -/
theorem exists_ofInt? (n : Fixnum) : ∃ w, Word.ofInt? n.val = some w := by
  have hleast := n.least_le
  have hbound := n.lt_bound
  rw [Word.ofInt?, if_pos (by omega)]
  exact ⟨_, rfl⟩

end Fixnum

/-- The names of characters are longer than a character. -/
theorem namedChar?_of_length_lt {name : List Char} (h : name.length < 2) :
    namedChar? name = none := by
  have hnames : ∀ entry ∈ charNames, 2 ≤ entry.1.toList.length := by decide
  rw [namedChar?, Option.map_eq_none_iff, List.find?_eq_none]
  intro entry hentry heq
  have hlength := hnames entry hentry
  rw [eq_of_beq heq] at hlength
  omega

/-- Of blanks alone the first one is the character. -/
theorem spelledChar?_of_blank {c : Char} {rest : List Char}
    (h : ∀ d ∈ c :: rest, Text.isBlank d = true) :
    spelledChar? (c :: rest) = Text.latin1? c := by
  rw [spelledChar?, Text.trimEnd_eq_nil_iff.2 h, namedChar?_of_length_lt (by decide)]
  rfl

/-- What is one character when the blanks behind it are trimmed is that character. -/
theorem spelledChar?_of_trimEnd {rest : List Char} {c : Char} (h : Text.trimEnd rest = [c]) :
    spelledChar? rest = Text.latin1? c := by
  rw [spelledChar?, h, namedChar?_of_length_lt (by simp)]

/-- A character is spelled by itself. -/
theorem spelledChar?_ofUInt8 (code : UInt8) : spelledChar? [Char.ofUInt8 code] = some code := by
  rw [← Text.latin1?_ofUInt8 code]
  cases hblank : Text.isBlank (Char.ofUInt8 code) with
  | true => exact spelledChar?_of_blank (by simpa using hblank)
  | false => exact spelledChar?_of_trimEnd (Text.trimEnd_eq_self (by simpa using hblank))

namespace Value

theorem trimEnd_character (rest : List Char) :
    Text.trimEnd ('#' :: '\\' :: rest) = '#' :: '\\' :: Text.trimEnd rest := by
  rw [Text.trimEnd_cons_of_not_blank (by decide), Text.trimEnd_cons_of_not_blank (by decide)]

/-- A text that begins as a character is read as one or not at all. -/
theorem ofLiteral_character {text : String} {rest : List Char}
    (h : Text.trimStart text.toList = '#' :: '\\' :: rest) :
    ofLiteral text = (spelledChar? rest).elim
      (.error (.invalidLiteral (String.ofList ('#' :: '\\' :: Text.trimEnd rest))))
      fun code => .ok (.char code) := by
  rw [ofLiteral, h, trimEnd_character]
  cases hcode : spelledChar? rest <;> simp [hcode]

/-- Of any other text it is what stands between the blanks that is read. -/
theorem ofLiteral_of_not_character {text : String}
    (h : ∀ rest, Text.trimStart text.toList ≠ '#' :: '\\' :: rest) :
    ofLiteral text =
      if Text.trim text.toList = ['#', 't'] then .ok (.boolean true)
      else if Text.trim text.toList = ['#', 'f'] then .ok (.boolean false)
      else ((Text.integer? (Text.trim text.toList)).bind Word.ofInt?).elim
        (.error (.invalidLiteral (String.ofList (Text.trim text.toList))))
        fun w => (Fixnum.ofInt w.toInt).map .integer := by
  rw [ofLiteral, Text.trim]
  congr 2
  split
  · rename_i hstart
    exact absurd hstart (h _)
  · cases (Text.integer? (Text.trimEnd (Text.trimStart text.toList))).bind Word.ofInt? <;> rfl

theorem integer?_hash (rest : List Char) : Text.integer? ('#' :: rest) = none := by
  have hdigit : Text.digit? 10 '#' = none := by decide
  simp [Text.integer?, Text.natural?, hdigit]

/-- A text that is an integer is read as one, if a word can hold it. -/
theorem ofLiteral_integer {text : String} {n : Int}
    (h : Text.integer? (Text.trim text.toList) = some n) {w : Word} (hw : Word.ofInt? n = some w) :
    ofLiteral text = (Fixnum.ofInt n).map .integer := by
  -- An integer does not begin with the sign that all other literals begin with.
  have hhash : ∀ rest, Text.trim text.toList ≠ '#' :: rest := by
    intro rest hrest
    rw [hrest, integer?_hash] at h
    cases h
  have hcharacter : ∀ rest, Text.trimStart text.toList ≠ '#' :: '\\' :: rest := by
    intro rest hstart
    rw [Text.trim, hstart, trimEnd_character] at hhash
    exact hhash _ rfl
  rw [ofLiteral_of_not_character hcharacter, if_neg (hhash _), if_neg (hhash _), h,
    Option.bind_some, hw, Option.elim_some, Word.toInt_of_ofInt? hw]

/-- **The printed form of a value is read as the value.** -/
theorem ofLiteral_display (v : Value) : ofLiteral v.display = .ok v := by
  cases v with
  | integer n =>
    have hblank : ∀ c ∈ Text.decimal n.val, Text.isBlank c = false :=
      Text.forall_mem_decimal (by decide) (by decide) n.val
    have hread : Text.integer? (Text.trim (integer n).display.toList) = some n.val := by
      rw [display, String.toList_ofList, Text.trim_eq_self hblank, Text.integer?_decimal]
    obtain ⟨w, hw⟩ := n.exists_ofInt?
    rw [ofLiteral_integer hread hw, n.ofInt_val]
    rfl
  | char code =>
    have hstart : Text.trimStart (char code).display.toList =
        ['#', '\\', Char.ofUInt8 code] := by
      rw [display, String.toList_ofList, Text.trimStart_cons_of_not_blank (by decide)]
    rw [ofLiteral_character hstart, spelledChar?_ofUInt8]
    rfl
  | boolean b => cases b <;> rfl

end Value
end TaggedWords

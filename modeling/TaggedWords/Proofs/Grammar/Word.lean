import TaggedWords.Proofs.Grammar.Numeral
import TaggedWords.Proofs.Spelling

/-!
# The grammar of words

A word may be written in three ways: as a pattern in hexadecimal or in binary behind a prefix, or
as a signed decimal number.  The grammar says which texts these are and which word each of them
stands for, without saying how to find out.  `Word.ofText` accepts the texts of the grammar with
white space around them and underscores anywhere, and refuses all others.

* `Form`, `Form.Writes` — the three ways, and the grammar.
* `Form.Writes.form_unique` — no text is written in two ways.
* `ofSpelling?_eq_some_iff` — the reader and the grammar agree.
* `ofText_accepts_grammar` — the same for texts with white space and underscores, with the refusal
  of all other texts.
-/

set_option autoImplicit false

namespace TaggedWords
namespace Word

/-! ## The grammar -/

/-- The ways of writing a word. -/
inductive Form where
  | hexadecimal
  | binary
  | decimal
deriving DecidableEq, Repr

namespace Form

/-- The letters that mark a pattern, behind a zero. -/
def marks : Form → List Char
  | hexadecimal => ['x', 'X']
  | binary => ['b', 'B']
  | decimal => []

/-- The base of the digits. -/
def base : Form → Nat
  | hexadecimal => 16
  | binary => 2
  | decimal => 10

theorem base_le (form : Form) : form.base ≤ 16 := by
  cases form <;> decide

/-- The text begins with none of the prefixes. -/
def Unmarked (cs : List Char) : Prop :=
  ∀ form : Form, ∀ mark ∈ form.marks, ¬ ['0', mark] <+: cs

/-- The text writes the word, in this way.  A pattern is any number that 64 bits can hold, and the
word is its two's complement reading; a decimal number is the word itself. -/
inductive Writes : Form → List Char → Word → Prop
  | pattern {form : Form} {mark : Char} {cs : List Char} {n : Nat} {w : Word}
      (hmark : mark ∈ form.marks) (hcs : Text.Unsigned form.base cs n)
      (hbound : n < 0x1_0000_0000_0000_0000)
      (hw : w.toInt = if n < 0x8000_0000_0000_0000 then (n : Int)
        else n - 0x1_0000_0000_0000_0000) :
      Writes form ('0' :: mark :: cs) w
  | number {cs : List Char} {n : Int} {w : Word}
      (hunmarked : Unmarked cs) (hcs : Text.Integer cs n)
      (hleast : -0x8000_0000_0000_0000 ≤ n) (hbound : n < 0x8000_0000_0000_0000)
      (hw : w.toInt = n) :
      Writes decimal cs w

theorem eq_of_mem_marks {form form' : Form} {mark : Char} (h : mark ∈ form.marks)
    (h' : mark ∈ form'.marks) : form = form' := by
  cases form <;> cases form' <;> grind [marks]

/-- **No text is written in two ways.** -/
theorem Writes.form_unique {form form' : Form} {cs : List Char} {w w' : Word}
    (h : form.Writes cs w) (h' : form'.Writes cs w') : form = form' := by
  cases h with
  | @pattern _ mark rest _ _ hmark =>
    have hmarked : ['0', mark] <+: '0' :: mark :: rest := ⟨rest, rfl⟩
    cases h' with
    | pattern hmark' => exact eq_of_mem_marks hmark hmark'
    | number hunmarked => exact absurd hmarked (hunmarked form mark hmark)
  | number hunmarked =>
    cases h' with
    | number => rfl
    | @pattern _ mark rest _ _ hmark =>
      have hmarked : ['0', mark] <+: '0' :: mark :: rest := ⟨rest, rfl⟩
      exact absurd hmarked (hunmarked form' mark hmark)

/-- What begins with a hyphen is a decimal number. -/
theorem Writes.exists_natural_of_minus {form : Form} {cs : List Char} {w : Word}
    (h : form.Writes ('-' :: cs) w) : ∃ m, Text.Natural 10 cs m := by
  cases h with
  | number _ hcs => exact hcs.exists_natural_of_minus

end Form

/-! ## The reader of bare spellings -/

theorem ofPattern?_eq_some_iff {n : Nat} {w : Word} :
    ofPattern? n = some w ↔ n < 0x1_0000_0000_0000_0000 ∧
      w.toInt = if n < 0x8000_0000_0000_0000 then (n : Int) else n - 0x1_0000_0000_0000_0000 := by
  have hsize := w.isLt
  have hsigned := BitVec.toInt_eq_toNat_cond w
  constructor
  · intro h
    obtain rfl := toNat_of_ofPattern? h
    refine ⟨hsize, ?_⟩
    rw [hsigned]
    split <;> split <;> omega
  · rintro ⟨hbound, hw⟩
    have hn : n = w.toNat := by
      rw [hsigned] at hw
      split at hw <;> split at hw <;> omega
    rw [hn, ofPattern?_toNat]

theorem ofInt?_eq_some_iff {n : Int} {w : Word} :
    ofInt? n = some w ↔
      -0x8000_0000_0000_0000 ≤ n ∧ n < 0x8000_0000_0000_0000 ∧ w.toInt = n := by
  constructor
  · intro h
    obtain rfl := toInt_of_ofInt? h
    exact ⟨BitVec.le_toInt w, BitVec.toInt_lt, rfl⟩
  · rintro ⟨-, -, rfl⟩
    exact ofInt?_toInt w

/-- Behind a prefix, a word is read from the digits of a pattern. -/
theorem ofSpelling?_of_mem_marks {form : Form} {mark : Char} (h : mark ∈ form.marks)
    (cs : List Char) :
    ofSpelling? ('0' :: mark :: cs) = (Text.unsigned? form.base cs).bind ofPattern? := by
  cases form with
  | decimal => cases h
  | hexadecimal | binary =>
    rw [Form.marks, List.mem_cons, List.mem_singleton] at h
    rcases h with rfl | rfl <;> rfl

/-- Without a prefix, it is read from a decimal number. -/
theorem ofSpelling?_of_unmarked {cs : List Char} (h : Form.Unmarked cs) :
    ofSpelling? cs = (Text.integer? cs).bind ofInt? := by
  have hnot : ∀ mark ∈ Form.hexadecimal.marks ++ Form.binary.marks, ∀ rest,
      cs ≠ '0' :: mark :: rest := by
    rintro mark hmark rest rfl
    rcases List.mem_append.1 hmark with hmark | hmark
    · exact h .hexadecimal mark hmark ⟨rest, rfl⟩
    · exact h .binary mark hmark ⟨rest, rfl⟩
  rw [ofSpelling?]
  all_goals exact hnot _ (by decide)

/-- **A bare spelling is read as a word exactly if it writes the word.** -/
theorem ofSpelling?_eq_some_iff {cs : List Char} {w : Word} :
    ofSpelling? cs = some w ↔ ∃ form : Form, form.Writes cs w := by
  constructor
  · intro h
    by_cases hunmarked : Form.Unmarked cs
    · rw [ofSpelling?_of_unmarked hunmarked, Option.bind_eq_some_iff] at h
      obtain ⟨n, hn, hw⟩ := h
      obtain ⟨hleast, hbound, hw⟩ := ofInt?_eq_some_iff.1 hw
      exact ⟨.decimal, .number hunmarked (Text.integer?_eq_some_iff.1 hn) hleast hbound hw⟩
    · simp only [Form.Unmarked, not_forall, not_not] at hunmarked
      obtain ⟨form, mark, hmark, rest, rfl⟩ := hunmarked
      rw [List.cons_append, List.cons_append, List.nil_append, ofSpelling?_of_mem_marks hmark,
        Option.bind_eq_some_iff] at h
      obtain ⟨n, hn, hw⟩ := h
      obtain ⟨hbound, hw⟩ := ofPattern?_eq_some_iff.1 hw
      exact ⟨form, .pattern hmark ((Text.unsigned?_eq_some_iff form.base_le).1 hn) hbound hw⟩
  · rintro ⟨form, h⟩
    cases h with
    | pattern hmark hcs hbound hw =>
      rw [ofSpelling?_of_mem_marks hmark, (Text.unsigned?_eq_some_iff form.base_le).2 hcs]
      exact ofPattern?_eq_some_iff.2 ⟨hbound, hw⟩
    | number hunmarked hcs hleast hbound hw =>
      rw [ofSpelling?_of_unmarked hunmarked, Text.integer?_eq_some_iff.2 hcs]
      exact ofInt?_eq_some_iff.2 ⟨hleast, hbound, hw⟩

/-! ## The reader of texts -/

/-- A text is read by what is left of it without the blanks and the underscores. -/
theorem ofText_eq_elim (text : String) :
    ofText text =
      (ofSpelling? (withoutUnderscores (Text.trim text.toList))).elim
        (.error (.invalidWord (String.ofList (Text.trim text.toList)))) .ok := by
  rw [ofText]
  cases ofSpelling? (withoutUnderscores (Text.trim text.toList)) <;> rfl

/-- A text is read as the word that the grammar finds in what is left of it. -/
theorem ofText_eq_ok_iff {text : String} {w : Word} :
    ofText text = .ok w ↔
      ∃ form : Form, form.Writes (withoutUnderscores (Text.trim text.toList)) w := by
  rw [ofText_eq_elim, ← ofSpelling?_eq_some_iff]
  cases ofSpelling? (withoutUnderscores (Text.trim text.toList)) <;> simp

/-- **Words are read by their grammar.**  What counts of a text is what stands between the blanks
at its ends, without the underscores.  If that writes a word, in one of the three ways, the word is
read; otherwise the text is refused, and the refusal quotes it without the blanks and with the
underscores.  A text writes one word at most, and in one way. -/
theorem ofText_accepts_grammar (text : String) :
    let trimmed := Text.trim text.toList
    let bare := trimmed.filter fun c => c != '_'
    (∃ before after, (∀ c ∈ before, Text.isBlank c = true) ∧
      (∀ c ∈ after, Text.isBlank c = true) ∧ text.toList = before ++ (trimmed ++ after) ∧
      (∀ c ∈ trimmed.head?, Text.isBlank c = false) ∧
      ∀ c ∈ trimmed.getLast?, Text.isBlank c = false) ∧
    (∀ w, ofText text = .ok w ↔ ∃ form : Form, form.Writes bare w) ∧
    (∀ failure, ofText text = .error failure ↔
      (∀ (form : Form) (w : Word), ¬ form.Writes bare w) ∧
        failure = .invalidWord (String.ofList trimmed)) ∧
    ∀ (form form' : Form) (w w' : Word), form.Writes bare w → form'.Writes bare w' →
      form = form' ∧ w = w' := by
  intro trimmed bare
  have hread : ∀ w, ofSpelling? bare = some w ↔ ∃ form : Form, form.Writes bare w := fun w =>
    ofSpelling?_eq_some_iff
  have htext : ofText text =
      (ofSpelling? bare).elim (.error (.invalidWord (String.ofList trimmed))) .ok :=
    ofText_eq_elim text
  refine ⟨Text.exists_trim text.toList, fun w => ?_, fun failure => ?_, ?_⟩
  · rw [← hread, htext]
    cases ofSpelling? bare <;> simp
  · have hrefused : (∀ (form : Form) (w : Word), ¬ form.Writes bare w) ↔
        ofSpelling? bare = none := by
      rw [Option.eq_none_iff_forall_ne_some]
      simp only [Ne, hread, not_exists]
      exact forall_comm
    rw [hrefused, htext]
    cases ofSpelling? bare <;> simp [eq_comm]
  · intro form form' w w' h h'
    have hw := (hread w).2 ⟨form, h⟩
    rw [(hread w').2 ⟨form', h'⟩] at hw
    exact ⟨h.form_unique h', (Option.some.inj hw).symm⟩

/-- Underscores may part a prefix, but they keep the blanks behind them. -/
example : ofText " 0_X_ff\t" = .ok 0xFF ∧ ofText "_ 4" = .error (.invalidWord "_ 4") :=
  ⟨rfl, rfl⟩

end Word
end TaggedWords

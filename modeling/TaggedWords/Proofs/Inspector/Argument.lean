import TaggedWords.Proofs.Grammar.Word
import TaggedWords.Proofs.Inspector.CommandLine
import TaggedWords.Proofs.Inspector.Options

/-!
# Words as arguments

A word may be spelled in ways in which it may not be given on the command line.  An argument that
begins with a hyphen is taken for a word if the rest of it looks like a number, and otherwise for a
cluster of options.  The spellings of words know nothing of this: a negative word may have
underscores anywhere and blanks behind it, and with either of them the rest is not a number any
more.  Such a spelling is refused before anyone tries to read it as a word.  Behind two hyphens it
is taken as it is.

* `Word.exists_filler_of_hyphen` — what a spelling is made of that begins with a hyphen.
* `read_unmarked` — what becomes of an argument behind whose hyphen nothing has a meaning.
* `DigitsBehindHyphen`, `FillerBehindHyphen` — the spellings that are taken for words, and those
  that are refused; `not_digitsBehindHyphen_iff` says that there are no others.
* `spelling_on_command_line` — a spelling alone, and behind two hyphens.
-/

set_option autoImplicit false

namespace TaggedWords

/-! ## Words with a hyphen in front -/

namespace Word

variable {text : String} {w : Word} {rest : List Char} (h : ofText text = .ok w)
  (htext : text.toList = '-' :: rest)
include h htext

/-- **Behind the hyphen of a word there is a number**, if underscores and blanks are left out. -/
theorem natural_of_hyphen : ∃ n, Text.Natural 10 (withoutUnderscores (Text.trimEnd rest)) n := by
  have htrim : Text.trim text.toList = '-' :: Text.trimEnd rest := by
    rw [htext, Text.trim, Text.trimStart_cons_of_not_blank (by decide),
      Text.trimEnd_cons_of_not_blank (by decide)]
  obtain ⟨form, hwrites⟩ := ofText_eq_ok_iff.1 h
  rw [htrim, withoutUnderscores, List.filter_cons_of_pos (by decide)] at hwrites
  exact hwrites.exists_natural_of_minus

theorem ne_nil_of_hyphen : rest ≠ [] := by
  obtain ⟨n, hne, -⟩ := natural_of_hyphen h htext
  rintro rfl
  exact hne rfl

/-- Blanks stand behind the number and nowhere else, and underscores are all that stands in it. -/
theorem exists_filler_of_hyphen : ∃ number blanks, rest = number ++ blanks ∧
    (∀ c ∈ number, c.isDigit = true ∨ c = '_') ∧ ∀ c ∈ blanks, Text.isBlank c = true := by
  obtain ⟨n, hnumber⟩ := natural_of_hyphen h htext
  have hdigits : ∀ c ∈ withoutUnderscores (Text.trimEnd rest), c.isDigit = true :=
    hnumber.forall_mem (by decide)
  obtain ⟨blanks, hblanks, hrest, -⟩ := Text.exists_trimEnd rest
  refine ⟨Text.trimEnd rest, blanks, hrest, fun c hc => ?_, hblanks⟩
  by_cases hunderscore : c = '_'
  · exact .inr hunderscore
  · exact .inl (hdigits c (List.mem_filter.2 ⟨hc, by simpa using hunderscore⟩))

end Word

namespace Inspector

/-! ## Arguments with a hyphen in front -/

/-- The characters that have a meaning behind a hyphen: another hyphen, what a number may have
besides digits, and the letters of the options. -/
def argumentMarks : List Char := ['-', '.', 'e', 'E', 'r', 'd', 'h', 'V']

/-- None of them may stand behind the hyphen of a word. -/
theorem not_filler_of_mem_argumentMarks {c : Char} (h : c ∈ argumentMarks) :
    ¬ c.isDigit = true ∧ ¬ c = '_' ∧ ¬ Text.isBlank c = true := by
  have hall : argumentMarks.all (fun c => !c.isDigit && (c != '_' && !Text.isBlank c)) = true := by
    decide
  simpa using List.all_eq_true.1 hall c h

theorem Opt.ofLetter?_eq_none {letter : Char} (h : letter ∉ argumentMarks) :
    ofLetter? letter = none := by
  rw [ofLetter?]
  all_goals
    rintro rfl
    simp [argumentMarks] at h

/-- A number without a point and without an exponent is digits. -/
theorem isNumber_iff {cs : List Char} (h : ∀ c ∈ cs, c ∉ argumentMarks) :
    isNumber cs = true ↔ cs ≠ [] ∧ ∀ c ∈ cs, c.isDigit = true := by
  refine ⟨fun hnumber => ?_, fun hdigits => isNumber_of_digits hdigits.1 hdigits.2⟩
  cases hrest : cs.dropWhile Char.isDigit with
  | nil =>
    refine ⟨?_, List.dropWhile_eq_nil_iff.1 hrest⟩
    rintro rfl
    cases hnumber
  | cons c rest =>
    -- What is left of a number behind its first digits begins with a point or an exponent.
    have hc : c ∉ argumentMarks := by
      refine h c ((List.dropWhile_suffix Char.isDigit).subset ?_)
      rw [hrest]
      exact List.mem_cons_self
    simp only [argumentMarks, List.mem_cons, List.not_mem_nil, or_false, not_or] at hc
    rw [isNumber, hrest] at hnumber
    simp [isExponent, hc] at hnumber

/-- A plain word alone is the only word. -/
theorem read_plain {text : String} (h : IsPlain text) :
    CommandLine.read [text] = .ok { words := [text] } := by
  have hspells : Arrangement.Spells { pieces := [.word text] } { words := [text] } :=
    ⟨rfl, fun setting => by cases setting <;> rfl, rfl, List.forall_mem_singleton.2 h⟩
  exact hspells.read

/-- **An argument behind whose hyphen nothing has a meaning** is a word if all is digits there, and
otherwise it begins a cluster with a letter that no option has. -/
theorem read_unmarked {text : String} {rest : List Char} (htext : text.toList = '-' :: rest)
    (hne : rest ≠ []) (hmarks : ∀ c ∈ rest, c ∉ argumentMarks) :
    CommandLine.read [text] =
      if rest.all Char.isDigit then .ok { words := [text] } else .error .unknownArgument := by
  by_cases hdigits : ∀ c ∈ rest, c.isDigit = true
  · rw [if_pos (List.all_eq_true.2 hdigits)]
    exact read_plain (.inr ⟨rest, htext, hne, hdigits⟩)
  · have hnumber : isNumber rest = false :=
      Bool.eq_false_iff.2 fun h => hdigits ((isNumber_iff hmarks).1 h).2
    obtain ⟨c, cs, rfl⟩ := List.exists_cons_of_ne_nil hne
    have hc : c ∉ argumentMarks := hmarks c List.mem_cons_self
    have hlooks : Argument.of ('-' :: c :: cs) = .letters (c :: cs) := by
      have hhyphen : c ≠ '-' := by
        rintro rfl
        simp [argumentMarks] at hc
      rw [Argument.of, if_neg (by simp [hnumber])] <;> simp [hhyphen]
    rw [if_neg (by simpa using hdigits), CommandLine.read, readFrom, readArgument, htext, hlooks]
    simp only [readLetters, Opt.ofLetter?_eq_none hc]
    rfl

/-! ## The two kinds of spellings -/

/-- Whatever stands behind a hyphen at the front of the text is a digit. -/
def DigitsBehindHyphen (text : String) : Prop :=
  ∀ rest, text.toList = '-' :: rest → ∀ c ∈ rest, c.isDigit = true

/-- The text has a hyphen at its front, and behind that an underscore, or a blank at its end. -/
def FillerBehindHyphen (text : String) : Prop :=
  ∃ rest, text.toList = '-' :: rest ∧
    ('_' ∈ rest ∨ ∃ c ∈ rest.getLast?, Text.isBlank c = true)

section Spelling

variable {text : String} {w : Word} (h : Word.ofText text = .ok w)
include h

/-- **The spellings of words are of one kind or the other.** -/
theorem not_digitsBehindHyphen_iff : ¬ DigitsBehindHyphen text ↔ FillerBehindHyphen text := by
  constructor
  · intro hnot
    simp only [DigitsBehindHyphen, not_forall] at hnot
    obtain ⟨rest, htext, stranger, hstranger, hnot⟩ := hnot
    obtain ⟨number, blanks, rfl, hnumber, hblanks⟩ := Word.exists_filler_of_hyphen h htext
    refine ⟨number ++ blanks, htext, ?_⟩
    -- If nothing stands behind the number, what is not a digit stands in it.
    rcases blanks.eq_nil_or_concat' with rfl | ⟨before, last, rfl⟩
    · rw [List.append_nil] at hstranger ⊢
      have hunderscore : stranger = '_' := (hnumber stranger hstranger).resolve_left hnot
      exact .inl (hunderscore ▸ hstranger)
    · exact .inr ⟨last, by simp, hblanks last (by simp)⟩
  · rintro ⟨rest, htext, hunderscore | ⟨last, hlast, hblank⟩⟩ hdigits
    · exact absurd (hdigits rest htext '_' hunderscore) (by decide)
    · have hdigit := hdigits rest htext last (List.mem_of_getLast? hlast)
      rw [Text.isBlank_of_isDigit hdigit] at hblank
      cases hblank

/-- No character of a word behind a hyphen has a meaning there. -/
theorem not_mem_argumentMarks {rest : List Char} (htext : text.toList = '-' :: rest) :
    ∀ c ∈ rest, c ∉ argumentMarks := by
  obtain ⟨number, blanks, rfl, hnumber, hblanks⟩ := Word.exists_filler_of_hyphen h htext
  intro c hc hmark
  obtain ⟨hdigit, hunderscore, hblank⟩ := not_filler_of_mem_argumentMarks hmark
  rcases List.mem_append.1 hc with hinside | hbehind
  · exact (hnumber c hinside).elim hdigit hunderscore
  · exact hblank (hblanks c hbehind)

/-- A spelling with digits alone behind its hyphen, or without a hyphen, is a plain word. -/
theorem isPlain_of_digitsBehindHyphen (hdigits : DigitsBehindHyphen text) : IsPlain text := by
  by_cases hhyphen : ∃ rest, text.toList = '-' :: rest
  · obtain ⟨rest, htext⟩ := hhyphen
    exact .inr ⟨rest, htext, Word.ne_nil_of_hyphen h htext, hdigits rest htext⟩
  · refine .inl fun hhead => hhyphen ?_
    exact ⟨text.toList.tail, List.eq_cons_of_mem_head? hhead⟩

/-- **With underscores or blanks behind its hyphen a spelling is refused.** -/
theorem read_of_fillerBehindHyphen (hfiller : FillerBehindHyphen text) :
    CommandLine.read [text] = .error .unknownArgument := by
  have hnot := (not_digitsBehindHyphen_iff h).2 hfiller
  obtain ⟨rest, htext, -⟩ := hfiller
  rw [read_unmarked htext (Word.ne_nil_of_hyphen h htext) (not_mem_argumentMarks h htext), if_neg]
  intro hall
  refine hnot fun rest' htext' => ?_
  obtain rfl : rest = rest' := (List.cons.inj (htext.symm.trans htext')).2
  exact List.all_eq_true.1 hall

end Spelling

/-! ## All together -/

/-- **What becomes of a spelling on the command line.**  Alone it is taken for a word exactly if it
has no hyphen in front or nothing but digits behind that, and the process then shows what the word
holds, or why it holds no value.  All other spellings have a hyphen in front and an underscore
behind it or a blank at their end; these are refused as options that do not exist, and nothing is
shown.  Behind two hyphens every spelling is taken for the same word, and the process shows the
same. -/
theorem spelling_on_command_line {text : String} {w : Word} (h : Word.ofText text = .ok w) :
    let answer := ({} : Options).decodeText text
    let shown (home : Home) : Exit :=
      { status := 0, out := Console.toOut answer, err := some (Console.toErr answer), home }
    answer = (w.classify.mapError .decode).map Value.display ∧
    (CommandLine.read [text] = .ok { words := [text] } ↔ DigitsBehindHyphen text) ∧
    (DigitsBehindHyphen text → ∀ input home, process [text] input home = shown home) ∧
    (¬ DigitsBehindHyphen text ↔ FillerBehindHyphen text) ∧
    (FillerBehindHyphen text → CommandLine.read [text] = .error .unknownArgument ∧
      ∀ input home, process [text] input home = { status := 2, out := [], err := none, home }) ∧
    CommandLine.read ["--", text] = .ok { words := [text] } ∧
    ∀ input home, process ["--", text] input home = shown home := by
  intro answer shown
  have hplain : DigitsBehindHyphen text → CommandLine.read [text] = .ok { words := [text] } :=
    fun hdigits => read_plain (isPlain_of_digitsBehindHyphen h hdigits)
  have hkinds := not_digitsBehindHyphen_iff h
  refine ⟨Options.decodeText_of_ofText h, ⟨fun hread => ?_, hplain⟩,
    fun hdigits => process_of_read_word (hplain hdigits), hkinds, fun hfiller => ?_,
    read_terminator text, process_of_read_word (read_terminator text)⟩
  · by_contra hnot
    rw [read_of_fillerBehindHyphen h (hkinds.1 hnot)] at hread
    cases hread
  · have hrefused := read_of_fillerBehindHyphen h hfiller
    refine ⟨hrefused, fun input home => ?_⟩
    rw [process, hrefused]
    rfl

/-- A negative integer, without an underscore and with one, and with a blank behind it that does not
show. -/
theorem spelling_on_command_line_of_negative :
    Word.ofText "-1000" = .ok (-1000) ∧ Word.ofText "-1_000" = .ok (-1000) ∧
    Word.ofText "-1000\u00a0" = .ok (-1000) ∧
    CommandLine.read ["-1000"] = .ok { words := ["-1000"] } ∧
    CommandLine.read ["-1_000"] = .error .unknownArgument ∧
    CommandLine.read ["-1000\u00a0"] = .error .unknownArgument ∧
    (process ["-1000"] "" .unset).out = Text.utf8 "-250\n" ∧
    (process ["--", "-1_000"] "" .unset).out = Text.utf8 "-250\n" ∧
    (process ["--", "-1000\u00a0"] "" .unset).out = Text.utf8 "-250\n" := by
  have hbare : Word.ofText "-1000" = .ok (-1000) := rfl
  have hunderscore : Word.ofText "-1_000" = .ok (-1000) := rfl
  have hblank : Word.ofText "-1000\u00a0" = .ok (-1000) := rfl
  obtain ⟨-, hword, hshown, -⟩ := spelling_on_command_line hbare
  obtain ⟨-, -, -, -, hrefused, -, hbehind⟩ := spelling_on_command_line hunderscore
  obtain ⟨-, -, -, -, hrefused', -, hbehind'⟩ := spelling_on_command_line hblank
  have hdigits : DigitsBehindHyphen "-1000" := by
    rintro rest htext
    obtain rfl : ['1', '0', '0', '0'] = rest := (List.cons.inj htext).2
    exact List.all_eq_true.1 rfl
  have hfiller : FillerBehindHyphen "-1_000" := ⟨_, rfl, .inl (by decide)⟩
  have hfiller' : FillerBehindHyphen "-1000\u00a0" := ⟨_, rfl, .inr ⟨_, rfl, rfl⟩⟩
  refine ⟨hbare, hunderscore, hblank, hword.2 hdigits, (hrefused hfiller).1, (hrefused' hfiller').1,
    ?_, ?_, ?_⟩
  · rw [hshown hdigits]
    rfl
  · rw [hbehind]
    rfl
  · rw [hbehind']
    rfl

end Inspector
end TaggedWords

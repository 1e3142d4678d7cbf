import TaggedWords.Proofs.Inspector.Options
import TaggedWords.Proofs.Spelling
import TaggedWords.Proofs.Tagging

/-!
# There and back through the inspector

The inspector answers a word with a value and a value with a word.  Either answer may be asked
back, and this file follows a question there and back again, whichever of the many spellings it
was put in.

* `Text.fields` — the fields of an answer in debug mode.
* `Options.decodeText_hex_word`, `Options.encodeText_display` — one step back.
* `answers_round_trip` — an answer asked back gives the value or the word in its own form, and
  the fields of a debug answer name the word that was meant.
-/

set_option autoImplicit false

namespace TaggedWords

/-! ## Fields -/

namespace Text

/-- The fields of a text, which are parted by single spaces. -/
def fields (text : String) : List String :=
  (text.toList.splitOn ' ').map String.ofList

theorem head?_fields {first : String} (h : ' ' ∉ first.toList) (rest : String) :
    (fields (first ++ (" " ++ rest))).head? = some first := by
  have htext : (first ++ (" " ++ rest)).toList = first.toList ++ ' ' :: rest.toList := by simp
  rw [fields, htext, List.splitOn_append_cons_self, List.splitOn_eq_singleton h]
  simp

theorem getLast?_fields {last : String} (h : ' ' ∉ last.toList) (rest : String) :
    (fields (rest ++ " " ++ last)).getLast? = some last := by
  have htext : (rest ++ " " ++ last).toList = rest.toList ++ ' ' :: last.toList := by simp
  rw [fields, htext, List.splitOn_append_cons_self, List.splitOn_eq_singleton h]
  simp

end Text

namespace Word

theorem space_not_mem_hex (w : Word) : ' ' ∉ w.hex.toList := by
  have hall : ∀ c ∈ w.hex.toList, c ≠ ' ' := forall_mem_hex (by decide) (by decide) w
  exact fun h => hall ' ' h rfl

theorem space_not_mem_decimal (w : Word) : ' ' ∉ w.decimal.toList := by
  have hall : ∀ c ∈ Text.decimal w.toInt, c ≠ ' ' :=
    Text.forall_mem_decimal (by decide) (by decide) w.toInt
  rw [decimal, String.toList_ofList]
  exact fun h => hall ' ' h rfl

end Word

namespace Inspector

/-! ## There and back -/

section Plain

variable {plain : Options} (hplain : plain.debug = false)
include hplain

theorem Options.showValue_of_not_debug (w : Word) (v : Value) :
    plain.showValue w v = v.display := by
  simp [Options.showValue, hplain]

theorem Options.showWord_of_not_debug (v : Value) : plain.showWord v = v.word.hex := by
  simp [Options.showWord, hplain]

/-- The hexadecimal form of the word of a value is answered by the value. -/
theorem Options.decodeText_hex_word (v : Value) :
    plain.decodeText v.word.hex = .ok v.display := by
  rw [Options.decodeText_of_ofText (Word.ofText_hex _), v.classify_word]
  exact congrArg Except.ok (Options.showValue_of_not_debug hplain _ v)

/-- The printed form of a value is answered by its word. -/
theorem Options.encodeText_display (v : Value) :
    plain.encodeText v.display = .ok v.word.hex := by
  rw [Options.encodeText_of_ofLiteral v.ofLiteral_display, Options.showWord_of_not_debug hplain]

end Plain

section Debug

variable {debugging : Options} (hdebugging : debugging.debug = true)
include hdebugging

/-- A debug answer to a literal begins with the word in hexadecimal and ends with it in base ten. -/
theorem Options.fields_showWord (v : Value) :
    (Text.fields (debugging.showWord v)).head? = some v.word.hex ∧
      (Text.fields (debugging.showWord v)).getLast? = some v.word.decimal := by
  rw [Options.showWord, if_pos hdebugging]
  refine ⟨?_, Text.getLast?_fields v.word.space_not_mem_decimal _⟩
  simp only [String.append_assoc]
  exact Text.head?_fields v.word.space_not_mem_hex _

/-- A debug answer to a word begins with that very word in hexadecimal. -/
theorem Options.fields_showValue (w : Word) (v : Value) :
    (Text.fields (debugging.showValue w v)).head? = some w.hex := by
  rw [Options.showValue, if_pos hdebugging]
  simp only [String.append_assoc]
  exact Text.head?_fields w.space_not_mem_hex _

end Debug

/-- **Answers may be asked back.**  Without `debug`, the answer to a literal is a word that is
answered by the value of the literal, and the answer to a word is a value that is answered by the
word without stray bits; asking once more changes nothing.  With `debug` the same questions have
answers and the others are refused for the same reasons; the first and the last field of an answer
to a literal both spell the word of its value, and the first field of an answer to a word spells
that word with all its bits. -/
theorem answers_round_trip {plain debugging : Options} (hplain : plain.debug = false)
    (hdebugging : debugging.debug = true) :
    (∀ text answer, plain.encodeText text = .ok answer →
      ∃ v, Value.ofLiteral text = .ok v ∧ plain.decodeText answer = .ok v.display ∧
        plain.encodeText v.display = .ok answer) ∧
    (∀ text answer, plain.decodeText text = .ok answer →
      ∃ w v, Word.ofText text = .ok w ∧ w.classify = .ok v ∧
        plain.encodeText answer = .ok v.word.hex ∧ plain.decodeText v.word.hex = .ok answer) ∧
    (∀ text failure,
      (debugging.encodeText text = .error failure ↔ plain.encodeText text = .error failure) ∧
      (debugging.decodeText text = .error failure ↔ plain.decodeText text = .error failure)) ∧
    (∀ text answer, debugging.encodeText text = .ok answer →
      ∃ v first last, Value.ofLiteral text = .ok v ∧
        (Text.fields answer).head? = some first ∧ (Text.fields answer).getLast? = some last ∧
        first = v.word.hex ∧ last = v.word.decimal ∧
        Word.ofText first = .ok v.word ∧ Word.ofText last = .ok v.word) ∧
    (∀ text answer, debugging.decodeText text = .ok answer →
      ∃ w first, Word.ofText text = .ok w ∧ (Text.fields answer).head? = some first ∧
        Word.ofText first = .ok w) := by
  refine ⟨fun text answer h => ?_, fun text answer h => ?_, fun text failure => ⟨?_, ?_⟩,
    fun text answer h => ?_, fun text answer h => ?_⟩
  · obtain ⟨v, hv, rfl⟩ := Options.exists_of_encodeText h
    rw [Options.showWord_of_not_debug hplain]
    exact ⟨v, hv, Options.decodeText_hex_word hplain v, Options.encodeText_display hplain v⟩
  · obtain ⟨w, v, hw, hv, rfl⟩ := Options.exists_of_decodeText h
    rw [Options.showValue_of_not_debug hplain]
    exact ⟨w, v, hw, hv, Options.encodeText_display hplain v, Options.decodeText_hex_word hplain v⟩
  · rw [Options.encodeText_eq_error_iff, Options.encodeText_eq_error_iff]
  · rw [Options.decodeText_eq_error_iff, Options.decodeText_eq_error_iff]
  · obtain ⟨v, hv, rfl⟩ := Options.exists_of_encodeText h
    obtain ⟨hfirst, hlast⟩ := Options.fields_showWord hdebugging v
    exact ⟨v, _, _, hv, hfirst, hlast, rfl, rfl, Word.ofText_hex _, Word.ofText_decimal _⟩
  · obtain ⟨w, v, hw, -, rfl⟩ := Options.exists_of_decodeText h
    exact ⟨w, _, hw, Options.fields_showValue hdebugging w v, Word.ofText_hex w⟩

/-- A blank that is a character with another blank behind it, and a word with stray bits. -/
theorem answers_round_trip_blank_and_stray_bits :
    ({} : Options).debug = false ∧ ({ debug := true } : Options).debug = true ∧
    ({} : Options).encodeText " #\\\u00a0\u2003" = .ok "0xa007" ∧
    ({} : Options).decodeText "0xa007" = .ok "#\\\u00a0" ∧
    ({} : Options).decodeText "0x12_4107" = .ok "#\\A" ∧
    ({} : Options).encodeText "#\\A" = .ok "0x4107" ∧
    ({ debug := true } : Options).decodeText "0x12_4107" = .ok "0x124107 char #\\A" ∧
    Word.ofText "0x124107" = .ok 0x124107 := by
  have hblank : ({} : Options).encodeText " #\\\u00a0\u2003" = .ok "0xa007" := rfl
  have hstray : ({} : Options).decodeText "0x12_4107" = .ok "#\\A" := rfl
  have hdebug : ({ debug := true } : Options).decodeText "0x12_4107" =
    .ok "0x124107 char #\\A" := rfl
  obtain ⟨hthere, hback, -, -, hfirst⟩ := @answers_round_trip {} { debug := true } rfl rfl
  refine ⟨rfl, rfl, hblank, ?_, hstray, ?_, hdebug, ?_⟩
  · obtain ⟨v, hv, hdecoded, -⟩ := hthere _ _ hblank
    obtain rfl : Value.char 0xA0 = v := Except.ok.inj hv
    exact hdecoded
  · obtain ⟨w, v, hw, hv, hencoded, -⟩ := hback _ _ hstray
    obtain rfl : (0x124107 : Word) = w := Except.ok.inj hw
    obtain rfl : Value.char 0x41 = v := Except.ok.inj hv
    exact hencoded
  · obtain ⟨w, first, hw, hhead, hread⟩ := hfirst _ _ hdebug
    obtain rfl : (0x124107 : Word) = w := Except.ok.inj hw
    obtain rfl : "0x124107" = first := Option.some.inj hhead
    exact hread

end Inspector
end TaggedWords

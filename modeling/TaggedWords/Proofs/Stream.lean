import TaggedWords.Proofs.Printing
import TaggedWords.Proofs.Run
import TaggedWords.Proofs.Spelling

/-!
# A stream of printed lines

Programs that print into the same sink leave their lines one after the other.  Such a stream cannot
be cut at its line feeds, because a line feed may be the character that was printed.  There is only
one way to cut it all the same: of two lines, neither is the beginning of the other unless they are
equal, whatever kinds of values they print.

* `Value.bytes_inj` — different values are printed differently.
* `Value.line_append_inj` — the line that a stream begins with is settled by the stream.
* `Value.flatMap_line_inj` — and so are all lines of it.
* `Value.count_newline_line` — how many line feeds a line holds.
* `Run.stream` — what runs leave in a sink; `stream_unambiguous` reads it back.
-/

set_option autoImplicit false

namespace TaggedWords

namespace Text

/-- The byte that ends a line. -/
def newline : UInt8 := 0x0A

/-- A text is cut at the first occurrence of a byte in one way only. -/
theorem append_cons_inj_of_not_mem {byte : UInt8} {first first' rest rest' : List UInt8}
    (hfirst : byte ∉ first) (hfirst' : byte ∉ first')
    (h : first ++ byte :: rest = first' ++ byte :: rest') : first = first' ∧ rest = rest' := by
  have hlength : first.length = first'.length := by
    have hindex := congrArg (List.idxOf byte) h
    rw [List.idxOf_append, List.idxOf_append, if_neg hfirst, if_neg hfirst', List.idxOf_cons_self,
      List.idxOf_cons_self] at hindex
    omega
  obtain ⟨hfirsts, hrests⟩ := List.append_inj h hlength
  exact ⟨hfirsts, (List.cons.inj hrests).2⟩

end Text

namespace Value

open Text (newline)

/-! ## One line -/

/-- **Different values are printed differently.**  The bytes are the text of the value, and the
text is a literal for no other value. -/
theorem bytes_inj {v v' : Value} (h : v.bytes = v'.bytes) : v = v' := by
  have hdisplay : v.display = v'.display := by rw [← ofLatin1_bytes, h, ofLatin1_bytes]
  have hread := ofLiteral_display v
  rw [hdisplay, ofLiteral_display] at hread
  exact (Except.ok.inj hread).symm

/-- The only value whose bytes hold a line feed is the line feed. -/
theorem newline_not_mem_bytes {v : Value} (hv : v ≠ .char newline) : newline ∉ v.bytes := by
  intro hmem
  have hdisplay : Char.ofUInt8 newline ∈ v.display.toList := by
    rw [← ofLatin1_bytes, Text.ofLatin1, String.toList_ofList]
    exact List.mem_map_of_mem hmem
  exact control_not_mem_display (by decide) hv hdisplay

theorem line_append (v : Value) (rest : List UInt8) :
    v.line ++ rest = v.bytes ++ newline :: rest := by
  rw [line, List.append_assoc]
  rfl

/-- A line that begins as the line of the line feed does is that line.  Cut at its first line feed,
it would print the two signs in front of a character with no character behind them. -/
theorem line_append_ne {v : Value} (hv : v ≠ .char newline) (rest rest' : List UInt8) :
    v.line ++ rest ≠ (char newline).line ++ rest' := by
  intro h
  have hmark : newline ∉ Text.utf8 "#\\" := by decide
  have hline : (char newline).line ++ rest' = Text.utf8 "#\\" ++ newline :: newline :: rest' := by
    rw [line_append, bytes, List.append_assoc, List.singleton_append]
  rw [line_append, hline] at h
  obtain ⟨hbytes, -⟩ := Text.append_cons_inj_of_not_mem (newline_not_mem_bytes hv) hmark h
  have hrefused : ofLiteral (Text.ofLatin1 (Text.utf8 "#\\")) =
      .error (.invalidLiteral "#\\") := rfl
  have hread := ofLiteral_display v
  rw [← ofLatin1_bytes, hbytes, hrefused] at hread
  cases hread

/-- **No line is the beginning of another line**, so that a stream begins with one line only. -/
theorem line_append_inj {v v' : Value} {rest rest' : List UInt8}
    (h : v.line ++ rest = v'.line ++ rest') : v = v' ∧ rest = rest' := by
  by_cases hv : v = .char newline
  · by_cases hv' : v' = .char newline
    · subst hv hv'
      exact ⟨rfl, List.append_cancel_left h⟩
    · subst hv
      exact absurd h.symm (line_append_ne hv' rest' rest)
  · by_cases hv' : v' = .char newline
    · subst hv'
      exact absurd h (line_append_ne hv rest rest')
    · rw [line_append, line_append] at h
      obtain ⟨hbytes, hrest⟩ := Text.append_cons_inj_of_not_mem (newline_not_mem_bytes hv)
        (newline_not_mem_bytes hv') h
      exact ⟨bytes_inj hbytes, hrest⟩

/-- A line has its line feed at the end, and one more if it prints a line feed. -/
theorem count_newline_line (v : Value) :
    v.line.count newline = 1 + if v = .char newline then 1 else 0 := by
  by_cases hv : v = .char newline
  · subst hv
    rfl
  · have hline : v.line = v.bytes ++ [newline] := rfl
    rw [if_neg hv, hline, List.count_append, List.count_eq_zero.2 (newline_not_mem_bytes hv)]
    rfl

/-! ## Many lines -/

/-- Nothing is printed for no values only. -/
theorem flatMap_line_eq_nil_iff {vs : List Value} : vs.flatMap line = [] ↔ vs = [] := by
  rw [List.flatMap_eq_nil_iff, List.eq_nil_iff_forall_not_mem]
  exact forall₂_congr fun v _ => iff_of_false v.line_ne_nil id

/-- **Lines one after the other are read back**, by induction on the lines. -/
theorem flatMap_line_inj {vs vs' : List Value} (h : vs.flatMap line = vs'.flatMap line) :
    vs = vs' := by
  induction vs generalizing vs' with
  | nil => exact (flatMap_line_eq_nil_iff.1 h.symm).symm
  | cons v vs ih =>
    cases vs' with
    | nil => exact flatMap_line_eq_nil_iff.1 h
    | cons v' vs' =>
      rw [List.flatMap_cons, List.flatMap_cons] at h
      obtain ⟨rfl, hrest⟩ := line_append_inj h
      rw [ih hrest]

theorem count_newline_flatMap_line (vs : List Value) :
    (vs.flatMap line).count newline = vs.length + vs.count (.char newline) := by
  induction vs with
  | nil => rfl
  | cons v vs ih =>
    rw [List.flatMap_cons, List.count_append, count_newline_line, ih, List.length_cons,
      List.count_cons]
    simp only [beq_iff_eq]
    omega

end Value

namespace Run

/-! ## What runs leave behind -/

/-- What runs that return these words leave in one sink without a bound. -/
def stream (words : List Word) : List UInt8 :=
  match (each Sink.unlimited words).getLast? with
  | some outcome => outcome.sink.held
  | none => []

theorem stream_eq_printed (words : List Word) : stream words = printed words := by
  cases hlast : words.getLast? with
  | none =>
    obtain rfl := List.getLast?_eq_none_iff.1 hlast
    rfl
  | some w =>
    have hne : words ≠ [] := by
      rintro rfl
      cases hlast
    have hpos : 0 < words.length := List.length_pos_iff.2 hne
    rw [List.getLast?_eq_getElem?] at hlast
    obtain ⟨outcome, houtcome, hheld, -⟩ := exists_each none hlast
    rw [← length_each (Sink.ofCapacity none), ← List.getLast?_eq_getElem?] at houtcome
    rw [Nat.sub_add_cancel hpos, List.take_length] at hheld
    have hunlimited : Sink.ofCapacity none = Sink.unlimited := rfl
    rw [hunlimited] at houtcome
    rw [stream, houtcome]
    exact hheld

/-- Words that all hold values print the lines of the values. -/
theorem exists_values {words : List Word} (h : ∀ w ∈ words, ∃ v, w.classify = .ok v) :
    ∃ vs : List Value,
      words.map Word.classify = vs.map .ok ∧ printed words = vs.flatMap Value.line := by
  induction words with
  | nil => exact ⟨[], rfl, rfl⟩
  | cons w words ih =>
    rw [List.forall_mem_cons] at h
    obtain ⟨v, hv⟩ := h.1
    obtain ⟨vs, hwords, hprinted⟩ := ih h.2
    refine ⟨v :: vs, by rw [List.map_cons, hv, hwords, List.map_cons], ?_⟩
    rw [List.flatMap_cons, ← hprinted, ← Word.printed_of_ok hv]
    rfl

/-- Words hold a character as often as their values are the character. -/
theorem countP_char_eq_count {words : List Word} {vs : List Value}
    (h : words.map Word.classify = vs.map .ok) (code : UInt8) :
    (words.countP fun w => w.classify.toOption = some (.char code)) = vs.count (.char code) := by
  have hvalues : (words.map fun w => w.classify.toOption) = vs.map some := by
    have hoptions := congrArg (List.map Except.toOption) h
    rwa [List.map_map, List.map_map] at hoptions
  calc (words.countP fun w => w.classify.toOption = some (.char code))
      = (words.map fun w => w.classify.toOption).countP fun v? => v? = some (.char code) := by
        rw [List.countP_map]
        rfl
    _ = vs.countP fun v => some v = some (.char code) := by
        rw [hvalues, List.countP_map]
        rfl
    _ = vs.count (.char code) := List.countP_congr fun v _ => by simp

/-- **The output stream is unambiguous.**  Two sequences of words that all hold values leave the
same bytes only if they are equally long and hold the same values in the same order.  A stream has
a line feed for each word and another one for each line feed among the values. -/
theorem stream_unambiguous {words : List Word} (h : ∀ w ∈ words, ∃ v, w.classify = .ok v) :
    (∀ words' : List Word, (∀ w ∈ words', ∃ v, w.classify = .ok v) →
      stream words = stream words' →
        words.length = words'.length ∧ words.map Word.classify = words'.map Word.classify) ∧
    (stream words).count Text.newline =
      words.length +
        words.countP fun w => w.classify.toOption = some (.char Text.newline) := by
  obtain ⟨vs, hvs, hprinted⟩ := exists_values h
  have hlength : words.length = vs.length := by simpa using congrArg List.length hvs
  constructor
  · intro words' h' hstream
    obtain ⟨vs', hvs', hprinted'⟩ := exists_values h'
    rw [stream_eq_printed, stream_eq_printed, hprinted, hprinted'] at hstream
    have hclassify : words.map Word.classify = words'.map Word.classify := by
      rw [hvs, hvs', Value.flatMap_line_inj hstream]
    exact ⟨by simpa using congrArg List.length hclassify, hclassify⟩
  · rw [stream_eq_printed, hprinted, Value.count_newline_flatMap_line, hlength,
      countP_char_eq_count hvs]

/-- A line feed, a digit and a number, once from words with stray bits. -/
theorem stream_unambiguous_line_feed_and_stray_bits :
    let words : List Word := [0x0A07, 0x3107, 4]
    let strays : List Word := [0x110A07, -0xFFCEF9, 4]
    (∀ w ∈ words, ∃ v, w.classify = .ok v) ∧ (∀ w ∈ strays, ∃ v, w.classify = .ok v) ∧
      stream words = Text.utf8 "#\\\n\n#\\1\n1\n" ∧ stream words = stream strays ∧
      words.map Word.classify = strays.map Word.classify ∧
      (stream words).count Text.newline = 4 := by
  intro words strays
  have hwords : ∀ w ∈ words, ∃ v, w.classify = .ok v := by
    simp only [words, List.forall_mem_cons]
    exact ⟨⟨_, rfl⟩, ⟨_, rfl⟩, ⟨_, rfl⟩, List.forall_mem_nil _⟩
  have hstrays : ∀ w ∈ strays, ∃ v, w.classify = .ok v := by
    simp only [strays, List.forall_mem_cons]
    exact ⟨⟨_, rfl⟩, ⟨_, rfl⟩, ⟨_, rfl⟩, List.forall_mem_nil _⟩
  have hprinted : stream words = Text.utf8 "#\\\n\n#\\1\n1\n" := rfl
  have hprinted' : stream strays = Text.utf8 "#\\\n\n#\\1\n1\n" := rfl
  have hstream : stream words = stream strays := hprinted.trans hprinted'.symm
  obtain ⟨hread, hcount⟩ := stream_unambiguous hwords
  exact ⟨hwords, hstrays, hprinted, hstream, (hread strays hstrays hstream).2, hcount⟩

end Run
end TaggedWords

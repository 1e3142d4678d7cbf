import TaggedWords.Inspector.Session
import TaggedWords.Proofs.Backspace
import TaggedWords.Proofs.Inspector.Console

/-!
# What a process writes

A process answers the inputs of its command line and then the lines of its session, each with one
of two endings.  Neither the home nor the history in it has a part in the answers.

* `Text.LineEnd`, `Text.typed` — lines with their endings, as standard input has them.
* `Text.received` — the line that is read off; `lines_typed` reads off all of them.
* `Text.IsLine` — a line that is read off as it is, whichever of the two endings it has.
* `Text.printedLines` — texts as they are printed, each on a line of its own.
* `map_applyBackspaces?_lines`, `session_of_map` — the lines that a session reads, and what it
  breaks down at.
* `Options.responses`, `Options.exit` — the answers of a process, and how it ends;
  `process_of_read` says so for the options of its command line, and `process_of_read_word` if there
  is one word and no session.
-/

set_option autoImplicit false

namespace TaggedWords

/-! ## Lines with their endings -/

namespace Text

/-- How a line is ended. -/
inductive LineEnd where
  /-- A line feed. -/
  | feed
  /-- A carriage return and a line feed. -/
  | returnFeed
deriving DecidableEq, Repr

/-- The characters of an ending. -/
def LineEnd.chars : LineEnd → List Char
  | feed => ['\n']
  | returnFeed => ['\r', '\n']

/-- Lines with their endings. -/
def typed (lines : List (String × LineEnd)) : String :=
  String.ofList (lines.flatMap fun line => line.1.toList ++ line.2.chars)

/-- The line that is read off.  A carriage return at its end is taken for a part of the ending. -/
def received (line : String) (ending : LineEnd) : String :=
  match ending with
  | .feed => String.ofList (endedLine line.toList.reverse)
  | .returnFeed => line

/-- A line without a carriage return at its end is read off as it is, however it was ended. -/
theorem received_of_getLast?_ne {line : String} (h : line.toList.getLast? ≠ some '\r')
    (ending : LineEnd) : received line ending = line := by
  cases ending with
  | returnFeed => rfl
  | feed =>
    rw [List.getLast?_eq_head?_reverse] at h
    rw [received, endedLine]
    · rw [List.reverse_reverse, String.ofList_toList]
    · intro cs hreverse
      simp [hreverse] at h

theorem linesFrom_append_ending {line : String} (h : '\n' ∉ line.toList) (ending : LineEnd)
    (cs : List Char) :
    linesFrom [] (line.toList ++ (ending.chars ++ cs)) =
      (received line ending).toList :: linesFrom [] cs := by
  cases ending with
  | feed =>
    rw [LineEnd.chars, List.singleton_append, linesFrom_append_newline h, List.append_nil, received,
      String.toList_ofList]
  | returnFeed =>
    have hreturn : '\n' ∉ line.toList ++ ['\r'] := by simpa using h
    have hcut := linesFrom_append_newline hreturn [] cs
    rw [List.append_assoc, List.append_nil, List.reverse_append] at hcut
    rw [LineEnd.chars, received]
    exact hcut.trans (by simp [endedLine])

/-- **Every line is read off by itself**, whatever follows the lines, by induction on them. -/
theorem lines_typed_append {input : List (String × LineEnd)}
    (h : ∀ line ∈ input, '\n' ∉ line.1.toList) (rest : String) :
    lines (typed input ++ rest) =
      (input.map fun line => received line.1 line.2) ++ lines rest := by
  rw [lines, typed, String.toList_append, String.toList_ofList]
  induction input with
  | nil => rfl
  | cons line input ih =>
    rw [List.forall_mem_cons] at h
    rw [List.flatMap_cons, List.append_assoc, List.append_assoc, linesFrom_append_ending h.1,
      List.map_cons, ih h.2, String.ofList_toList, List.map_cons, List.cons_append]

theorem lines_typed {input : List (String × LineEnd)} (h : ∀ line ∈ input, '\n' ∉ line.1.toList) :
    lines (typed input) = input.map fun line => received line.1 line.2 := by
  have hlines := lines_typed_append h ""
  rw [String.append_empty] at hlines
  exact hlines.trans (List.append_nil _)

/-- A text that is read off as it is when it is put on a line, however the line is ended: it holds
no line feed, and no carriage return at its end. -/
def IsLine (line : String) : Prop :=
  '\n' ∉ line.toList ∧ line.toList.getLast? ≠ some '\r'

instance (line : String) : Decidable (IsLine line) :=
  inferInstanceAs (Decidable (_ ∧ _))

theorem map_received_of_isLine {input : List (String × LineEnd)}
    (h : ∀ line ∈ input, IsLine line.1) :
    (input.map fun line => received line.1 line.2) = input.map Prod.fst :=
  List.map_congr_left fun line hline => received_of_getLast?_ne (h line hline).2 line.2

theorem lines_typed_of_isLine {input : List (String × LineEnd)}
    (h : ∀ line ∈ input, IsLine line.1) : lines (typed input) = input.map Prod.fst := by
  rw [lines_typed fun line hline => (h line hline).1, map_received_of_isLine h]

/-- What has no ending is a single line, unless it is nothing. -/
theorem linesFrom_eq_singleton {line : List Char} (h : '\n' ∉ line) {reversed : List Char}
    (hne : line.reverse ++ reversed ≠ []) :
    linesFrom reversed line = [(line.reverse ++ reversed).reverse] := by
  induction line generalizing reversed with
  | nil =>
    rw [linesFrom, if_neg (by simpa using hne)]
    rfl
  | cons c line ih =>
    rw [List.mem_cons, not_or] at h
    rw [List.reverse_cons, List.append_assoc, List.singleton_append] at hne ⊢
    rw [linesFrom, if_neg (Ne.symm h.1), ih h.2 hne]

/-- The last line needs no ending unless it is empty. -/
theorem lines_typed_append_last {input : List (String × LineEnd)}
    (h : ∀ line ∈ input, IsLine line.1) {last : String} (hlast : '\n' ∉ last.toList)
    (hne : last ≠ "") : lines (typed input ++ last) = input.map Prod.fst ++ [last] := by
  have hrest : lines last = [last] := by
    rw [lines, linesFrom_eq_singleton hlast (by simpa using hne), List.append_nil,
      List.reverse_reverse, List.map_singleton, String.ofList_toList]
  rw [lines_typed_append fun line hline => (h line hline).1, hrest, map_received_of_isLine h]

/-- Texts on lines of their own. -/
def printedLines (texts : List String) : String :=
  typed (texts.map fun text => (text, .feed))

theorem lines_printedLines {texts : List String} (h : ∀ text ∈ texts, IsLine text) :
    lines (printedLines texts) = texts := by
  rw [printedLines, lines_typed_of_isLine, List.map_map]
  · exact List.map_id texts
  · intro line hline
    obtain ⟨text, htext, rfl⟩ := List.mem_map.1 hline
    exact h text htext

theorem printedLines_cons (text : String) (texts : List String) :
    printedLines (text :: texts) = text ++ "\n" ++ printedLines texts := by
  rw [printedLines, List.map_cons, typed, List.flatMap_cons, String.ofList_append,
    String.ofList_append, String.ofList_toList]
  rfl

theorem printedLines_append (texts more : List String) :
    printedLines (texts ++ more) = printedLines texts ++ printedLines more := by
  rw [printedLines, List.map_append, typed, List.flatMap_append, String.ofList_append]
  rfl

theorem utf8_printedLines (texts : List String) :
    utf8 (printedLines texts) = texts.flatMap fun text => utf8 (text ++ "\n") := by
  induction texts with
  | nil => rfl
  | cons text texts ih => rw [printedLines_cons, utf8_append, ih, List.flatMap_cons]

end Text

namespace Inspector

/-! ## Reading the lines of a session -/

/-- **The lines are read up to the first that cannot be read**, by induction on them. -/
theorem map_applyBackspaces?_readLines (lines : List String) :
    ∃ rest, lines.map Text.applyBackspaces? = (readLines lines).map some ++ rest ∧
      if lines.any fun line => (Text.applyBackspaces? line).isNone then rest.head? = some none
      else rest = [] := by
  induction lines with
  | nil => exact ⟨[], rfl, rfl⟩
  | cons line lines ih =>
    rw [readLines, List.map_cons, List.any_cons]
    cases Text.applyBackspaces? line with
    | none => exact ⟨_, rfl, rfl⟩
    | some left =>
      obtain ⟨rest, hlines, hrest⟩ := ih
      refine ⟨rest, ?_, hrest⟩
      rw [hlines, List.map_cons, List.cons_append]

theorem map_applyBackspaces?_lines (input : String) :
    ∃ rest, (Text.lines input).map Text.applyBackspaces? = (sessionLines input).map some ++ rest ∧
      if sessionBreaksDown input then rest.head? = some none else rest = [] :=
  map_applyBackspaces?_readLines (Text.lines input)

/-- A session whose lines can all be read reads them all, and does not break down. -/
theorem session_of_map {input : String} {left : List String}
    (h : (Text.lines input).map Text.applyBackspaces? = left.map some) :
    sessionLines input = left ∧ sessionBreaksDown input = false := by
  have hends : sessionBreaksDown input = false := by
    refine List.any_eq_false.2 fun line hline hnone => ?_
    have hsome : Text.applyBackspaces? line ∈ left.map some := h ▸ List.mem_map_of_mem hline
    obtain ⟨text, -, htext⟩ := List.mem_map.1 hsome
    rw [← htext] at hnone
    cases hnone
  obtain ⟨rest, hread, hrest⟩ := map_applyBackspaces?_lines input
  rw [if_neg (Bool.eq_false_iff.1 hends)] at hrest
  rw [h, hrest, List.append_nil, List.map_inj_right fun _ _ => Option.some.inj] at hread
  exact ⟨hread.symm, hends⟩

/-- There are lines that cannot be read: a letter with 128 accents of two bytes each is a cluster of
257 bytes, and its size is noted as 1. -/
theorem exists_isLine_unreadable :
    ∃ line, Text.IsLine line ∧ Text.applyBackspaces? line = none := by
  have hmarks : ∀ mark ∈ List.replicate 128 '\u0301',
      (Text.ClusterClass.of mark).isMark = true := by
    intro mark hmark
    rw [List.eq_of_mem_replicate hmark]
    decide
  refine ⟨String.ofList ('e' :: List.replicate 128 '\u0301' ++ [Text.backspace]), ?_,
    Text.applyBackspaces?_marked (by decide) hmarks (by decide +kernel)⟩
  rw [Text.IsLine, String.toList_ofList, List.getLast?_concat]
  refine ⟨fun hfeed => ?_, by decide⟩
  rcases List.mem_append.1 hfeed with hmarked | hlast
  · rcases List.mem_cons.1 hmarked with hletter | hmark
    · exact absurd hletter (by decide)
    · exact absurd (List.eq_of_mem_replicate hmark) (by decide)
  · exact absurd hlast (by decide)

/-! ## Answers -/

namespace Options

/-- The answers of a process: those to its command line and those to the lines of its session. -/
def responses (options : Options) (input : String) : List (Except Failure String) :=
  options.answers ++ if options.repl then (sessionLines input).map options.evalLine else []

/-- Whether the process breaks down.  Only a session can. -/
def breaksDown (options : Options) (input : String) : Bool :=
  options.repl && sessionBreaksDown input

/-- How the process ends: it has written its answers and nothing else, and kept the lines of its
session unless it broke down. -/
def exit (options : Options) (input : String) (home : Home) : Exit :=
  let out := (options.responses input).flatMap Console.toOut
  if options.breaksDown input then { status := 101, out, err := none, home }
  else
    { status := 0, out, err := some ((options.responses input).flatMap Console.toErr),
      home := if options.repl then home.record (sessionLines input) else home }

/-- **A process writes its answers and nothing else**, whatever its home is. -/
theorem process_eq (options : Options) (input : String) (home : Home) :
    options.process input home = options.exit input home := by
  have hinputs : (options.runInputs Console.unlimited).2 =
      Console.unlimited.sent options.answers := by
    rw [runInputs, Console.reportAll_unbounded rfl rfl]
  have hlines : (options.answerLines (sessionLines input)
      (Console.unlimited.sent options.answers)).2 =
        Console.unlimited.sent (options.answers ++ (sessionLines input).map options.evalLine) := by
    rw [answerLines, Console.reportAll_unbounded rfl rfl, Console.sent_sent]
  rw [process, hinputs, exit, breaksDown, responses]
  cases options.repl with
  | false =>
    simp only [Bool.false_and, if_neg Bool.false_ne_true, List.append_nil]
    rfl
  | true =>
    simp only [if_pos, hlines, Bool.true_and]
    rfl

theorem exit_of_not_breaksDown {options : Options} {input : String}
    (h : options.breaksDown input = false) (home : Home) :
    options.exit input home =
      { status := 0
        out := (options.responses input).flatMap Console.toOut
        err := some ((options.responses input).flatMap Console.toErr)
        home := if options.repl then home.record (sessionLines input) else home } := by
  rw [exit, h, if_neg Bool.false_ne_true]

theorem exit_of_breaksDown {options : Options} {input : String}
    (h : options.breaksDown input = true) (home : Home) :
    options.exit input home =
      { status := 101
        out := (options.responses input).flatMap Console.toOut
        err := none
        home } := by
  rw [exit, if_pos h]

end Options

/-- What a process does is settled by the options that its command line denotes. -/
theorem process_of_read {arguments : List String} {options : Options}
    (h : CommandLine.read arguments = .ok options) (input : String) (home : Home) :
    process arguments input home = options.exit input home := by
  rw [process, h]
  exact options.process_eq input home

/-! ## One word -/

/-- Behind two hyphens an argument is a word, whatever it looks like. -/
theorem read_terminator (text : String) :
    CommandLine.read ["--", text] = .ok { words := [text] } := rfl

/-- A process that was given one word shows the answer to it. -/
theorem process_of_read_word {arguments : List String} {text : String}
    (h : CommandLine.read arguments = .ok { words := [text] }) (input : String) (home : Home) :
    process arguments input home =
      { status := 0
        out := Console.toOut (({} : Options).decodeText text)
        err := some (Console.toErr (({} : Options).decodeText text))
        home } := by
  rw [process_of_read h, Options.exit_of_not_breaksDown rfl]
  show ({ status := 0, out := Console.toOut (({} : Options).decodeText text) ++ [],
          err := some (Console.toErr (({} : Options).decodeText text) ++ []), home } : Exit) = _
  rw [List.append_nil, List.append_nil]

end Inspector
end TaggedWords

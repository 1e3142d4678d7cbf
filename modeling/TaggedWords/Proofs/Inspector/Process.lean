import TaggedWords.Proofs.Inspector.Session

/-!
# A process is its answers

What a process writes is made of the answers of its parts and of nothing else: those to the inputs
of the command line, and then one for each line that the session reads.  That is every line, unless
a backspace would have to cut a character in two.  The home, the history in it, and the way in
which lines are ended leave no trace on the streams.

* `Exit.shown` — what is seen of a process from outside its home.
* `Options.responses_flatMap_toOut`, `Options.responses_flatMap_toErr` — the streams, part by part.
* `process_shows_answers` — what a process writes, and what it does not depend on.
-/

set_option autoImplicit false

namespace TaggedWords

open Text (LineEnd)

namespace Inspector

/-- What is seen of a process from outside its home: the status and the two streams. -/
def Exit.shown (exit : Exit) : UInt32 × List UInt8 × Option (List UInt8) :=
  (exit.status, exit.out, exit.err)

namespace Options

/-! ## The parts of a process -/

/-- What the inputs of the command line leave on the streams. -/
def shownInputs (options : Options) : Console :=
  (options.runInputs Console.unlimited).2

/-- What the answer to a line leaves on streams of its own. -/
def shownLine (options : Options) (line : String) : Console :=
  (Console.unlimited.report (options.evalLine line)).2

theorem shownInputs_held (options : Options) :
    options.shownInputs.out.held = options.answers.flatMap Console.toOut ∧
      options.shownInputs.err.held = options.answers.flatMap Console.toErr := by
  rw [shownInputs, runInputs, Console.reportAll_unbounded rfl rfl]
  exact ⟨rfl, rfl⟩

theorem shownLine_held (options : Options) (line : String) :
    (options.shownLine line).out.held = Console.toOut (options.evalLine line) ∧
      (options.shownLine line).err.held = Console.toErr (options.evalLine line) := by
  have hsingle : ∀ bytes : List UInt8, [] ++ (bytes ++ []) = bytes := fun bytes => by simp
  rw [shownLine, Console.report_unbounded rfl rfl]
  exact ⟨hsingle _, hsingle _⟩

/-- The lines of the session, if there is one. -/
def linesRead (options : Options) (input : String) : List String :=
  if options.repl then sessionLines input else []

theorem responses_eq (options : Options) (input : String) :
    options.responses input =
      options.answers ++ (options.linesRead input).map options.evalLine := by
  rw [responses, linesRead]
  cases options.repl <;> rfl

/-- **Standard output is made of the answers** to the inputs and to the lines, in order. -/
theorem responses_flatMap_toOut (options : Options) (input : String) :
    (options.responses input).flatMap Console.toOut =
      options.shownInputs.out.held ++
        (options.linesRead input).flatMap fun line => (options.shownLine line).out.held := by
  simp only [responses_eq, List.flatMap_append, List.flatMap_map, (shownInputs_held options).1,
    (shownLine_held options _).1]

/-- **Standard error is made of the reports** in the same way. -/
theorem responses_flatMap_toErr (options : Options) (input : String) :
    (options.responses input).flatMap Console.toErr =
      options.shownInputs.err.held ++
        (options.linesRead input).flatMap fun line => (options.shownLine line).err.held := by
  simp only [responses_eq, List.flatMap_append, List.flatMap_map, (shownInputs_held options).2,
    (shownLine_held options _).2]

end Options

/-! ## What a process depends on -/

section Process

variable {arguments : List String} {options : Options}
  (h : CommandLine.read arguments = .ok options)
include h

/-- Whatever its home is, a process shows the same. -/
theorem shown_process (input : String) (home home' : Home) :
    (process arguments input home).shown = (process arguments input home').shown := by
  rw [process_of_read h, process_of_read h, Options.exit, Options.exit]
  split <;> rfl

/-- Inputs with the same lines are the same to a process. -/
theorem process_congr {input input' : String} (hlines : Text.lines input = Text.lines input')
    (home : Home) : process arguments input home = process arguments input' home := by
  rw [process_of_read h, process_of_read h, Options.exit, Options.exit, Options.breaksDown,
    Options.breaksDown, Options.responses, Options.responses, sessionBreaksDown, sessionBreaksDown,
    sessionLines, sessionLines, hlines]

/-- How its lines are ended makes no difference to a process. -/
theorem process_typed_swap {lines : List (String × LineEnd × LineEnd)}
    (hlines : ∀ line ∈ lines, Text.IsLine line.1) (home : Home) :
    process arguments (Text.typed (lines.map fun line => (line.1, line.2.1))) home =
      process arguments (Text.typed (lines.map fun line => (line.1, line.2.2))) home := by
  have hended : ∀ ending : LineEnd × LineEnd → LineEnd,
      Text.lines (Text.typed (lines.map fun line => (line.1, ending line.2))) =
        lines.map Prod.fst := by
    intro ending
    rw [Text.lines_typed_of_isLine, List.map_map]
    · rfl
    · intro line hline
      obtain ⟨entry, hentry, rfl⟩ := List.mem_map.1 hline
      exact hlines entry hentry
  exact process_congr h ((hended Prod.fst).trans (hended Prod.snd).symm) home

/-- Nor does it make one whether the last line is ended, unless that line is empty. -/
theorem process_typed_last {lines : List (String × LineEnd)}
    (hlines : ∀ line ∈ lines, Text.IsLine line.1) {last : String} (hlast : Text.IsLine last)
    (hne : last ≠ "") (ending : LineEnd) (home : Home) :
    process arguments (Text.typed lines ++ last) home =
      process arguments (Text.typed (lines ++ [(last, ending)])) home := by
  have hall : ∀ line ∈ lines ++ [(last, ending)], Text.IsLine line.1 :=
    List.forall_mem_append.2 ⟨hlines, List.forall_mem_singleton.2 hlast⟩
  refine process_congr h ?_ home
  rw [Text.lines_typed_append_last hlines hlast.1 hne, Text.lines_typed_of_isLine hall,
    List.map_append (f := Prod.fst), List.map_singleton]

/-- Without a session neither the input nor the home has a part in it. -/
theorem process_of_not_repl (hrepl : options.repl = false) (input : String) (home : Home) :
    process arguments input home =
      { status := 0
        out := options.shownInputs.out.held
        err := some options.shownInputs.err.held
        home } := by
  have hnone : options.linesRead input = [] := by
    rw [Options.linesRead, hrepl, if_neg Bool.false_ne_true]
  have hnever : options.breaksDown input = false := by
    rw [Options.breaksDown, hrepl, Bool.false_and]
  rw [process_of_read h, Options.exit_of_not_breaksDown hnever, options.responses_flatMap_toOut,
    options.responses_flatMap_toErr, hnone, hrepl, if_neg Bool.false_ne_true, List.flatMap_nil,
    List.flatMap_nil, List.append_nil, List.append_nil]

/-- **A process shows its answers and nothing else.**  Standard output has what the inputs of the
command line leave there and then what each line leaves there that the session reads.  If the
session reads them all, the process ends well, and standard error is made up in the same way; if it
breaks down at one, the process ends with status 101 and leaves the home as it is.  It does so where
a backspace would cut a character in two, which takes a cluster of 256 bytes or more; a line without
a backspace is read as it is, and in a line without such a cluster each backspace takes away the
cluster before it.  Without a session the input has no part in this, and the home stays as it is.
Whatever the home is, the process shows the same; and it is the same process whichever ending the
lines have, if only the last one is ended or not empty. -/
theorem process_shows_answers :
    (∀ input home,
      let exit := process arguments input home
      let lines := if options.repl then sessionLines input else []
      exit.out = options.shownInputs.out.held ++
        lines.flatMap (fun line => (options.shownLine line).out.held) ∧
      (options.breaksDown input = false →
        exit.status = 0 ∧
        exit.err = some (options.shownInputs.err.held ++
          lines.flatMap fun line => (options.shownLine line).err.held)) ∧
      (options.breaksDown input = true → exit.status = 101 ∧ exit.home = home)) ∧
    (∀ input, ∃ rest,
      (Text.lines input).map Text.applyBackspaces? = (sessionLines input).map some ++ rest ∧
        if sessionBreaksDown input then rest.head? = some none else rest = []) ∧
    (∀ line,
      (Text.applyBackspaces? line = none ↔ Text.Unreadable line) ∧
      (Text.Unreadable line → Text.backspace ∈ line.toList ∧
        ∃ cluster ∈ Text.clusters line.toList, 256 ≤ Text.byteSize cluster) ∧
      (Text.backspace ∉ line.toList → Text.applyBackspaces? line = some line) ∧
      (Text.ShortClusters line → Text.applyBackspaces? line = some (Text.erased line))) ∧
    (options.repl = false → ∀ input input' home home',
      (process arguments input home).shown = (process arguments input' home').shown ∧
        (process arguments input home).home = home) ∧
    (∀ input home home',
      (process arguments input home).shown = (process arguments input home').shown) ∧
    (∀ (lines : List (String × LineEnd × LineEnd)) (home : Home),
      (∀ line ∈ lines, Text.IsLine line.1) →
        process arguments (Text.typed (lines.map fun line => (line.1, line.2.1))) home =
          process arguments (Text.typed (lines.map fun line => (line.1, line.2.2))) home) ∧
    ∀ (lines : List (String × LineEnd)) (last : String) (ending : LineEnd) (home : Home),
      (∀ line ∈ lines, Text.IsLine line.1) → Text.IsLine last → last ≠ "" →
        process arguments (Text.typed lines ++ last) home =
          process arguments (Text.typed (lines ++ [(last, ending)])) home := by
  refine ⟨fun input home => ?_, map_applyBackspaces?_lines,
    fun line => ⟨Text.applyBackspaces?_eq_none_iff, Text.exists_long_cluster,
      Text.applyBackspaces?_of_not_mem, Text.applyBackspaces?_of_short⟩,
    fun hrepl input input' home home' => ?_, shown_process h,
    fun lines home hlines => process_typed_swap h hlines home,
    fun lines last ending home hlines hlast hne =>
      process_typed_last h hlines hlast hne ending home⟩
  · intro exit lines
    have hexit : exit = options.exit input home := process_of_read h input home
    have hout := options.responses_flatMap_toOut input
    have herr := options.responses_flatMap_toErr input
    cases hbreak : options.breaksDown input with
    | false =>
      rw [hexit, Options.exit_of_not_breaksDown hbreak]
      exact ⟨hout, fun _ => ⟨rfl, congrArg some herr⟩, fun hnever => (nomatch hnever)⟩
    | true =>
      rw [hexit, Options.exit_of_breaksDown hbreak]
      exact ⟨hout, fun hnever => (nomatch hnever), fun _ => ⟨rfl, rfl⟩⟩
  · rw [process_of_not_repl h hrepl, process_of_not_repl h hrepl]
    exact ⟨rfl, rfl⟩
end Process

/-- A word, a session with a backspace and without a last line end, and two homes; lines that are
ended in different ways; a process without a session; and a session that breaks down at its second
line. -/
theorem process_shows_answers_of_a_session :
    let arguments := ["-r", "15"]
    let input := "44\x08\n:encode #t"
    let old := Home.directory (some "#V2\n4\n")
    CommandLine.read arguments = .ok { words := ["15"], repl := true } ∧
    CommandLine.read ["15"] = .ok { words := ["15"] } ∧
    (process arguments input old).status = 0 ∧
    (process arguments input old).out = Text.utf8 "#f\n1\n0x10f\n" ∧
    (process arguments input old).err = some [] ∧
    (process arguments input old).shown = (process arguments input .unset).shown ∧
    process arguments (Text.typed [("4", .feed), ("x", .returnFeed)]) old =
      process arguments (Text.typed [("4", .returnFeed), ("x", .feed)]) old ∧
    process arguments "4\nx" old = process arguments "4\nx\r\n" old ∧
    (process ["15"] input old).shown = (process ["15"] "" .missing).shown ∧
      (process ["15"] input old).home = old ∧
    ∃ unreadable,
      let broken :=
        process arguments (Text.typed [("4", .feed), (unreadable, .feed), ("8", .feed)]) old
      broken.status = 101 ∧ broken.out = Text.utf8 "#f\n1\n" ∧ broken.home = old := by
  intro arguments input old
  have hread : CommandLine.read arguments = .ok { words := ["15"], repl := true } := rfl
  have hread' : CommandLine.read ["15"] = .ok { words := ["15"] } := rfl
  obtain ⟨hanswers, -, -, -, hhomes, hendings, hlast⟩ := process_shows_answers hread
  obtain ⟨-, -, -, hquiet, -⟩ := process_shows_answers hread'
  obtain ⟨hshown, hhome⟩ := hquiet rfl input "" old .missing
  obtain ⟨hout, hended, -⟩ := hanswers input old
  obtain ⟨hstatus, herr⟩ := hended (by decide)
  have hlines : sessionLines input = ["4", ":encode #t"] := by decide
  rw [if_pos rfl, hlines] at hout herr
  refine ⟨hread, hread', hstatus, hout, herr, hhomes input old .unset,
    hendings [("4", .feed, .returnFeed), ("x", .returnFeed, .feed)] old (by decide),
    hlast [("4", .feed)] "x" .returnFeed old (by decide) (by decide) (by decide), hshown, hhome, ?_⟩
  obtain ⟨unreadable, hline, hnone⟩ := exists_isLine_unreadable
  have htyped : Text.lines (Text.typed [("4", .feed), (unreadable, .feed), ("8", .feed)]) =
      ["4", unreadable, "8"] :=
    Text.lines_typed_of_isLine (List.forall_mem_cons.2
      ⟨by decide, List.forall_mem_cons.2 ⟨hline, by decide⟩⟩)
  have hfour : Text.applyBackspaces? "4" = some "4" := by decide
  have hbreaks : ({ words := ["15"], repl := true } : Options).breaksDown
      (Text.typed [("4", .feed), (unreadable, .feed), ("8", .feed)]) = true := by
    rw [Options.breaksDown, sessionBreaksDown, htyped, List.any_cons, hfour, List.any_cons, hnone]
    rfl
  obtain ⟨hbefore, -, hbroken⟩ :=
    hanswers (Text.typed [("4", .feed), (unreadable, .feed), ("8", .feed)]) old
  obtain ⟨hfailed, hkept⟩ := hbroken hbreaks
  rw [if_pos rfl, sessionLines, htyped, readLines, hfour, readLines, hnone] at hbefore
  exact ⟨unreadable, hfailed, hbefore, hkept⟩

/-- A line is not answered as it was typed if there is a backspace in it. -/
theorem backspaced_line_not_answered_as_typed :
    CommandLine.read ["--repl"] = .ok { repl := true } ∧
    (process ["--repl"] "44\x08\n" .unset).out = Text.utf8 "1\n" ∧
    (process ["--repl"] "44\x08\n" .unset).out ≠
      ({ repl := true } : Options).shownInputs.out.held ++
        (Text.lines "44\x08\n").flatMap fun line =>
          (({ repl := true } : Options).shownLine line).out.held := by
  have hread : CommandLine.read ["--repl"] = .ok { repl := true } := rfl
  have hgood : ({ repl := true } : Options).breaksDown "44\x08\n" = false := by decide
  have hout : (process ["--repl"] "44\x08\n" .unset).out = Text.utf8 "1\n" := by
    rw [process_of_read hread, Options.exit_of_not_breaksDown hgood,
      Options.responses_flatMap_toOut]
    rfl
  have htyped : ({ repl := true } : Options).shownInputs.out.held ++
      ((Text.lines "44\x08\n").flatMap fun line =>
        (({ repl := true } : Options).shownLine line).out.held) = [] := rfl
  refine ⟨hread, hout, ?_⟩
  rw [hout, htyped]
  decide

end Inspector
end TaggedWords

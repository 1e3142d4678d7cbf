import TaggedWords.Proofs.Inspector.RoundTrip
import TaggedWords.Proofs.Inspector.Session
import TaggedWords.Proofs.Printing

/-!
# A session that asks for words

One session asks for the words of values, a line for each, and another asks for the values of the
words that it was given.  A value is written on its line as it is printed, and a character is
printed as itself.  So two characters do not get through: a line is read without a carriage return
at its end, and a backspace takes away what stands before it.

* `request`, `requests` — a line that asks for the word of a value, and such lines one by one.
* `remnant?` — what the line still holds of a literal that did not get through.
* `requestRead` — what is read of the line; `session_requests` says so for all of them.
* `evalLine_request` — the answer to one line; `answers_of_requests` has them all.
* `answers_of_words` — the answers of the second session.
* `dialogue_round_trip` — the second session shows the values that the first one answered.
-/

set_option autoImplicit false

namespace TaggedWords

open Text (LineEnd)

namespace Inspector

/-! ## One request -/

/-- The line that asks for the word of a value. -/
def request (v : Value) : String :=
  String.ofList (Options.encodeCommand ++ ' ' :: v.display.toList)

/-- What a line still holds of the literal, if that did not get through. -/
def remnant? (v : Value) (ending : LineEnd) : Option String :=
  if v = .char 0x08 then some "#"
  else if v = .char 0x0D ∧ ending = .feed then some "#\\"
  else none

/-- The answer to a request on a line with the given ending. -/
def reply (v : Value) (ending : LineEnd) : Except Failure String :=
  match remnant? v ending with
  | some remnant => .error (.invalidLiteral remnant)
  | none => .ok v.word.hex

theorem control_not_mem_request {v : Value} (code : UInt8) (hcode : code.toNat < 32)
    (hv : v ≠ .char code) : Char.ofUInt8 code ∉ (request v).toList := by
  have hcommand : (Options.encodeCommand ++ [' ']).all (fun c => decide (32 ≤ c.toNat)) = true := by
    decide
  have hcontrol : (Char.ofUInt8 code).toNat < 32 := hcode
  rw [request, String.toList_ofList, List.append_cons, List.mem_append, not_or]
  refine ⟨fun hmem => ?_, Value.control_not_mem_display hcode hv⟩
  have hvisible := of_decide_eq_true (List.all_eq_true.1 hcommand _ hmem)
  omega

/-- What the line still holds when it has been read: all of the request, or a remnant of the literal
in place of the literal. -/
def requestRead (v : Value) (ending : LineEnd) : String :=
  String.ofList (Options.encodeCommand ++ ' ' :: ((remnant? v ending).getD v.display).toList)

/-- **A request can always be read.** -/
theorem applyBackspaces?_received_request (v : Value) (ending : LineEnd) :
    Text.applyBackspaces? (Text.received (request v) ending) = some (requestRead v ending) := by
  by_cases hbackspace : v = .char 0x08
  · subst hbackspace
    cases ending <;> rfl
  · by_cases hreturn : v = .char 0x0D ∧ ending = .feed
    · obtain ⟨rfl, rfl⟩ := hreturn
      rfl
    · have hreceived : Text.received (request v) ending = request v := by
        cases ending with
        | returnFeed => rfl
        | feed =>
          have hchar : v ≠ .char 0x0D := fun h => hreturn ⟨h, rfl⟩
          refine Text.received_of_getLast?_ne (fun hlast => ?_) _
          exact control_not_mem_request 0x0D (by decide) hchar (List.mem_of_getLast? hlast)
      have hclean : Text.backspace ∉ (request v).toList :=
        control_not_mem_request 0x08 (by decide) hbackspace
      rw [hreceived, Text.applyBackspaces?_of_not_mem hclean, requestRead, remnant?,
        if_neg hbackspace, if_neg hreturn]
      rfl

/-- A remnant is no literal, and the complaint shows all of it. -/
theorem ofLiteral_remnant {v : Value} {ending : LineEnd} {remnant : String}
    (h : remnant? v ending = some remnant) :
    Value.ofLiteral remnant = .error (.invalidLiteral remnant) := by
  rw [remnant?] at h
  split at h
  · obtain rfl := Option.some.inj h
    rfl
  · split at h
    · obtain rfl := Option.some.inj h
      rfl
    · cases h

/-- **What comes of a request.**  It is answered unless the literal did not get through. -/
theorem evalLine_request {plain : Options} (hplain : plain.debug = false) (v : Value)
    (ending : LineEnd) :
    plain.evalLine (requestRead v ending) = reply v ending := by
  have hblank : Text.isBlank ' ' = true := by decide
  have hanswer : ∀ literal : String, plain.evalLine
      (String.ofList (Options.encodeCommand ++ ' ' :: literal.toList)) =
        plain.encodeText literal := by
    intro literal
    have hstart : Text.trimStart
        (String.ofList (Options.encodeCommand ++ ' ' :: literal.toList)).toList =
          Options.encodeCommand ++ ' ' :: literal.toList := by
      rw [String.toList_ofList]
      exact Text.trimStart_cons_of_not_blank (by decide) _
    exact Options.evalLine_encode hblank hstart
  rw [requestRead, hanswer, reply]
  cases hremnant : remnant? v ending with
  | some remnant =>
    rw [Option.getD_some]
    exact Options.encodeText_eq_error_iff.2 (ofLiteral_remnant hremnant)
  | none =>
    rw [Option.getD_none]
    exact Options.encodeText_display hplain v

/-! ## Many requests -/

/-- The lines that ask for the words of values, with their endings. -/
def requests (entries : List (Value × LineEnd)) : String :=
  Text.typed (entries.map fun entry => (request entry.1, entry.2))

/-- The values that get through. -/
def answered (entries : List (Value × LineEnd)) : List Value :=
  (entries.filter fun entry => (remnant? entry.1 entry.2).isNone).map Prod.fst

/-- What is left of the others. -/
def remnants (entries : List (Value × LineEnd)) : List String :=
  entries.filterMap fun entry => remnant? entry.1 entry.2

/-- A session reads all requests, one by one. -/
theorem session_requests {entries : List (Value × LineEnd)}
    (h : ∀ entry ∈ entries, entry.1 ≠ .char 0x0A) :
    sessionLines (requests entries) = (entries.map fun entry => requestRead entry.1 entry.2) ∧
      sessionBreaksDown (requests entries) = false := by
  have hlines : ∀ line ∈ entries.map fun entry => (request entry.1, entry.2),
      '\n' ∉ line.1.toList := by
    intro line hline
    obtain ⟨entry, hentry, rfl⟩ := List.mem_map.1 hline
    exact control_not_mem_request 0x0A (by decide) (h entry hentry)
  refine session_of_map ?_
  rw [requests, Text.lines_typed hlines, List.map_map, List.map_map, List.map_map]
  refine List.map_congr_left fun entry _ => ?_
  simp only [Function.comp_apply]
  exact applyBackspaces?_received_request entry.1 entry.2

/-- **Every request gets its own answer**, in the order of the requests. -/
theorem answers_of_requests {plain : Options} (hplain : plain.debug = false)
    {entries : List (Value × LineEnd)} (h : ∀ entry ∈ entries, entry.1 ≠ .char 0x0A) :
    (sessionLines (requests entries)).map plain.evalLine =
      entries.map fun entry => reply entry.1 entry.2 := by
  rw [(session_requests h).1, List.map_map]
  refine List.map_congr_left fun entry _ => ?_
  rw [Function.comp_apply]
  exact evalLine_request hplain entry.1 entry.2

/-- Standard output gets the words of the values that got through. -/
theorem toOut_replies (entries : List (Value × LineEnd)) :
    (entries.map fun entry => reply entry.1 entry.2).flatMap Console.toOut =
      Text.utf8 (Text.printedLines ((answered entries).map fun v => v.word.hex)) := by
  rw [Text.utf8_printedLines]
  induction entries with
  | nil => rfl
  | cons entry entries ih =>
    rw [List.map_cons, List.flatMap_cons, ih, answered, answered, List.filter_cons, reply]
    cases remnant? entry.1 entry.2 <;> rfl

/-- Standard error gets the complaints about the others. -/
theorem toErr_replies (entries : List (Value × LineEnd)) :
    (entries.map fun entry => reply entry.1 entry.2).flatMap Console.toErr =
      (remnants entries).flatMap fun remnant =>
        Text.utf8 (Report.render (.invalidLiteral remnant)) := by
  induction entries with
  | nil => rfl
  | cons entry entries ih =>
    rw [List.map_cons, List.flatMap_cons, ih, remnants, remnants, List.filterMap_cons, reply]
    cases remnant? entry.1 entry.2 <;> rfl

/-! ## The words asked back -/

/-- Texts that are all answers are printed on lines of their own. -/
theorem toOut_map_ok (texts : List String) :
    (texts.map Except.ok).flatMap Console.toOut = Text.utf8 (Text.printedLines texts) := by
  rw [Text.utf8_printedLines, List.flatMap_map]
  rfl

theorem toErr_map_ok (texts : List String) : (texts.map Except.ok).flatMap Console.toErr = [] := by
  rw [List.flatMap_eq_nil_iff]
  intro answer hanswer
  obtain ⟨text, -, rfl⟩ := List.mem_map.1 hanswer
  rfl

theorem evalLine_hex {plain : Options} (hplain : plain.debug = false) (v : Value) :
    plain.evalLine v.word.hex = .ok v.display := by
  have hword : ∀ c ∈ v.word.hex.toList, Text.isBlank c = false :=
    Word.forall_mem_hex (by decide) (by decide) v.word
  have hne : v.word.hex.toList ≠ [] := by simp [Word.hex]
  rw [Options.evalLine_word hne hword, Options.decodeText_hex_word hplain]

/-- A session reads all words, one by one. -/
theorem session_words (vs : List Value) :
    let printed := Text.printedLines (vs.map fun v => v.word.hex)
    sessionLines printed = (vs.map fun v => v.word.hex) ∧ sessionBreaksDown printed = false := by
  have hclean : ∀ w : Word, ∀ c ∈ w.hex.toList, c ≠ '\n' ∧ c ≠ '\r' ∧ c ≠ Text.backspace :=
    Word.forall_mem_hex (by decide) (by decide)
  have hlines : ∀ text ∈ vs.map fun v => v.word.hex, Text.IsLine text := by
    intro text htext
    obtain ⟨v, -, rfl⟩ := List.mem_map.1 htext
    exact ⟨fun hmem => (hclean v.word _ hmem).1 rfl,
      fun hlast => (hclean v.word _ (List.mem_of_getLast? hlast)).2.1 rfl⟩
  refine session_of_map ?_
  rw [Text.lines_printedLines hlines, List.map_map, List.map_map]
  refine List.map_congr_left fun v _ => Text.applyBackspaces?_of_not_mem fun hmem => ?_
  exact (hclean v.word _ hmem).2.2 rfl

/-- **A session that is given the words of values shows the values.** -/
theorem answers_of_words {plain : Options} (hplain : plain.debug = false) (vs : List Value) :
    (sessionLines (Text.printedLines (vs.map fun v => v.word.hex))).map plain.evalLine =
      (vs.map Value.display).map .ok := by
  rw [(session_words vs).1, List.map_map, List.map_map]
  exact List.map_congr_left fun v _ => evalLine_hex hplain v

/-! ## Two sessions -/

/-- A process that is asked for a session and for nothing else writes the answers of the session,
if it can read all lines. -/
theorem process_repl {input : String} {answers : List (Except Failure String)}
    (hread : sessionBreaksDown input = false)
    (h : (sessionLines input).map ({ repl := true } : Options).evalLine = answers) (home : Home) :
    process ["--repl"] input home =
      { status := 0
        out := answers.flatMap Console.toOut
        err := some (answers.flatMap Console.toErr)
        home := home.record (sessionLines input) } := by
  have hoptions : CommandLine.read ["--repl"] = .ok { repl := true } := rfl
  have hbreaks : ({ repl := true } : Options).breaksDown input = false := hread
  rw [← h, process_of_read hoptions, Options.exit_of_not_breaksDown hbreaks]
  rfl

/-- **Values come through two sessions**, except for two that the lines of the first one do not
carry.  A session that is asked for the words of values answers each request in turn.  A backspace
takes away the backslash before it, however its line is ended, and a carriage return right before a
bare line feed is taken for a part of the ending; what is left of either is complained about, and
no word is printed.  A second session that reads what the first one printed shows the other values
in their order. -/
theorem dialogue_round_trip {entries : List (Value × LineEnd)}
    (h : ∀ entry ∈ entries, entry.1 ≠ .char 0x0A) (home home' : Home) :
    let first := process ["--repl"] (requests entries) home
    let printed := Text.printedLines ((answered entries).map fun v => v.word.hex)
    let second := process ["--repl"] printed home'
    (sessionLines (requests entries)).map ({ repl := true } : Options).evalLine =
        (entries.map fun entry => reply entry.1 entry.2) ∧
      first.status = 0 ∧ first.out = Text.utf8 printed ∧
      first.err = some ((remnants entries).flatMap fun remnant =>
        Text.utf8 (Report.render (.invalidLiteral remnant))) ∧
      second.status = 0 ∧
      second.out = Text.utf8 (Text.printedLines ((answered entries).map Value.display)) ∧
      second.err = some [] := by
  intro first printed second
  have hreplies := @answers_of_requests { repl := true } rfl entries h
  have hshown := @answers_of_words { repl := true } rfl (answered entries)
  have hfirst : first = _ := process_repl (session_requests h).2 hreplies home
  have hsecond : second = _ := process_repl (session_words (answered entries)).2 hshown home'
  rw [toOut_replies, toErr_replies] at hfirst
  rw [toOut_map_ok, toErr_map_ok] at hsecond
  refine ⟨hreplies, ?_, ?_, ?_, ?_, ?_, ?_⟩
  · rw [hfirst]
  · rw [hfirst]
  · rw [hfirst]
  · rw [hsecond]
  · rw [hsecond]
  · rw [hsecond]

/-- A carriage return gets through before the longer ending only, and a backspace does not get
through before either. -/
theorem dialogue_round_trip_of_control_characters :
    let entries := [(Value.char 0x0D, LineEnd.feed), (.char 0x08, .returnFeed), (.char 0xA0, .feed),
      (.char 0x0D, .returnFeed)]
    (∀ entry ∈ entries, entry.1 ≠ .char 0x0A) ∧
    (process ["--repl"] (requests entries) .unset).out = Text.utf8 "0xa007\n0xd07\n" ∧
    (process ["--repl"] (requests entries) .unset).err =
      some (["#\\", "#"].flatMap fun remnant =>
        Text.utf8 (Report.render (.invalidLiteral remnant))) ∧
    (process ["--repl"] "0xa007\n0xd07\n" .missing).out = Text.utf8 "#\\\u00a0\n#\\\r\n" := by
  intro entries
  have hentries : ∀ entry ∈ entries, entry.1 ≠ .char 0x0A := by decide
  have hprinted : Text.printedLines ((answered entries).map fun v => v.word.hex) =
      "0xa007\n0xd07\n" := rfl
  have hvalues : Text.printedLines ((answered entries).map Value.display) =
      "#\\\u00a0\n#\\\r\n" := rfl
  have hremnants : remnants entries = ["#\\", "#"] := rfl
  obtain ⟨-, -, hout, herr, -, hshown, -⟩ := dialogue_round_trip hentries .unset .missing
  rw [hremnants] at herr
  rw [hprinted] at hout hshown
  rw [hvalues] at hshown
  exact ⟨hentries, hout, herr, hshown⟩

/-- A backspace is not answered with its word, however its line is ended. -/
theorem backspace_request_not_answered :
    let word := Text.utf8 ((Value.char 0x08).word.hex ++ "\n")
    let complaint := some (Text.utf8 (Report.render (.invalidLiteral "#")))
    let feed := process ["--repl"] (requests [(.char 0x08, .feed)]) (.directory none)
    let returnFeed := process ["--repl"] (requests [(.char 0x08, .returnFeed)]) (.directory none)
    feed.out ≠ word ∧ feed.err = complaint ∧
      returnFeed.out ≠ word ∧ returnFeed.err = complaint := by
  intro word complaint feed returnFeed
  have hrefused : ∀ ending,
      let exit := process ["--repl"] (requests [(.char 0x08, ending)]) (.directory none)
      exit.out = [] ∧ exit.err = complaint := by
    intro ending
    have hentries : ∀ entry ∈ [(Value.char 0x08, ending)], entry.1 ≠ .char 0x0A := by simp
    have hanswered : answered [(.char 0x08, ending)] = [] := rfl
    have hremnants : remnants [(.char 0x08, ending)] = ["#"] := rfl
    rw [process_repl (session_requests hentries).2 (answers_of_requests rfl hentries),
      toOut_replies, toErr_replies, hanswered, hremnants, List.flatMap_singleton]
    exact ⟨rfl, rfl⟩
  have hword : word ≠ [] := by decide
  obtain ⟨hfeed, hfeedComplaint⟩ := hrefused .feed
  obtain ⟨hreturnFeed, hreturnFeedComplaint⟩ := hrefused .returnFeed
  refine ⟨?_, hfeedComplaint, ?_, hreturnFeedComplaint⟩
  · exact fun h => hword (h.symm.trans hfeed)
  · exact fun h => hword (h.symm.trans hreturnFeed)

end Inspector
end TaggedWords

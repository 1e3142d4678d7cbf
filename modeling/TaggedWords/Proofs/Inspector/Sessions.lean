import TaggedWords.Proofs.Inspector.History

/-!
# Sessions one after the other

Sessions that share a home share a history.  Each one starts from the file that the sessions before
it left, and what they leave together does not show where one of them ended: it is the file that a
single session with all the lines would have left.  What a line is worth as an answer plays no part
in this.  A session that breaks down leaves nothing, as if it had not been.

* `meant` — the lines that a session leaves, with the effect of the backspaces in them.
* `homeAfter` — the home that sessions leave; `homeAfter_directory` is the induction over them.
* `history_of_sessions` — the file, in terms of the lines of all sessions.
-/

set_option autoImplicit false

namespace TaggedWords

open Text (LineEnd)

namespace Inspector

/-! ## What sessions leave -/

/-- Whether a session breaks down: one of its lines cannot be read. -/
def breaksDown (session : List (String × LineEnd)) : Bool :=
  session.any fun line => (Text.applyBackspaces? line.1).isNone

/-- The lines that a session leaves: all of them as they were meant, that is, what the backspaces in
them leave; or none, if it breaks down. -/
def meant (session : List (String × LineEnd)) : List String :=
  if breaksDown session then [] else session.filterMap fun line => Text.applyBackspaces? line.1

/-- The home after sessions with the given lines, each of them a process of its own. -/
def homeAfter (home : Home) (sessions : List (List (String × LineEnd))) : Home :=
  sessions.foldl (fun home session => (process ["--repl"] (Text.typed session) home).home) home

section Session

variable {session : List (String × LineEnd)}

theorem breaksDown_iff : breaksDown session = true ↔ ∃ line ∈ session, Text.Unreadable line.1 := by
  simp only [breaksDown, List.any_eq_true, Option.isNone_iff_eq_none,
    Text.applyBackspaces?_eq_none_iff]

theorem meant_of_breaksDown (h : breaksDown session = true) : meant session = [] := by
  rw [meant, if_pos h]

theorem meant_of_not_breaksDown (h : breaksDown session = false) :
    meant session = session.filterMap fun line => Text.applyBackspaces? line.1 := by
  rw [meant, h, if_neg Bool.false_ne_true]

/-- A session that does not break down has a reading of every line. -/
theorem map_some_meant (h : breaksDown session = false) :
    (meant session).map some = session.map fun line => Text.applyBackspaces? line.1 := by
  have hall : ∀ line ∈ session, (Text.applyBackspaces? line.1).map some =
      some (Text.applyBackspaces? line.1) := by
    intro line hline
    obtain ⟨left, hleft⟩ := Option.ne_none_iff_exists'.1 fun hnone =>
      List.any_eq_false.1 h line hline (Option.isNone_iff_eq_none.2 hnone)
    rw [hleft, Option.map_some]
  rw [meant_of_not_breaksDown h, List.map_filterMap, List.filterMap_congr hall,
    List.filterMap_eq_map']

/-- Lines that can all be read are all meant. -/
theorem meant_of_forall {reading : String → String}
    (h : ∀ line ∈ session, Text.applyBackspaces? line.1 = some (reading line.1)) :
    breaksDown session = false ∧ meant session = session.map fun line => reading line.1 := by
  have hdown : breaksDown session = false := by
    refine List.any_eq_false.2 fun line hline hnone => ?_
    rw [h line hline] at hnone
    cases hnone
  rw [meant_of_not_breaksDown hdown, List.filterMap_congr h, List.filterMap_eq_map']
  exact ⟨hdown, rfl⟩

/-- Backspaces do not break a line. -/
theorem isLine_of_mem_meant (h : ∀ line ∈ session, Text.IsLine line.1) {left : String}
    (hleft : left ∈ meant session) (hreturn : left.toList.getLast? ≠ some '\r') :
    Text.IsLine left := by
  refine ⟨fun hfeed => ?_, hreturn⟩
  cases hdown : breaksDown session with
  | true =>
    rw [meant_of_breaksDown hdown] at hleft
    cases hleft
  | false =>
    rw [meant_of_not_breaksDown hdown, List.mem_filterMap] at hleft
    obtain ⟨line, hline, hread⟩ := hleft
    exact (h line hline).1 (Text.mem_of_mem_applyBackspaces? hread hfeed)

/-- **A session records what is meant by its lines**, whatever the answers to them are. -/
theorem home_process_repl (h : ∀ line ∈ session, Text.IsLine line.1) (home : Home) :
    (process ["--repl"] (Text.typed session) home).home = home.record (meant session) := by
  have hread : CommandLine.read ["--repl"] = .ok { repl := true } := rfl
  have hlines := Text.lines_typed_of_isLine h
  rw [process_of_read hread]
  cases hdown : breaksDown session with
  | true =>
    have hbreaks : ({ repl := true } : Options).breaksDown (Text.typed session) = true := by
      rw [Options.breaksDown, sessionBreaksDown, hlines, List.any_map, Bool.true_and]
      exact hdown
    rw [Options.exit_of_breaksDown hbreaks, meant_of_breaksDown hdown, Home.record_nil]
  | false =>
    have hall : (Text.lines (Text.typed session)).map Text.applyBackspaces? =
        (meant session).map some := by
      rw [hlines, List.map_map, map_some_meant hdown]
      rfl
    obtain ⟨hlines, hends⟩ := session_of_map hall
    have hbreaks : ({ repl := true } : Options).breaksDown (Text.typed session) = false := hends
    rw [Options.exit_of_not_breaksDown hbreaks, hlines]
    rfl

end Session

/-- Sessions that do not break down may be joined. -/
theorem meant_flatten {sessions : List (List (String × LineEnd))}
    (h : ∀ session ∈ sessions, breaksDown session = false) :
    meant sessions.flatten = sessions.flatMap meant := by
  have hdown : breaksDown sessions.flatten = false := by
    rw [breaksDown, List.any_flatten, List.any_eq_false]
    exact fun session hsession => Bool.eq_false_iff.1 (h session hsession)
  have hmeant : ∀ session ∈ sessions,
      (session.filterMap fun line => Text.applyBackspaces? line.1) = meant session :=
    fun session hsession => (meant_of_not_breaksDown (h session hsession)).symm
  rw [meant_of_not_breaksDown hdown, List.filterMap_flatten, List.map_congr_left hmeant,
    List.flatMap_def]

/-! ## Many sessions -/

/-- Every line is read off as it is, and so is what is meant by it when it stands in the file. -/
def Recordable (session : List (String × LineEnd)) : Prop :=
  (∀ line ∈ session, Text.IsLine line.1) ∧
    ∀ left ∈ meant session, left.toList.getLast? ≠ some '\r'

instance (session : List (String × LineEnd)) : Decidable (Recordable session) :=
  inferInstanceAs (Decidable (_ ∧ _))

theorem recordable_flatten {sessions : List (List (String × LineEnd))}
    (h : ∀ session ∈ sessions, Recordable session)
    (hwhole : ∀ session ∈ sessions, breaksDown session = false) :
    Recordable sessions.flatten := by
  constructor
  · intro line hline
    obtain ⟨session, hsession, hline⟩ := List.mem_flatten.1 hline
    exact (h session hsession).1 line hline
  · intro left hleft
    rw [meant_flatten hwhole] at hleft
    obtain ⟨session, hsession, hleft⟩ := List.mem_flatMap.1 hleft
    exact (h session hsession).2 left hleft

/-- **Sessions add what is kept of their lines to the file**, by induction on the sessions.
`lines` are those of the sessions before. -/
theorem homeAfter_directory {sessions : List (List (String × LineEnd))} {lines : List String}
    (hsessions : ∀ session ∈ sessions, Recordable session)
    (hlines : ∀ line ∈ lines, Text.IsLine line)
    (hsize : (History.kept (lines ++ sessions.flatMap meant)).length ≤ History.limit) :
    homeAfter (.directory (History.fileOf (History.kept lines))) sessions =
      .directory (History.fileOf (History.kept (lines ++ sessions.flatMap meant))) := by
  induction sessions generalizing lines with
  | nil => rw [List.flatMap_nil, List.append_nil, homeAfter, List.foldl_nil]
  | cons session sessions ih =>
    rw [List.forall_mem_cons] at hsessions
    rw [List.flatMap_cons, ← List.append_assoc] at hsize ⊢
    have hmore : ∀ line ∈ lines ++ meant session, Text.IsLine line := by
      intro line hline
      rcases List.mem_append.1 hline with hbefore | hnow
      · exact hlines line hbefore
      · exact isLine_of_mem_meant hsessions.1.1 hnow (hsessions.1.2 line hnow)
    have hkept : ∀ entry ∈ History.kept (lines ++ meant session), Text.IsLine entry :=
      fun entry hentry => hmore entry ((History.kept_sublist _).subset hentry)
    have hroom := (History.kept_isPrefix (lines ++ meant session) _).length_le.trans hsize
    rw [homeAfter, List.foldl_cons, home_process_repl hsessions.1.1, Home.record,
      History.record_fileOf hkept hroom]
    exact ih hsessions.2 hmore hsize

/-- The same for sessions that start without a file. -/
theorem homeAfter_begun {sessions : List (List (String × LineEnd))}
    (hsessions : ∀ session ∈ sessions, Recordable session)
    (hsize : (History.kept (sessions.flatMap meant)).length ≤ History.limit) :
    homeAfter (.directory none) sessions =
      .directory (History.fileOf (History.kept (sessions.flatMap meant))) :=
  @homeAfter_directory sessions [] hsessions (List.forall_mem_nil _) hsize

/-- **What sessions leave in the history depends on their lines alone.**  The file has the lines of
all sessions in order, without the empty ones and without those that repeat the one before, each
with its backslashes doubled; there is no file if nothing is left of the lines.  The lines are those
that the backspaces in them leave, and they may not end in a carriage return.  A session only ever
adds to the file.  One that breaks down adds nothing, and sessions that do not may be joined or
split.  A session breaks down where a backspace would cut a character in two.  It does not if there
is no backspace in it, and its lines are then as they were typed; nor if its lines have no cluster
of 256 bytes or more, and each backspace then takes away the cluster before it. -/
theorem history_of_sessions {sessions : List (List (String × LineEnd))}
    (hsessions : ∀ session ∈ sessions, Recordable session)
    (hsize : (History.kept (sessions.flatMap meant)).length ≤ History.limit) :
    let entries := History.kept (sessions.flatMap meant)
    homeAfter (.directory none) sessions =
        .directory (if entries = [] then none
          else some (Text.printedLines ("#V2" :: entries.map History.doubled))) ∧
      ((∀ session ∈ sessions, breaksDown session = false) →
        homeAfter (.directory none) [sessions.flatten] = homeAfter (.directory none) sessions) ∧
      (∀ earlier later, sessions = earlier ++ later →
        ∀ text, (homeAfter (.directory none) earlier).history? = some text →
          ∃ more, (homeAfter (.directory none) sessions).history? = some (text ++ more)) ∧
      ∀ session : List (String × LineEnd),
        (breaksDown session = true ↔ ∃ line ∈ session, Text.Unreadable line.1) ∧
        ((∀ line ∈ session, Text.backspace ∉ line.1.toList) →
          breaksDown session = false ∧ meant session = session.map Prod.fst) ∧
        ((∀ line ∈ session, Text.ShortClusters line.1) →
          breaksDown session = false ∧
            meant session = session.map fun line => Text.erased line.1) := by
  intro entries
  have hall := homeAfter_begun hsessions hsize
  refine ⟨hall, fun hwhole => ?_, fun earlier later hsplit text htext => ?_,
    fun session => ⟨breaksDown_iff, fun hclean => ?_, fun hshort => ?_⟩⟩
  · have hjoined : [sessions.flatten].flatMap meant = sessions.flatMap meant := by
      rw [List.flatMap_singleton, meant_flatten hwhole]
    have hflat : ∀ session ∈ [sessions.flatten], Recordable session :=
      List.forall_mem_singleton.2 (recordable_flatten hsessions hwhole)
    rw [hall, ← hjoined]
    exact homeAfter_begun hflat (by rwa [hjoined])
  · have hbegins : History.kept (earlier.flatMap meant) <+: entries := by
      rw [show entries = History.kept (earlier.flatMap meant ++ later.flatMap meant) by
        rw [← List.flatMap_append, ← hsplit]]
      exact History.kept_isPrefix _ _
    have hearlier := homeAfter_begun
      (fun session hsession => hsessions session (hsplit ▸ List.mem_append_left later hsession))
      (hbegins.length_le.trans hsize)
    rw [hearlier] at htext
    rw [hall]
    exact History.exists_fileOf_append htext hbegins
  · exact @meant_of_forall session id fun line hline =>
      Text.applyBackspaces?_of_not_mem (hclean line hline)
  · exact meant_of_forall fun line hline => Text.applyBackspaces?_of_short (hshort line hline)

/-- Two sessions with an entry that the second one repeats, a line that a backspace shortens, and
lines that are refused. -/
theorem history_of_sessions_repeating_an_entry :
    let sessions := [[("0x1001", LineEnd.feed), ("", .feed), ("#\\A", .returnFeed)],
      [("#\\A", .feed), ("44\x08", .feed)]]
    (∀ session ∈ sessions, Recordable session) ∧
    (History.kept (sessions.flatMap meant)).length ≤ History.limit ∧
    (∀ session ∈ sessions, breaksDown session = false) ∧
    homeAfter (.directory none) sessions = .directory (some "#V2\n0x1001\n#\\\\A\n4\n") ∧
    homeAfter (.directory none) [sessions.flatten] = homeAfter (.directory none) sessions := by
  intro sessions
  have hsessions : ∀ session ∈ sessions, Recordable session := by decide
  have hsize : (History.kept (sessions.flatMap meant)).length ≤ History.limit := by decide
  have hwhole : ∀ session ∈ sessions, breaksDown session = false := by decide
  obtain ⟨hfile, hjoined, -⟩ := history_of_sessions hsessions hsize
  exact ⟨hsessions, hsize, hwhole, hfile, hjoined hwhole⟩

/-- A line is not kept as it was typed if there is a backspace in it. -/
theorem backspaced_line_not_kept_as_typed :
    let sessions := [[("44\x08", LineEnd.feed)]]
    let entries := History.kept (sessions.flatMap fun session => session.map Prod.fst)
    (∀ session ∈ sessions, ∀ line ∈ session, Text.IsLine line.1) ∧
      entries.length ≤ History.limit ∧
      homeAfter (.directory none) sessions = .directory (some "#V2\n4\n") ∧
      History.fileOf entries = some "#V2\n44\x08\n" ∧
      homeAfter (.directory none) sessions ≠ .directory (History.fileOf entries) := by
  intro sessions entries
  have hsessions : ∀ session ∈ sessions, Recordable session := by decide
  have hkept : homeAfter (.directory none) sessions = .directory (some "#V2\n4\n") :=
    homeAfter_begun hsessions (by decide)
  have htyped : History.fileOf entries = some "#V2\n44\x08\n" := rfl
  refine ⟨by decide, by decide, hkept, htyped, ?_⟩
  rw [hkept, htyped]
  decide

end Inspector
end TaggedWords

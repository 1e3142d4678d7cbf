import Mathlib.Data.List.Destutter
import TaggedWords.Inspector.History
import TaggedWords.Proofs.Inspector.Session

/-!
# The history file

What a session adds to the history is tested against the entries that were read from the file, so
that the file has to give back the entries that were written to it.  As long as memory can hold all
entries, the file then depends on the lines of all sessions alone and not on where one session
ended and the next one began.

* `History.kept` — the lines that are worth keeping; `kept_concat` is the effect of one more line.
* `History.fileOf` — the file with the given entries.
* `History.load_fileText` — such a file is read back as the entries.
* `History.Tracks` — the invariant of a session: memory holds what is kept of all lines so far, and
  knows how much of it stands in the file.
* `History.record_fileOf` — what a session makes of the file.
-/

set_option autoImplicit false

namespace TaggedWords
namespace Inspector
namespace History

/-! ## What is kept of lines -/

/-- The lines without the empty ones, and then without those that repeat the line just before. -/
def kept (lines : List String) : List String :=
  (lines.filter fun line => !line.isEmpty).destutter (· ≠ ·)

theorem kept_sublist (lines : List String) : (kept lines).Sublist lines :=
  (List.destutter_sublist ..).trans List.filter_sublist

/-- What is kept of lines is kept again. -/
theorem kept_kept (lines : List String) : kept (kept lines) = kept lines := by
  have hfilter : (kept lines).filter (fun line => !line.isEmpty) = kept lines := by
    rw [List.filter_eq_self]
    intro line hline
    exact (List.mem_filter.1 ((List.destutter_sublist ..).subset hline)).2
  rw [kept, hfilter, kept, List.destutter_idem]

theorem ne_empty_of_mem_kept {lines : List String} {entry : String} (h : entry ∈ kept lines) :
    entry ≠ "" := by
  have hfilter := (List.destutter_sublist ..).subset h
  rw [List.mem_filter, Bool.not_eq_true', ← Bool.not_eq_true, String.isEmpty_iff] at hfilter
  exact hfilter.2

theorem getLast?_cons_destutter' (first next : String) (lines : List String) :
    (first :: lines.destutter' (· ≠ ·) next).getLast? =
      (lines.destutter' (· ≠ ·) next).getLast? := by
  obtain ⟨entry, entries, hentries⟩ :=
    List.exists_cons_of_ne_nil (@List.destutter'_ne_nil _ lines (· ≠ ·) _ next)
  rw [hentries, List.getLast?_cons_cons]

/-- A line at the end goes if it repeats the last one that stays. -/
theorem destutter_concat (lines : List String) (line : String) :
    (lines ++ [line]).destutter (· ≠ ·) =
      if (lines.destutter (· ≠ ·)).getLast? = some line then lines.destutter (· ≠ ·)
      else lines.destutter (· ≠ ·) ++ [line] := by
  cases lines with
  | nil => rfl
  | cons first lines =>
    rw [List.cons_append, List.destutter_cons', List.destutter_cons']
    induction lines generalizing first with
    | nil =>
      by_cases hsame : first = line
      · simp [hsame]
      · simp [hsame]
    | cons next lines ih =>
      by_cases hsame : first = next
      · rw [List.cons_append, List.destutter'_cons_neg _ (not_not.2 hsame),
          List.destutter'_cons_neg _ (not_not.2 hsame), ih]
      · rw [List.cons_append, List.destutter'_cons_pos _ hsame, List.destutter'_cons_pos _ hsame,
          ih, getLast?_cons_destutter']
        split <;> rfl

/-- **One more line is kept if the history accepts it.** -/
theorem kept_concat {history : History} {lines : List String} (h : history.entries = kept lines)
    (line : String) :
    kept (lines ++ [line]) = if history.accepts line then kept lines ++ [line] else kept lines := by
  rw [accepts, h, kept, kept, List.filter_append, List.filter_singleton]
  by_cases hempty : line.isEmpty = true
  · simp [hempty]
  · have hconcat := destutter_concat (lines.filter fun line => !line.isEmpty) line
    by_cases hlast : ((lines.filter fun line => !line.isEmpty).destutter (· ≠ ·)).getLast? =
        some line
    · rw [if_pos hlast] at hconcat
      simp [hempty, hlast, hconcat]
    · rw [if_neg hlast] at hconcat
      simp [hempty, hlast, hconcat]

/-- What is kept stays when more lines follow. -/
theorem kept_isPrefix (lines more : List String) : kept lines <+: kept (lines ++ more) := by
  induction more generalizing lines with
  | nil => exact (List.append_nil lines).symm ▸ List.prefix_rfl
  | cons line more ih =>
    have hline : kept lines <+: kept (lines ++ [line]) := by
      rw [@kept_concat { entries := kept lines } lines rfl line]
      split
      · exact List.prefix_append ..
      · exact List.prefix_rfl
    have hmore := ih (lines ++ [line])
    rw [List.append_assoc, List.singleton_append] at hmore
    exact hline.trans hmore

/-! ## Memory -/

/-- As long as there is room for it, a line that is accepted becomes the newest entry, and no entry
has to go. -/
theorem add_of_accepts {history : History} {line : String} (h : history.accepts line = true)
    (hsize : (history.entries ++ [line]).length ≤ limit)
    (hfresh : history.fresh ≤ history.entries.length) :
    history.add line = { entries := history.entries ++ [line], fresh := history.fresh + 1 } := by
  have hnewest : newest (history.entries ++ [line]) = history.entries ++ [line] := by
    rw [newest, Nat.sub_eq_zero_of_le hsize, List.drop_zero]
  have hcount : min (history.fresh + 1) (history.entries ++ [line]).length = history.fresh + 1 := by
    rw [List.length_append, List.length_singleton]
    omega
  rw [add, if_pos h]
  simp only [hnewest, hcount]

/-- Memory holds what is kept of the lines, of which the first `old` entries are in the file. -/
structure Tracks (history : History) (lines : List String) (old : Nat) : Prop where
  entries_eq : history.entries = kept lines
  fresh_add : history.fresh + old = (kept lines).length

namespace Tracks

variable {history : History} {lines : List String} {old : Nat}

/-- **One more line keeps the invariant** while memory can hold what is kept. -/
theorem add (h : history.Tracks lines old) {line : String}
    (hsize : (kept (lines ++ [line])).length ≤ limit) :
    (history.add line).Tracks (lines ++ [line]) old := by
  have hconcat := kept_concat h.entries_eq line
  have hfresh := h.fresh_add
  by_cases haccepts : history.accepts line = true
  · rw [if_pos haccepts] at hconcat
    rw [hconcat, ← h.entries_eq] at hsize
    rw [add_of_accepts haccepts hsize (by rw [h.entries_eq]; omega)]
    refine ⟨by rw [hconcat, h.entries_eq], ?_⟩
    rw [hconcat, List.length_append, List.length_singleton]
    show history.fresh + 1 + old = (kept lines).length + 1
    omega
  · rw [if_neg haccepts] at hconcat
    rw [History.add, if_neg haccepts]
    exact ⟨by rw [hconcat, h.entries_eq], by rw [hconcat, hfresh]⟩

/-- **So do all lines of a session**, by induction on the lines. -/
theorem addAll (h : history.Tracks lines old) {more : List String}
    (hsize : (kept (lines ++ more)).length ≤ limit) :
    (history.addAll more).Tracks (lines ++ more) old := by
  induction more generalizing history lines with
  | nil => rwa [List.append_nil]
  | cons line more ih =>
    have hsplit : lines ++ line :: more = lines ++ [line] ++ more := by simp
    rw [hsplit] at hsize ⊢
    exact ih (h.add ((kept_isPrefix _ more).length_le.trans hsize)) hsize

/-- The entries that are not in the file are those behind the ones that are. -/
theorem freshEntries_eq (h : history.Tracks lines old) :
    history.freshEntries = (kept lines).drop old := by
  have hfresh := h.fresh_add
  rw [freshEntries, h.entries_eq]
  congr 1
  omega

end Tracks

/-! ## The file -/

/-- An entry as it stands in the file: every backslash is doubled. -/
def doubled (entry : String) : String :=
  String.ofList (entry.toList.flatMap fun c => if c = '\\' then ['\\', '\\'] else [c])

/-- The text of a file with the given entries. -/
def fileText (entries : List String) : String :=
  Text.printedLines ("#V2" :: entries.map doubled)

/-- The file with the given entries.  Without entries there is none. -/
def fileOf (entries : List String) : Option String :=
  if entries = [] then none else some (fileText entries)

theorem escape_eq_flatMap {cs : List Char} (h : '\n' ∉ cs) :
    escape cs = cs.flatMap fun c => if c = '\\' then ['\\', '\\'] else [c] := by
  induction cs with
  | nil => rfl
  | cons c cs ih =>
    rw [List.mem_cons, not_or] at h
    by_cases hslash : c = '\\'
    · subst hslash
      simp [escape, ih h.2]
    · have hescape : escape (c :: cs) = c :: escape cs := by
        rw [escape] <;> simp [hslash, Ne.symm h.1]
      simp [hescape, hslash, ih h.2]

theorem doubled_eq {entry : String} (h : '\n' ∉ entry.toList) :
    doubled entry = String.ofList (escape entry.toList) := by
  rw [doubled, escape_eq_flatMap h]

theorem entryOf_doubled {entry : String} (h : '\n' ∉ entry.toList) :
    entryOf (doubled entry) = entry := by
  rw [doubled_eq h, entryOf, String.toList_ofList, unescape?_escape]
  exact String.ofList_toList

theorem getLast?_doubled (entry : String) :
    (doubled entry).toList.getLast? = entry.toList.getLast? := by
  rw [doubled, String.toList_ofList]
  rcases List.eq_nil_or_concat entry.toList with hnil | ⟨front, last, hlast⟩
  · rw [hnil]
    rfl
  · rw [hlast, List.concat_eq_append, List.flatMap_append, List.flatMap_singleton,
      List.getLast?_concat]
    by_cases hslash : last = '\\'
    · rw [if_pos hslash, List.append_cons, List.getLast?_concat, hslash]
    · rw [if_neg hslash, List.getLast?_concat]

/-- Doubling backslashes neither breaks a line nor changes the end of it. -/
theorem isLine_doubled {entry : String} (h : Text.IsLine entry) : Text.IsLine (doubled entry) := by
  refine ⟨fun hfeed => h.1 ?_, by rw [getLast?_doubled]; exact h.2⟩
  rw [doubled, String.toList_ofList, List.mem_flatMap] at hfeed
  obtain ⟨c, hc, hfeed⟩ := hfeed
  split at hfeed
  · exact absurd hfeed (by decide)
  · rwa [List.mem_singleton.1 hfeed]

theorem isEmpty_doubled {entry : String} (h : entry ≠ "") : (doubled entry).isEmpty = false := by
  have hlast := getLast?_doubled entry
  rw [← Bool.not_eq_true, String.isEmpty_iff]
  intro hempty
  rw [hempty, eq_comm, String.toList_empty, List.getLast?_nil, List.getLast?_eq_none_iff,
    String.toList_eq_nil_iff] at hlast
  exact h hlast

/-- **Entries that are all worth keeping are all accepted**, by induction on them from the end. -/
theorem foldl_add_of_kept {entries : List String} (h : kept entries = entries)
    (hsize : entries.length ≤ limit) :
    entries.foldl Loaded.add { appendable := true } =
      { history := { entries, fresh := entries.length }, appendable := true } := by
  induction entries using List.reverseRecOn with
  | nil => rfl
  | append_singleton entries entry ih =>
    have hshorter : entries.length ≤ limit := by
      rw [List.length_append] at hsize
      omega
    have hconcat := @kept_concat { entries := kept entries } entries rfl entry
    rw [h] at hconcat
    split at hconcat
    · rename_i haccepts
      have hkept : kept entries = entries := (List.append_cancel_right hconcat).symm
      rw [hkept] at haccepts
      have haccepts' : accepts { entries, fresh := entries.length } entry = true := haccepts
      rw [List.foldl_append, ih hkept hshorter, List.foldl_cons, List.foldl_nil, Loaded.add,
        haccepts', add_of_accepts haccepts' hsize le_rfl, List.length_append, List.length_singleton]
      rfl
    · -- An entry that is not accepted leaves too few entries behind.
      have hlength := congrArg List.length hconcat
      have hle := (kept_sublist entries).length_le
      rw [List.length_append, List.length_singleton] at hlength
      omega

/-- **A file is read back as its entries**, and new ones may be added to it as it stands. -/
theorem load_fileText {entries : List String} (hlines : ∀ entry ∈ entries, Text.IsLine entry)
    (h : kept entries = entries) (hsize : entries.length ≤ limit) :
    load (fileText entries) = { history := { entries }, appendable := true } := by
  have hread : Text.lines (fileText entries) = formatLine :: entries.map doubled := by
    refine Text.lines_printedLines (List.forall_mem_cons.2 ⟨by decide, fun line hline => ?_⟩)
    obtain ⟨entry, hentry, rfl⟩ := List.mem_map.1 hline
    exact isLine_doubled (hlines entry hentry)
  have hnonempty : (entries.map doubled).filter (fun line => !line.isEmpty) =
      entries.map doubled := by
    rw [List.filter_eq_self]
    intro line hline
    obtain ⟨entry, hentry, rfl⟩ := List.mem_map.1 hline
    rw [← h] at hentry
    rw [isEmpty_doubled (ne_empty_of_mem_kept hentry), Bool.not_false]
  have hentries : (entries.map doubled).map entryOf = entries := by
    have hentry : ∀ entry ∈ entries, (entryOf ∘ doubled) entry = id entry := by
      intro entry hentry
      rw [Function.comp_apply, entryOf_doubled (hlines entry hentry).1, id]
    rw [List.map_map, List.map_congr_left hentry, List.map_id]
  rw [load, hread, loadLines, hnonempty, if_pos rfl, hentries, foldl_add_of_kept h hsize]

/-! ## Writing the file -/

theorem fileOf_of_ne_nil {entries : List String} (h : entries ≠ []) :
    fileOf entries = some (fileText entries) := by
  rw [fileOf, if_neg h]

/-- New entries go behind the text of the file. -/
theorem fileText_append (old fresh : List String) :
    fileText (old ++ fresh) = fileText old ++ Text.printedLines (fresh.map doubled) := by
  rw [fileText, fileText, List.map_append, ← List.cons_append, Text.printedLines_append]

/-- A file with more entries is the file with some text behind it. -/
theorem exists_fileOf_append {old entries : List String} {text : String}
    (hold : fileOf old = some text) (h : old <+: entries) :
    ∃ more, fileOf entries = some (text ++ more) := by
  obtain ⟨fresh, rfl⟩ := h
  by_cases hne : old = []
  · rw [fileOf, if_pos hne] at hold
    cases hold
  · rw [fileOf_of_ne_nil hne] at hold
    obtain rfl := Option.some.inj hold
    refine ⟨Text.printedLines (fresh.map doubled), ?_⟩
    rw [fileOf_of_ne_nil (List.append_ne_nil_of_left_ne_nil hne fresh), fileText_append]

theorem written_eq {entries : List String} (h : ∀ entry ∈ entries, Text.IsLine entry) :
    written entries = Text.printedLines (entries.map doubled) := by
  rw [written, Text.printedLines, Text.typed, List.map_map, List.flatMap_map]
  refine congrArg String.ofList (List.flatMap_congr fun entry hentry => ?_)
  rw [Function.comp_apply, doubled_eq (h entry hentry).1, String.toList_ofList]
  rfl

theorem file_eq_fileText {entries : List String} (h : ∀ entry ∈ entries, Text.IsLine entry) :
    file entries = fileText entries := by
  rw [file, written_eq h, fileText, Text.printedLines_cons]
  rfl

section Save

variable {history : History} {lines : List String}
  (hlines : ∀ entry ∈ kept lines, Text.IsLine entry)
include hlines

/-- Without a file, all that is kept is written to a new one. -/
theorem save_none (h : history.Tracks lines 0) (loaded : Loaded) :
    save none loaded history = fileOf (kept lines) := by
  have hfresh := h.fresh_add
  rw [Nat.add_zero] at hfresh
  rw [save, h.entries_eq, file_eq_fileText hlines, fileOf, hfresh]
  simp only [List.length_eq_zero_iff]

/-- A file with some of the entries gets the others behind them. -/
theorem save_fileText {old : List String} (h : history.Tracks lines old.length)
    (hbegins : old <+: kept lines) (hne : old ≠ []) (hsize : (kept lines).length ≤ limit) :
    save (some (fileText old)) { history := { entries := old }, appendable := true } history =
      fileOf (kept lines) := by
  obtain ⟨fresh, hkept⟩ := hbegins
  have hpos := List.length_pos_iff.2 hne
  have hlength : history.fresh = fresh.length := by
    have hfresh := h.fresh_add
    rw [← hkept, List.length_append] at hfresh
    omega
  rw [← hkept, List.length_append] at hsize
  have hentries : history.freshEntries = fresh := by
    rw [h.freshEntries_eq, ← hkept, List.drop_left]
  have hwritten : written fresh = Text.printedLines (fresh.map doubled) :=
    written_eq fun entry hentry => hlines entry (hkept ▸ List.mem_append_right old hentry)
  rw [save, ← hkept, fileOf_of_ne_nil (List.append_ne_nil_of_left_ne_nil hne fresh), hlength,
    hentries, hwritten, fileText_append]
  by_cases hfresh : fresh.length = 0
  · have hnothing : Text.printedLines (List.map doubled []) = "" := rfl
    rw [if_pos hfresh, List.length_eq_zero_iff.1 hfresh, hnothing, String.append_empty]
  · have hnot : fresh.length ≠ limit := by omega
    have hroom : old.length < limit ∧ old.length + fresh.length ≤ limit := by omega
    simp only [if_neg hfresh, if_neg hnot, hroom, and_self, if_true]

end Save

/-- **A session adds what is kept of its lines to the file**, whether or not there was one. -/
theorem record_fileOf {lines more : List String}
    (hlines : ∀ entry ∈ kept (lines ++ more), Text.IsLine entry)
    (hsize : (kept (lines ++ more)).length ≤ limit) :
    record (fileOf (kept lines)) more = fileOf (kept (lines ++ more)) := by
  have hbegins := kept_isPrefix lines more
  by_cases hnone : kept lines = []
  · have htracks : Tracks {} lines 0 := ⟨hnone.symm, by rw [hnone]; rfl⟩
    rw [hnone]
    exact save_none hlines (htracks.addAll hsize) {}
  · have hold : ∀ entry ∈ kept lines, Text.IsLine entry :=
      fun entry hentry => hlines entry (hbegins.subset hentry)
    have hload := load_fileText hold (kept_kept lines) (hbegins.length_le.trans hsize)
    have htracks : Tracks { entries := kept lines } lines (kept lines).length :=
      ⟨rfl, Nat.zero_add _⟩
    rw [fileOf_of_ne_nil hnone, record, Option.map_some, Option.getD_some, hload]
    exact save_fileText hlines (htracks.addAll hsize) hbegins hnone hsize

/-- A carriage return at the end of an entry is lost when the file is read, so that the entry is not
known again. -/
example : record (some "#V2\na\r\n") ["a\r"] = some "#V2\na\r\na\r\n" := by decide

end History
end Inspector
end TaggedWords

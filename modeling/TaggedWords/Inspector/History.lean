import TaggedWords.Text.Line

/-!
# The history of a session

The lines of past sessions are kept in a file.  Memory holds the newest hundred of them; an empty
line is not kept, nor is one that repeats the line just before it.

The file begins with a line that names its format, and has an entry on each line after it.  A
backslash in an entry is written twice and a line feed as `\n`, so that an entry is always one
line.  A file without the first line is read too, each line as it stands.

* `History.add` — a line becomes the newest entry.
* `History.load`, `History.written` — reading a file and writing entries.
* `History.save` — what becomes of the file when a session ends.
-/

set_option autoImplicit false

namespace TaggedWords
namespace Inspector

/-- The lines that memory holds. -/
structure History where
  /-- The entries, oldest first. -/
  entries : List String := []
  /-- How many of the newest entries are not in the file yet. -/
  fresh : Nat := 0
deriving DecidableEq, Repr

namespace History

/-- How many entries memory holds. -/
def limit : Nat := 100

/-! ## Adding lines -/

/-- Whether a line is worth keeping. -/
def accepts (history : History) (line : String) : Bool :=
  !line.isEmpty && history.entries.getLast? != some line

/-- The newest entries, as many as memory holds. -/
def newest (entries : List String) : List String :=
  entries.drop (entries.length - limit)

/-- Makes a line the newest entry if it is worth keeping. -/
def add (history : History) (line : String) : History :=
  if history.accepts line then
    let entries := newest (history.entries ++ [line])
    { entries, fresh := min (history.fresh + 1) entries.length }
  else history

/-- Adds lines in order. -/
def addAll (history : History) (lines : List String) : History :=
  lines.foldl add history

/-- The entries that are not in the file yet. -/
def freshEntries (history : History) : List String :=
  history.entries.drop (history.entries.length - history.fresh)

/-! ## Entries on lines -/

/-- An entry as the characters of one line. -/
def escape : List Char → List Char
  | [] => []
  | '\\' :: cs => '\\' :: '\\' :: escape cs
  | '\n' :: cs => '\\' :: 'n' :: escape cs
  | c :: cs => c :: escape cs

/-- The entry that a line writes, unless a backslash on it has no meaning. -/
def unescape? : List Char → Option (List Char)
  | [] => some []
  | '\\' :: '\\' :: cs => (unescape? cs).map ('\\' :: ·)
  | '\\' :: 'n' :: cs => (unescape? cs).map ('\n' :: ·)
  | '\\' :: _ => none
  | c :: cs => (unescape? cs).map (c :: ·)

/-- **Every entry reads back as it was written.** -/
theorem unescape?_escape (cs : List Char) : unescape? (escape cs) = some cs := by
  induction cs with
  | nil => rfl
  | cons c cs ih =>
    by_cases hslash : c = '\\'
    · subst hslash; simp [escape, unescape?, ih]
    · by_cases hfeed : c = '\n'
      · subst hfeed; simp [escape, unescape?, ih]
      · have hescape : escape (c :: cs) = c :: escape cs := by
          rw [escape] <;> simp [hslash, hfeed]
        rw [hescape, unescape?, ih]
        · rfl
        all_goals simp [hslash]

/-- The entry that a line stands for.  A line that is not well formed stands for itself. -/
def entryOf (line : String) : String :=
  match unescape? line.toList with
  | some entry => String.ofList entry
  | none => line

/-- The first line of a file. -/
def formatLine : String := "#V2"

/-- Entries as lines of a file. -/
def written (entries : List String) : String :=
  String.ofList (entries.flatMap fun entry => escape entry.toList ++ ['\n'])

/-- A whole file with the given entries. -/
def file (entries : List String) : String :=
  formatLine ++ "\n" ++ written entries

/-! ## Files -/

/-- What a file was found to hold. -/
structure Loaded where
  history : History := {}
  /-- Whether the file has the current format and every line of it became an entry, so that new
  entries may go right behind its text. -/
  appendable : Bool := false
deriving DecidableEq, Repr

namespace Loaded

/-- Adds an entry that stands in the file. -/
def add (loaded : Loaded) (entry : String) : Loaded :=
  { history := loaded.history.add entry,
    appendable := loaded.appendable && loaded.history.accepts entry }

end Loaded

/-- The entries that the lines of a file stand for. -/
def loadLines : List String → Loaded
  | [] => {}
  | first :: rest =>
    let lines := rest.filter fun line => !line.isEmpty
    if first = formatLine then (lines.map entryOf).foldl Loaded.add { appendable := true }
    else (first :: lines).foldl Loaded.add {}

/-- Reads a file.  Nothing in it is new. -/
def load (text : String) : Loaded :=
  let loaded := loadLines (Text.lines text)
  { loaded with history := { loaded.history with fresh := 0 } }

/-- The file after a session that began with `loaded` and ended with `history`.

Without new entries the file stays as it is.  The file is written anew when there was none or when
nothing in memory is old.  Otherwise the new entries go behind the text of the file, if that is
possible and memory can hold them all, and else the file is read and written again with the new
entries added. -/
def save (text : Option String) (loaded : Loaded) (history : History) : Option String :=
  if history.fresh = 0 then text
  else
    match text with
    | none => some (file history.entries)
    | some text =>
      let size := loaded.history.entries.length
      if history.fresh = limit then some (file history.entries)
      else if loaded.appendable ∧ size < limit ∧ size + history.fresh ≤ limit then
        some (text ++ written history.freshEntries)
      else some (file ((load text).history.addAll history.freshEntries).entries)

/-- The file after a session with the given lines. -/
def record (text : Option String) (lines : List String) : Option String :=
  let loaded := (text.map load).getD {}
  save text loaded (loaded.history.addAll lines)

/-- A session without lines leaves the file as it is. -/
theorem record_nil (text : Option String) : record text [] = text := by
  cases text <;> rfl

end History
end Inspector
end TaggedWords

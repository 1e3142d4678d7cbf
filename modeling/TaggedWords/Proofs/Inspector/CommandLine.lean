import Mathlib.Data.List.TakeWhile
import TaggedWords.Proofs.Inspector.Session

/-!
# Command lines in any order

A command line is made of pieces: an option with the literal that it takes, a flag, or a word.  The
pieces may stand in any order, and it does not matter which of the two ways of writing an option is
used; only the words among them have to stay in theirs.  Words that could be taken for options stand
at the end, behind two hyphens, where nothing is taken for an option any more.

What an argument means depends on those before it, because a literal may look like an option or
like the two hyphens.  Reading therefore goes piece by piece: after every piece the draft comes to
the options that the pieces so far have asked for.

* `Piece`, `Arrangement` — command lines as they are written.
* `Arrangement.Spells` — the command lines that ask for given options.
* `readFrom_piece`, `readFrom_pieces` — reading one piece, and reading all of them.
* `read_arrangement` — what a command line asks for is what is read from it.
-/

set_option autoImplicit false

namespace TaggedWords
namespace Inspector

/-! ## Command lines -/

/-- The flags that the options keep. -/
inductive Setting where
  | repl
  | debug
deriving DecidableEq, Repr

/-- The argument that raises the flag: its name, or its letter. -/
def Setting.argument (inFull : Bool) : Setting → String
  | repl => if inFull then "--repl" else "-r"
  | debug => if inFull then "--debug" else "-d"

/-- Arguments that stay together.  An option has a name and a letter, and is written by one of
them. -/
inductive Piece where
  /-- The option that takes a literal, and the literal. -/
  | encode (inFull : Bool) (literal : String)
  | flag (setting : Setting) (inFull : Bool)
  | word (text : String)
deriving DecidableEq, Repr

namespace Piece

/-- The arguments of a piece. -/
def arguments : Piece → List String
  | encode inFull literal => [if inFull then "--encode" else "-e", literal]
  | flag setting inFull => [setting.argument inFull]
  | word text => [text]

def literal? : Piece → Option String
  | encode _ literal => some literal
  | _ => none

def word? : Piece → Option String
  | word text => some text
  | _ => none

/-- Whether the piece raises the flag. -/
def raises (setting : Setting) : Piece → Bool
  | flag raised _ => raised == setting
  | _ => false

end Piece

/-- A word that is not taken for an option: it does not begin with a hyphen, or all that follows
the hyphen is digits. -/
def IsPlain (text : String) : Prop :=
  text.toList.head? ≠ some '-' ∨
    ∃ digits, text.toList = '-' :: digits ∧ digits ≠ [] ∧ ∀ c ∈ digits, c.isDigit = true

/-- A command line: pieces, and perhaps two hyphens with words behind them. -/
structure Arrangement where
  pieces : List Piece
  behind : Option (List String) := none
deriving DecidableEq, Repr

/-- Whether the options have the flag. -/
def Options.isOn (options : Options) : Setting → Bool
  | .repl => options.repl
  | .debug => options.debug

namespace Arrangement

/-- The two hyphens and the words behind them, if there are any. -/
def tail (behind : Option (List String)) : List String :=
  behind.elim [] ("--" :: ·)

/-- The arguments of a command line. -/
def arguments (arrangement : Arrangement) : List String :=
  arrangement.pieces.flatMap Piece.arguments ++ tail arrangement.behind

/-- A command line that asks for the options and for nothing else.  The literal and the flags stand
there if they are asked for, and then once; the words stand there in their order, and those in
front of the two hyphens are not taken for options. -/
structure Spells (arrangement : Arrangement) (options : Options) : Prop where
  encode : arrangement.pieces.filterMap Piece.literal? = options.encode.toList
  flags : ∀ setting, arrangement.pieces.countP (Piece.raises setting) =
    (options.isOn setting).toNat
  words : arrangement.pieces.filterMap Piece.word? ++ arrangement.behind.getD [] = options.words
  plain : ∀ text ∈ arrangement.pieces.filterMap Piece.word?, IsPlain text

end Arrangement

/-! ## What pieces ask for -/

namespace Options

/-- The options with the flag raised. -/
def turnOn (options : Options) : Setting → Options
  | .repl => { options with repl := true }
  | .debug => { options with debug := true }

/-- The options with what a piece asks for. -/
def add (options : Options) : Piece → Options
  | .encode _ literal => { options with encode := some literal }
  | .flag setting _ => options.turnOn setting
  | .word text => { options with words := options.words ++ [text] }

/-- A piece may be added to the options: what it asks for has not been asked for before, and if it
is a word, it is not taken for an option. -/
def Admits (options : Options) : Piece → Prop
  | .encode _ _ => options.encode = none
  | .flag setting _ => options.isOn setting = false
  | .word text => IsPlain text

variable {options : Options} {setting : Setting}

theorem isOn_turnOn (options : Options) (setting other : Setting) :
    (options.turnOn setting).isOn other = (setting == other || options.isOn other) := by
  cases setting <;> cases other <;> rfl

theorem encode_turnOn : (options.turnOn setting).encode = options.encode := by
  cases setting <;> rfl

theorem words_turnOn : (options.turnOn setting).words = options.words := by
  cases setting <;> rfl

/-- Options are told apart by the literal, the flags and the words. -/
theorem ext_isOn {options' : Options} (hencode : options.encode = options'.encode)
    (hflags : ∀ setting, options.isOn setting = options'.isOn setting)
    (hwords : options.words = options'.words) : options = options' := by
  have hrepl : options.repl = options'.repl := hflags .repl
  have hdebug : options.debug = options'.debug := hflags .debug
  cases options
  cases options'
  congr

end Options

/-- Pieces make the options `after` of the options `before`, and ask for nothing twice. -/
structure Adds (pieces : List Piece) (before after : Options) : Prop where
  encode : after.encode.toList = before.encode.toList ++ pieces.filterMap Piece.literal?
  flags : ∀ setting, (after.isOn setting).toNat =
    (before.isOn setting).toNat + pieces.countP (Piece.raises setting)
  words : after.words = before.words ++ pieces.filterMap Piece.word?
  plain : ∀ text ∈ pieces.filterMap Piece.word?, IsPlain text

namespace Adds

variable {piece : Piece} {pieces : List Piece} {before after : Options}

theorem eq_of_nil (h : Adds [] before after) : before = after := by
  have hbool : ∀ a b : Bool, a.toNat = b.toNat → a = b := by decide
  refine Options.ext_isOn ?_ (fun setting => hbool _ _ (h.flags setting).symm) ?_
  · rw [← Option.head?_toList (o := after.encode), h.encode]
    simp
  · rw [h.words, List.filterMap_nil, List.append_nil]

/-- The first piece asks for something that has not been asked for before. -/
theorem admits (h : Adds (piece :: pieces) before after) : before.Admits piece := by
  cases piece with
  | encode inFull literal =>
    have hencode : after.encode.toList =
        before.encode.toList ++ literal :: pieces.filterMap Piece.literal? := h.encode
    -- There is room for one literal in all, and the piece has one.
    have hlength := congrArg List.length hencode
    have hle := Option.length_toList_le (o := after.encode)
    rw [List.length_append, List.length_cons] at hlength
    have hempty : before.encode.toList = [] := List.eq_nil_of_length_eq_zero (by omega)
    exact Option.toList_eq_nil_iff.1 hempty
  | flag setting inFull =>
    have hcount := h.flags setting
    have hle := (after.isOn setting).toNat_le
    rw [List.countP_cons_of_pos (by simp [Piece.raises])] at hcount
    exact Bool.toNat_eq_zero.1 (by omega)
  | word text => exact h.plain text List.mem_cons_self

/-- The pieces that follow go on from there. -/
theorem tail (h : Adds (piece :: pieces) before after) : Adds pieces (before.add piece) after := by
  have hadmits := h.admits
  cases piece with
  | encode inFull literal =>
    have hnone : before.encode = none := hadmits
    have hencode := h.encode
    rw [hnone] at hencode
    exact ⟨hencode, h.flags, h.words, h.plain⟩
  | flag setting inFull =>
    refine ⟨?_, fun other => ?_, ?_, h.plain⟩
    · rw [Options.add, Options.encode_turnOn]
      exact h.encode
    · have hoff : before.isOn setting = false := hadmits
      have hcount := h.flags other
      rw [List.countP_cons, Piece.raises] at hcount
      rw [hcount, Options.add, Options.isOn_turnOn]
      cases heq : setting == other with
      | true =>
        rw [← eq_of_beq heq, hoff, if_pos rfl, Bool.true_or, Bool.toNat_false, Bool.toNat_true]
        omega
      | false => rw [if_neg Bool.false_ne_true, Bool.false_or, Nat.add_zero]
    · rw [Options.add, Options.words_turnOn]
      exact h.words
  | word text =>
    exact ⟨h.encode, h.flags, h.words.trans (List.append_cons _ _ _),
      fun other hother => h.plain other (List.mem_cons_of_mem _ hother)⟩

end Adds

/-! ## Reading pieces -/

theorem isNumber_of_digits {digits : List Char} (hne : digits ≠ [])
    (h : ∀ c ∈ digits, c.isDigit = true) : isNumber digits = true := by
  have hrest : digits.dropWhile Char.isDigit = [] := List.dropWhile_eq_nil_iff.2 h
  obtain ⟨d, ds, rfl⟩ := List.exists_cons_of_ne_nil hne
  rw [isNumber, hrest]
  simp [h d List.mem_cons_self]

/-- **A plain word is a word by its looks.** -/
theorem Argument.of_plain {text : String} (h : IsPlain text) : Argument.of text.toList = .word := by
  rcases h with hhead | ⟨digits, htext, hne, hdigits⟩
  · cases htext : text.toList with
    | nil => rfl
    | cons c cs =>
      have hc : c ≠ '-' := by simpa [htext] using hhead
      rw [Argument.of] <;> simp [hc]
  · obtain ⟨d, ds, rfl⟩ := List.exists_cons_of_ne_nil hne
    have hd : d ≠ '-' := by
      rintro rfl
      exact absurd (hdigits '-' List.mem_cons_self) (by decide)
    rw [htext, Argument.of, if_pos (isNumber_of_digits hne hdigits)] <;> simp [hd]

/-- The flag of the command line. -/
def Setting.toFlag : Setting → Flag
  | repl => .repl
  | debug => .debug

section Reading

variable {draft : Draft} {options : Options}

theorem readArgument_encode (draft : Draft) (inFull : Bool) :
    readArgument draft (if inFull then "--encode" else "-e") = draft.settle.map .awaitsLiteral := by
  cases inFull <;> rfl

/-- A flag is raised by its name, and by its letter if that stands alone. -/
theorem readArgument_flag (draft : Draft) (setting : Setting) (inFull : Bool) :
    readArgument draft (setting.argument inFull) =
      (draft.raise setting.toFlag).map .complete := by
  cases inFull with
  | true => cases setting <;> rfl
  | false =>
    have hletter : readArgument draft (setting.argument false) =
        (draft.raise setting.toFlag).bind fun raised => .ok (.complete raised) := by
      cases setting <;> rfl
    rw [hletter]
    cases draft.raise setting.toFlag <;> rfl

theorem readArgument_word {text : String} (h : IsPlain text) (draft : Draft) :
    readArgument draft text = (draft.addWords [text]).map .complete := by
  rw [readArgument, Argument.of_plain h]

theorem raise_of_off {setting : Setting} (hdraft : draft.settle = .ok { options })
    (hoff : options.isOn setting = false) :
    draft.raise setting.toFlag = .ok { options := options.turnOn setting } := by
  rw [Draft.raise, hdraft]
  cases setting with
  | repl => exact if_neg (ne_true_of_eq_false hoff)
  | debug => exact if_neg (ne_true_of_eq_false hoff)

/-- **Reading a piece adds what it asks for.**  A literal is pending for the time being, so that
the draft does not have it yet but comes to it. -/
theorem readFrom_piece {piece : Piece} (hdraft : draft.settle = .ok { options })
    (hpiece : options.Admits piece) :
    ∃ next : Draft, next.settle = .ok { options := options.add piece } ∧
      ∀ rest, readFrom draft (piece.arguments ++ rest) = readFrom next rest := by
  cases piece with
  | encode inFull literal =>
    have hnone : options.encode = none := hpiece
    refine ⟨{ options, pending := some literal }, ?_, fun rest => ?_⟩
    · simp [Draft.settle, Draft.setEncode, hnone, Options.add]
    · rw [Piece.arguments, List.cons_append, readFrom, readArgument_encode, hdraft]
      rfl
  | flag setting inFull =>
    refine ⟨{ options := options.turnOn setting }, rfl, fun rest => ?_⟩
    rw [Piece.arguments, List.cons_append, readFrom, readArgument_flag,
      raise_of_off hdraft hpiece]
    rfl
  | word text =>
    refine ⟨{ options := options.add (.word text) }, rfl, fun rest => ?_⟩
    rw [Piece.arguments, List.cons_append, readFrom, readArgument_word hpiece, Draft.addWords,
      hdraft]
    rfl

/-- **Reading pieces adds what they ask for**, one after the other. -/
theorem readFrom_pieces {pieces : List Piece} {after : Options}
    (hdraft : draft.settle = .ok { options }) (h : Adds pieces options after) :
    ∃ next : Draft, next.settle = .ok { options := after } ∧
      ∀ rest, readFrom draft (pieces.flatMap Piece.arguments ++ rest) = readFrom next rest := by
  -- The draft that a piece leaves comes to the options that the pieces after it are added to.
  induction pieces generalizing draft options with
  | nil =>
    obtain rfl := h.eq_of_nil
    exact ⟨draft, hdraft, fun rest => rfl⟩
  | cons piece pieces ih =>
    obtain ⟨middle, hmiddle, hpiece⟩ := readFrom_piece hdraft h.admits
    obtain ⟨next, hnext, hpieces⟩ := ih hmiddle h.tail
    refine ⟨next, hnext, fun rest => ?_⟩
    rw [List.flatMap_cons, List.append_assoc, hpiece, hpieces]

/-- Words behind two hyphens are added as they are. -/
theorem readFrom_tail (hdraft : draft.settle = .ok { options }) (behind : Option (List String)) :
    readFrom draft (Arrangement.tail behind) =
      .ok { options := { options with words := options.words ++ behind.getD [] } } := by
  cases behind with
  | none =>
    rw [Arrangement.tail, Option.elim_none, readFrom, hdraft, Option.getD_none, List.append_nil]
  | some words =>
    show draft.addWords words = _
    rw [Draft.addWords, hdraft]
    rfl

end Reading

/-! ## Reading command lines -/

namespace Arrangement

variable {arrangement : Arrangement} {options : Options}

/-- Up to the two hyphens a command line asks for everything but the words behind them. -/
theorem Spells.adds (h : arrangement.Spells options) :
    Adds arrangement.pieces {}
      { options with words := arrangement.pieces.filterMap Piece.word? } where
  encode := h.encode.symm
  flags setting := by
    have hoff : (({} : Options).isOn setting) = false := by cases setting <;> rfl
    have hsame : Options.isOn { options with words := arrangement.pieces.filterMap Piece.word? }
        setting = options.isOn setting := by cases setting <;> rfl
    rw [hoff, hsame, h.flags, Bool.toNat_false, Nat.zero_add]
  words := rfl
  plain := h.plain

theorem Spells.read (h : arrangement.Spells options) :
    CommandLine.read arrangement.arguments = .ok options := by
  have hempty : ({} : Draft).settle = .ok { options := {} } := rfl
  obtain ⟨draft, hdraft, hpieces⟩ := readFrom_pieces hempty h.adds
  rw [CommandLine.read, arguments, hpieces, readFrom_tail hdraft, h.words]
  rfl

/-- Any options can be asked for. -/
theorem exists_spells (options : Options) : ∃ arrangement : Arrangement,
    arrangement.Spells options := by
  obtain ⟨words, encode, repl, debug⟩ := options
  refine ⟨⟨encode.toList.map (.encode true) ++ (List.replicate repl.toNat (.flag .repl true) ++
    List.replicate debug.toNat (.flag .debug true)), some words⟩, ?_⟩
  cases encode <;> cases repl <;> cases debug <;>
    exact ⟨rfl, fun setting => by cases setting <;> rfl, rfl, List.forall_mem_nil _⟩

end Arrangement

/-- **A command line denotes the options that it spells, in any order.**  Whatever order the pieces
of a command line are in, and whatever its literal and the words behind the two hyphens look like,
the options that it asks for are read from it.  What is written for its inputs, and all that the
process does, is therefore the same for any two command lines that ask for the same options. -/
theorem read_arrangement {arrangement : Arrangement} {options : Options}
    (h : arrangement.Spells options) :
    CommandLine.read arrangement.arguments = .ok options ∧
    (∀ console, (CommandLine.read arrangement.arguments).map (Options.runInputs · console) =
      .ok (options.runInputs console)) ∧
    ∀ other : Arrangement, other.Spells options → ∀ (input : String) (home : Home),
      process other.arguments input home = process arrangement.arguments input home := by
  refine ⟨h.read, fun console => ?_, fun other hother input home => ?_⟩
  · rw [h.read]
    rfl
  · rw [process_of_read h.read, process_of_read hother.read]

/-- The two hyphens as a literal, as the end of the options and as a word, in two orders. -/
theorem read_arrangement_of_hyphens :
    let options : Options :=
      { words := ["-4", "271", "--", "-d"], encode := some "--", repl := true, debug := true }
    let first : Arrangement :=
      { pieces := [.word "-4", .encode false "--", .flag .debug true, .word "271",
          .flag .repl false]
        behind := some ["--", "-d"] }
    let second : Arrangement :=
      { pieces := [.flag .repl true, .encode true "--", .flag .debug false, .word "-4"]
        behind := some ["271", "--", "-d"] }
    first.Spells options ∧ second.Spells options ∧
    CommandLine.read ["-4", "-e", "--", "--debug", "271", "-r", "--", "--", "-d"] = .ok options ∧
    CommandLine.read ["--repl", "--encode", "--", "-d", "-4", "--", "271", "--", "-d"] =
      .ok options ∧
    ∀ (input : String) (home : Home),
      process second.arguments input home = process first.arguments input home := by
  intro options first second
  have hnegative : IsPlain "-4" :=
    .inr ⟨['4'], rfl, List.cons_ne_nil _ _, List.forall_mem_singleton.2 rfl⟩
  have hnumber : IsPlain "271" := .inl (by decide)
  have hfirst : first.Spells options :=
    ⟨rfl, fun setting => by cases setting <;> rfl, rfl,
      List.forall_mem_cons.2 ⟨hnegative, List.forall_mem_singleton.2 hnumber⟩⟩
  have hsecond : second.Spells options :=
    ⟨rfl, fun setting => by cases setting <;> rfl, rfl, List.forall_mem_singleton.2 hnegative⟩
  obtain ⟨hread, -, hsame⟩ := read_arrangement hfirst
  obtain ⟨hread', -, -⟩ := read_arrangement hsecond
  exact ⟨hfirst, hsecond, hread, hread', hsame second hsecond⟩

end Inspector
end TaggedWords

import TaggedWords.Proofs.Grammar.Word

/-!
# The grammar of literals

A value may be written in five ways: a boolean, a character by its name, a character as itself, a
blank as itself, and an integer.  The grammar says which texts these are and what each of them
comes to, without saying how to find out.  An integer that a word can hold and a fixnum cannot is
written as any other, and what it comes to is a failure that names it.

Blanks in front of a literal never count, and the grammar is about texts without them.  Blanks at
the end do not count either, but they are there for the grammar to see, because a blank that is
written as itself is one of them.

* `NameOf` — the ten names of characters.
* `Form`, `Form.Writes` — the five ways, and the grammar.
* `Form.Writes.eq_ofTrimmed` — the way of writing is settled by a look at the text.
* `Form.Writes.ofLiteral_eq`, `exists_writes_or_invalid` — the reader and the grammar agree.
* `ofLiteral_eq_ok_iff`, `ofLiteral_eq_error_iff` — the texts of a value, and those of a failure.
* `ofLiteral_accepts_grammar` — all of it together, for a text with its blanks.
-/

set_option autoImplicit false

namespace TaggedWords

/-! ## Characters -/

/-- The names of characters: the text is a name of the character with this code. -/
inductive NameOf : UInt8 → String → Prop
  | null : NameOf 0x00 "null"
  | nul : NameOf 0x00 "nul"
  | alarm : NameOf 0x07 "alarm"
  | backspace : NameOf 0x08 "backspace"
  | tab : NameOf 0x09 "tab"
  | newline : NameOf 0x0A "newline"
  | carriageReturn : NameOf 0x0D "return"
  | escape : NameOf 0x1B "escape"
  | space : NameOf 0x20 "space"
  | delete : NameOf 0x7F "delete"

theorem nameOf_of_mem_charNames {entry : String × UInt8} (h : entry ∈ charNames) :
    NameOf entry.2 entry.1 := by
  simp only [charNames, List.mem_cons, List.not_mem_nil, or_false] at h
  rcases h with rfl | rfl | rfl | rfl | rfl | rfl | rfl | rfl | rfl | rfl <;> constructor

/-- **The names that are known are these ten**, each with its code. -/
theorem namedChar?_eq_some_iff {name : List Char} {code : UInt8} :
    namedChar? name = some code ↔ ∃ text, NameOf code text ∧ text.toList = name := by
  constructor
  · intro h
    rw [namedChar?, Option.map_eq_some_iff] at h
    obtain ⟨entry, hfound, rfl⟩ := h
    have hname := List.find?_some hfound
    exact ⟨entry.1, nameOf_of_mem_charNames (List.mem_of_find?_eq_some hfound), eq_of_beq hname⟩
  · rintro ⟨text, hname, rfl⟩
    cases hname <;> rfl

namespace Value

/-! ## The grammar -/

/-- The ways of writing a value. -/
inductive Form where
  | boolean
  /-- A character by its name. -/
  | name
  /-- A character that is no blank, as itself. -/
  | sign
  /-- A blank, as itself. -/
  | blank
  | integer
deriving DecidableEq, Repr

namespace Form

/-- The text, which has no blanks in front, is written in this way and comes to this. -/
inductive Writes : Form → List Char → Except Failure Value → Prop
  | boolean {cs : List Char} {b : Bool} (h : Text.trimEnd cs = ['#', if b then 't' else 'f']) :
      Writes boolean cs (.ok (.boolean b))
  | name {rest : List Char} {name : String} {code : UInt8} (hname : NameOf code name)
      (h : Text.trimEnd rest = name.toList) :
      Writes Form.name ('#' :: '\\' :: rest) (.ok (.char code))
  | sign {rest : List Char} {c : Char} {code : UInt8} (h : Text.trimEnd rest = [c])
      (hcode : c.toNat = code.toNat) :
      Writes sign ('#' :: '\\' :: rest) (.ok (.char code))
  | blank {rest : List Char} {c : Char} {code : UInt8}
      (h : ∀ d ∈ c :: rest, Text.isBlank d = true) (hcode : c.toNat = code.toNat) :
      Writes blank ('#' :: '\\' :: c :: rest) (.ok (.char code))
  | fixnum {cs : List Char} {n : Fixnum} (h : Text.Integer (Text.trimEnd cs) n.val) :
      Writes integer cs (.ok (.integer n))
  | overflow {cs : List Char} {n : Int} (h : Text.Integer (Text.trimEnd cs) n)
      (hleast : -0x8000_0000_0000_0000 ≤ n) (hbound : n < 0x8000_0000_0000_0000)
      (hrange : ¬ (-0x2000_0000_0000_0000 ≤ n ∧ n < 0x2000_0000_0000_0000)) :
      Writes integer cs (.error (.fixnumOverflow n))

/-- The only way in which a text may be written, by its looks between the blanks. -/
def ofTrimmed : List Char → Form
  | ['#', '\\'] => blank
  | ['#', '\\', _] => sign
  | '#' :: '\\' :: _ => name
  | '#' :: _ => boolean
  | _ => integer

/-! ## One way for each text -/

theorem ofTrimmed_of_ne_hash {cs : List Char} (h : ∀ rest, cs ≠ '#' :: rest) :
    ofTrimmed cs = integer := by
  cases cs with
  | nil => rfl
  | cons c rest =>
    have hc : c ≠ '#' := fun hc => h rest (by rw [hc])
    rw [ofTrimmed] <;> simp [hc]

/-- **The looks of a text settle how it is written.** -/
theorem Writes.eq_ofTrimmed {form : Form} {cs : List Char} {result : Except Failure Value}
    (h : form.Writes cs result) : form = ofTrimmed (Text.trimEnd cs) := by
  cases h with
  | @boolean _ b h => cases b <;> rw [h] <;> rfl
  | name hname h => rw [trimEnd_character, h]; cases hname <;> rfl
  | sign h => rw [trimEnd_character, h]; rfl
  | blank h => rw [trimEnd_character, Text.trimEnd_eq_nil_iff.2 h]; rfl
  | fixnum h | overflow h => rw [ofTrimmed_of_ne_hash (h.ne_cons (by decide) (by decide))]

end Form

/-! ## The reader of characters -/

/-- **The text behind `#\` is read as a character exactly if it is written as one.** -/
theorem spelledChar?_eq_some_iff {rest : List Char} {code : UInt8} :
    spelledChar? rest = some code ↔
      ∃ form : Form, form.Writes ('#' :: '\\' :: rest) (.ok (.char code)) := by
  constructor
  · intro h
    rw [spelledChar?] at h
    cases hnamed : namedChar? (Text.trimEnd rest) with
    | some named =>
      rw [hnamed] at h
      obtain rfl := Option.some.inj h
      obtain ⟨name, hname, htext⟩ := namedChar?_eq_some_iff.1 hnamed
      exact ⟨.name, .name hname htext.symm⟩
    | none =>
      rw [hnamed] at h
      cases hname : Text.trimEnd rest with
      | nil =>
        rw [hname] at h
        cases rest with
        | nil => cases h
        | cons c rest =>
          have hblank := Text.trimEnd_eq_nil_iff.1 hname
          exact ⟨.blank, .blank hblank (Text.latin1?_eq_some_iff.1 h)⟩
      | cons c cs =>
        rw [hname] at h
        cases cs with
        | nil => exact ⟨.sign, .sign hname (Text.latin1?_eq_some_iff.1 h)⟩
        | cons => cases h
  · rintro ⟨form, h⟩
    cases h with
    | name hname h =>
      rw [spelledChar?, h, namedChar?_eq_some_iff.2 ⟨_, hname, rfl⟩]
    | sign h hcode =>
      rw [spelledChar?_of_trimEnd h, Text.latin1?_eq_some_iff.2 hcode]
    | blank h hcode =>
      rw [spelledChar?_of_blank h, Text.latin1?_eq_some_iff.2 hcode]

/-! ## The reader of literals -/

/-- **A text that is written in one of the ways is read as what it comes to.** -/
theorem Form.Writes.ofLiteral_eq {form : Form} {text : String} {result : Except Failure Value}
    (h : form.Writes (Text.trimStart text.toList) result) : ofLiteral text = result := by
  generalize hstart : Text.trimStart text.toList = start at h
  cases h with
  | @boolean _ b h =>
    rw [ofLiteral, hstart, h]
    cases b <;> rfl
  | name hname h =>
    rw [ofLiteral_character hstart, spelledChar?_eq_some_iff.2 ⟨_, .name hname h⟩]
    rfl
  | sign h hcode =>
    rw [ofLiteral_character hstart, spelledChar?_eq_some_iff.2 ⟨_, .sign h hcode⟩]
    rfl
  | blank h hcode =>
    rw [ofLiteral_character hstart, spelledChar?_eq_some_iff.2 ⟨_, .blank h hcode⟩]
    rfl
  | @fixnum _ n h =>
    obtain ⟨w, hw⟩ := n.exists_ofInt?
    rw [← hstart, ← Text.integer?_eq_some_iff] at h
    rw [ofLiteral_integer h hw, n.ofInt_val]
    rfl
  | overflow h hleast hbound hrange =>
    rw [← hstart, ← Text.integer?_eq_some_iff] at h
    rw [ofLiteral_integer h (if_pos ⟨hleast, hbound⟩), Fixnum.ofInt, dif_neg hrange]
    rfl

/-- **A text that is read as something is written in one of the ways**, and any other is refused. -/
theorem exists_writes_or_invalid (text : String) :
    (∃ form : Form, form.Writes (Text.trimStart text.toList) (ofLiteral text)) ∨
      ofLiteral text =
        .error (.invalidLiteral (String.ofList (Text.trimEnd (Text.trimStart text.toList)))) := by
  rw [ofLiteral]
  generalize Text.trimStart text.toList = start
  split
  · rename_i htrue
    exact .inl ⟨.boolean, .boolean htrue⟩
  split
  · rename_i hfalse
    exact .inl ⟨.boolean, .boolean hfalse⟩
  split
  · rename_i rest
    split
    · rename_i code hcode
      exact .inl (spelledChar?_eq_some_iff.1 hcode)
    · exact .inr rfl
  · split
    · rename_i w hread
      obtain ⟨n, hn, hw⟩ := Option.bind_eq_some_iff.1 hread
      obtain ⟨hleast, hbound, rfl⟩ := Word.ofInt?_eq_some_iff.1 hw
      rw [Text.integer?_eq_some_iff] at hn
      refine .inl ⟨.integer, ?_⟩
      rw [Fixnum.ofInt]
      split
      · exact .fixnum hn
      · rename_i hrange
        exact .overflow hn hleast hbound hrange
    · exact .inr rfl

/-- No way of writing comes to a refusal. -/
theorem Form.Writes.not_invalidLiteral {form : Form} {cs : List Char} {quoted : String} :
    ¬ form.Writes cs (.error (.invalidLiteral quoted)) := by
  intro h
  cases h

/-- **No text is written in two ways or comes to two things.** -/
theorem Form.Writes.unique {form form' : Form} {text : String}
    {result result' : Except Failure Value}
    (h : form.Writes (Text.trimStart text.toList) result)
    (h' : form'.Writes (Text.trimStart text.toList) result') : form = form' ∧ result = result' :=
  ⟨h.eq_ofTrimmed.trans h'.eq_ofTrimmed.symm, h.ofLiteral_eq.symm.trans h'.ofLiteral_eq⟩

theorem ofLiteral_eq_ok_iff {text : String} {v : Value} :
    ofLiteral text = .ok v ↔
      ∃ form : Form, form.Writes (Text.trimStart text.toList) (.ok v) := by
  constructor
  · intro h
    rcases exists_writes_or_invalid text with hwrites | hinvalid
    · rwa [h] at hwrites
    · rw [h] at hinvalid
      cases hinvalid
  · rintro ⟨form, h⟩
    exact h.ofLiteral_eq

/-- A failure is what a way of writing comes to, or the refusal of what is written in none. -/
theorem ofLiteral_eq_error_iff {text : String} {failure : Failure} :
    ofLiteral text = .error failure ↔
      (∃ form : Form, form.Writes (Text.trimStart text.toList) (.error failure)) ∨
        (∀ (form : Form) (result : Except Failure Value),
          ¬ form.Writes (Text.trimStart text.toList) result) ∧
        failure = .invalidLiteral (String.ofList (Text.trimEnd (Text.trimStart text.toList))) := by
  constructor
  · intro h
    rcases exists_writes_or_invalid text with hwrites | hinvalid
    · rw [h] at hwrites
      exact .inl hwrites
    · refine .inr ⟨fun form result hwrites => ?_, ?_⟩
      · rw [← hwrites.ofLiteral_eq, hinvalid] at hwrites
        exact hwrites.not_invalidLiteral
      · rw [h] at hinvalid
        exact Except.error.inj hinvalid
  · rintro (⟨form, h⟩ | ⟨hnone, rfl⟩)
    · exact h.ofLiteral_eq
    · rcases exists_writes_or_invalid text with ⟨form, hwrites⟩ | hinvalid
      · exact absurd hwrites (hnone form _)
      · exact hinvalid

/-- **Literals are read by their grammar.**  What counts of a text is what it holds behind the
blanks in front; the blanks at its end count only where one of them is written as itself.  If this
is written in one of the five ways, the text is read as what it comes to, which is a value or an
integer that is no fixnum; otherwise the text is refused, and the refusal quotes it without the
blanks at both ends.  No text is written in two ways or comes to two things. -/
theorem ofLiteral_accepts_grammar (text : String) :
    let start := Text.trimStart text.toList
    let trimmed := Text.trimEnd start
    (∃ before after, (∀ c ∈ before, Text.isBlank c = true) ∧
      (∀ c ∈ after, Text.isBlank c = true) ∧ text.toList = before ++ start ∧
      start = trimmed ++ after ∧ (∀ c ∈ start.head?, Text.isBlank c = false) ∧
      ∀ c ∈ trimmed.getLast?, Text.isBlank c = false) ∧
    (∀ v, ofLiteral text = .ok v ↔ ∃ form : Form, form.Writes start (.ok v)) ∧
    (∀ failure, ofLiteral text = .error failure ↔
      (∃ form : Form, form.Writes start (.error failure)) ∨
        (∀ (form : Form) (result : Except Failure Value), ¬ form.Writes start result) ∧
          failure = .invalidLiteral (String.ofList trimmed)) ∧
    ∀ (form form' : Form) (result result' : Except Failure Value),
      form.Writes start result → form'.Writes start result' → form = form' ∧ result = result' := by
  intro start trimmed
  obtain ⟨before, hbefore, htext, hfirst⟩ := Text.exists_trimStart text.toList
  obtain ⟨after, hafter, hstart, hlast⟩ := Text.exists_trimEnd start
  exact ⟨⟨before, after, hbefore, hafter, htext, hstart, hfirst, hlast⟩,
    fun _ => ofLiteral_eq_ok_iff, fun _ => ofLiteral_eq_error_iff,
    fun _ _ _ _ h h' => h.unique h'⟩

/-- A blank is a character only where nothing else follows it. -/
example : ofLiteral " #\\\t " = .ok (.char 0x09) ∧
    ofLiteral "#\\ A" = .error (.invalidLiteral "#\\ A") ∧
    ofLiteral "+2305843009213693952" = .error (.fixnumOverflow 0x2000_0000_0000_0000) :=
  ⟨rfl, rfl, rfl⟩

end Value
end TaggedWords

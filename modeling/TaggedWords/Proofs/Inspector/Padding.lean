import TaggedWords.Proofs.Inspector.Options
import TaggedWords.Proofs.Padding

/-!
# Blanks around a line

A line of a session may stand between blanks.  Those in front never count.  Those behind count
where the line is unfinished: it is the command alone, which needs a blank behind it to be one, or
it asks for a character and breaks off before it.

* `Unfinished` — the requests that blanks behind them carry on.
* `eq_encodeCommand_of_append` — blanks make a command of nothing but the command.
* `evalLine_append` — blanks behind a request that is finished do not count.
* `evalLine_append_of_command`, `evalLine_append_of_broken` — what becomes of the others.
* `evalLine_padded` — all of this for blanks on both sides.
-/

set_option autoImplicit false

namespace TaggedWords
namespace Inspector
namespace Options

/-- The requests that blanks behind them carry on: the command without its blank, and a character
that is still to come. -/
inductive Unfinished : List Char → Prop
  | command : Unfinished encodeCommand
  | character {blanks : List Char} (hne : blanks ≠ [])
      (hblanks : ∀ c ∈ blanks, Text.isBlank c = true) :
      Unfinished (encodeCommand ++ (blanks ++ ['#', '\\']))

theorem Unfinished.of_broken {blank : Char} (hblank : Text.isBlank blank = true)
    {literal : String} (h : Text.trimStart literal.toList = ['#', '\\']) :
    Unfinished (encodeCommand ++ blank :: literal.toList) := by
  obtain ⟨blanks, hblanks, hliteral, -⟩ := Text.exists_trimStart literal.toList
  rw [h] at hliteral
  rw [hliteral]
  exact .character (List.cons_ne_nil blank blanks) (List.forall_mem_cons.2 ⟨hblank, hblanks⟩)

theorem Unfinished.isPrefix {request : List Char} (h : Unfinished request) :
    encodeCommand <+: request := by
  cases h with
  | command => exact List.prefix_rfl
  | character => exact List.prefix_append _ _

variable {options : Options} {line before after : String}

/-! ## Blanks behind -/

section Behind

variable (hafter : ∀ c ∈ after.toList, Text.isBlank c = true)
include hafter

/-- **Blanks make a command of nothing but the command.** -/
theorem eq_encodeCommand_of_append {request : List Char}
    (hcommand : ∀ blank literal, Text.isBlank blank = true →
      request ≠ encodeCommand ++ blank :: literal)
    {blank : Char} (hblank : Text.isBlank blank = true) {literal : List Char}
    (h : request ++ after.toList = encodeCommand ++ blank :: literal) :
    request = encodeCommand := by
  rcases List.append_eq_append_iff.1 h with ⟨rest, hrest, hbehind⟩ | ⟨rest, hrest, hbehind⟩
  · -- What is missing of the command would have to be blank.
    cases rest with
    | nil => simpa using hrest.symm
    | cons c rest =>
      have hc : Text.isBlank c = true := hafter c (by simp [hbehind])
      rw [isBlank_of_mem_encodeCommand c (by simp [hrest])] at hc
      cases hc
  · cases rest with
    | nil => simpa using hrest
    | cons c rest =>
      obtain ⟨rfl, -⟩ := List.cons.inj hbehind
      exact absurd hrest (hcommand blank rest hblank)

theorem decodeText_append (text : String) :
    options.decodeText (text ++ after) = options.decodeText text := by
  refine decodeText_congr ?_
  simpa using Text.trim_padded (List.forall_mem_nil _) hafter text.toList

/-- **Blanks behind a finished request do not count.** -/
theorem evalLine_append (h : ¬ Unfinished (Text.trimStart line.toList)) :
    options.evalLine (line ++ after) = options.evalLine line := by
  by_cases hempty : Text.trimStart line.toList = []
  · have hempty' : Text.trimStart (line ++ after).toList = [] := by
      rw [String.toList_append, Text.trimStart_append_eq_nil hafter hempty]
    rw [evalLine_of_blank hempty, evalLine_of_blank hempty']
  have hstart : Text.trimStart (line ++ after).toList =
      Text.trimStart line.toList ++ after.toList := by
    rw [String.toList_append, Text.trimStart_append_of_ne_nil hempty]
  by_cases hcommand : ∃ blank literal, Text.isBlank blank = true ∧
      Text.trimStart line.toList = encodeCommand ++ blank :: literal
  · obtain ⟨blank, cs, hblank, hline⟩ := hcommand
    obtain ⟨literal, rfl⟩ : ∃ literal : String, cs = literal.toList :=
      ⟨String.ofList cs, String.toList_ofList.symm⟩
    rw [hline, List.append_assoc, List.cons_append, ← String.toList_append] at hstart
    have hliteral : Text.trimStart literal.toList ≠ ['#', '\\'] := fun hbroken =>
      h (hline ▸ .of_broken hblank hbroken)
    rw [evalLine_encode hblank hline, evalLine_encode hblank hstart, encodeText_eq, encodeText_eq,
      Value.ofLiteral_append hafter hliteral]
  · simp only [not_exists, not_and] at hcommand
    have hcommand' : ∀ blank literal, Text.isBlank blank = true →
        Text.trimStart (line ++ after).toList ≠ encodeCommand ++ blank :: literal := by
      intro blank literal hblank hline
      rw [hstart] at hline
      refine h ?_
      rw [eq_encodeCommand_of_append hafter hcommand hblank hline]
      exact .command
    have hne : Text.trimStart (line ++ after).toList ≠ [] := by
      rw [hstart]
      exact List.append_ne_nil_of_left_ne_nil hempty _
    rw [evalLine_decode hempty hcommand, evalLine_decode hne hcommand', decodeText_append hafter]

/-- Behind the command alone, blanks are an empty literal. -/
theorem evalLine_append_of_command (h : Text.trimStart line.toList = encodeCommand)
    (hne : after ≠ "") : options.evalLine (line ++ after) = .error (.invalidLiteral "") := by
  obtain ⟨blank, rest, hcons⟩ := List.exists_cons_of_ne_nil (mt String.toList_eq_nil_iff.1 hne)
  obtain ⟨literal, rfl⟩ : ∃ literal : String, rest = literal.toList :=
    ⟨String.ofList rest, String.toList_ofList.symm⟩
  have hstart : Text.trimStart (line ++ after).toList =
      encodeCommand ++ blank :: literal.toList := by
    rw [String.toList_append, Text.trimStart_append_of_ne_nil (h ▸ List.cons_ne_nil _ _), h, hcons]
  rw [hcons, List.forall_mem_cons] at hafter
  rw [evalLine_encode hafter.1 hstart, encodeText_eq, Value.ofLiteral_of_blank hafter.2]
  rfl

/-- Behind a character that is still to come, the first blank is the character. -/
theorem evalLine_append_of_broken {blank : Char} (hblank : Text.isBlank blank = true)
    {literal : String} (hliteral : Text.trimStart literal.toList = ['#', '\\'])
    (h : Text.trimStart line.toList = encodeCommand ++ blank :: literal.toList) {c : Char}
    {rest : List Char} (hcons : after.toList = c :: rest) :
    options.evalLine (line ++ after) =
      (Text.latin1? c).elim (.error (.invalidLiteral "#\\"))
        fun code => .ok (options.showWord (.char code)) := by
  have hstart : Text.trimStart (line ++ after).toList =
      encodeCommand ++ blank :: (literal ++ after).toList := by
    rw [String.toList_append, Text.trimStart_append_of_ne_nil (h ▸ List.cons_ne_nil _ _), h,
      List.append_assoc, List.cons_append, String.toList_append]
  rw [evalLine_encode hblank hstart, encodeText_eq,
    Value.ofLiteral_append_of_broken hafter hliteral hcons]
  cases Text.latin1? c <;> rfl

end Behind

/-! ## Unfinished requests -/

/-- The command alone is taken for a word. -/
theorem evalLine_of_command (h : Text.trimStart line.toList = encodeCommand) :
    options.evalLine line = .error (.invalidWord ":encode") := by
  have htrim : Text.trim line.toList = Text.trim ":encode".toList := by
    rw [← Text.trim_trimStart, h]
    rfl
  have hrefused : Word.ofText line = .error (.invalidWord ":encode") := by
    rw [Word.ofText_congr htrim]
    rfl
  rw [evalLine_decode (h ▸ List.cons_ne_nil _ _) (by simp [h]), decodeText_of_refused hrefused]

theorem evalLine_of_broken {blank : Char} (hblank : Text.isBlank blank = true)
    {literal : String} (hliteral : Text.trimStart literal.toList = ['#', '\\'])
    (h : Text.trimStart line.toList = encodeCommand ++ blank :: literal.toList) :
    options.evalLine line = .error (.invalidLiteral "#\\") := by
  rw [evalLine_encode hblank h, encodeText_eq, Value.ofLiteral_of_broken hliteral]
  rfl

theorem evalLine_prepend (hbefore : ∀ c ∈ before.toList, Text.isBlank c = true) (line : String) :
    options.evalLine (before ++ line) = options.evalLine line := by
  rw [evalLine, evalLine, String.toList_append, Text.trimStart_append hbefore]

/-! ## Both sides -/

/-- **Blanks around a line count in two cases.**  The answer to the line is the same, in full,
unless there are blanks behind it and its request is unfinished.  The command alone is no word, and
with blanks behind it asks for an empty literal.  A character that is still to come is missed, and
with blanks behind it is the first of them if that is a character of one byte. -/
theorem evalLine_padded (options : Options) (line : String) {before after : String}
    (hbefore : ∀ c ∈ before.toList, Text.isBlank c = true)
    (hafter : ∀ c ∈ after.toList, Text.isBlank c = true) :
    let request := Text.trimStart line.toList
    let padded := before ++ line ++ after
    (after = "" ∨ ¬ Unfinished request → options.evalLine padded = options.evalLine line) ∧
    (after ≠ "" → request = encodeCommand →
      options.evalLine line = .error (.invalidWord ":encode") ∧
        options.evalLine padded = .error (.invalidLiteral "")) ∧
    ∀ blank rest blanks, after.toList = blank :: rest → blanks ≠ [] →
      (∀ c ∈ blanks, Text.isBlank c = true) →
      request = encodeCommand ++ (blanks ++ ['#', '\\']) →
        options.evalLine line = .error (.invalidLiteral "#\\") ∧
        (∀ code : UInt8, blank.toNat = code.toNat →
          options.evalLine padded = .ok (options.showWord (.char code))) ∧
        (255 < blank.toNat → options.evalLine padded = .error (.invalidLiteral "#\\")) := by
  intro request padded
  have hpadded : options.evalLine padded = options.evalLine (line ++ after) := by
    rw [← evalLine_prepend hbefore (line ++ after), ← String.append_assoc]
  rw [hpadded]
  refine ⟨?_, fun hne hrequest => ?_, fun c rest blanks hcons hblanks hall hrequest => ?_⟩
  · rintro (rfl | hfinished)
    · rw [String.append_empty]
    · exact evalLine_append hafter hfinished
  · exact ⟨evalLine_of_command hrequest, evalLine_append_of_command hafter hrequest hne⟩
  · obtain ⟨blank, blanks, rfl⟩ := List.exists_cons_of_ne_nil hblanks
    rw [List.forall_mem_cons] at hall
    -- The first blank makes the command, and the others stand in front of the literal.
    obtain ⟨literal, htext⟩ : ∃ literal : String, literal.toList = blanks ++ ['#', '\\'] :=
      ⟨String.ofList (blanks ++ ['#', '\\']), String.toList_ofList⟩
    have hliteral : Text.trimStart literal.toList = ['#', '\\'] := by
      rw [htext, Text.trimStart_padded hall.2 (by decide)]
    have hline : Text.trimStart line.toList = encodeCommand ++ blank :: literal.toList := by
      rw [htext]
      exact hrequest
    rw [evalLine_append_of_broken hafter hall.1 hliteral hline hcons]
    refine ⟨evalLine_of_broken hall.1 hliteral hline, fun code hcode => ?_, fun hlarge => ?_⟩
    · rw [Text.latin1?_eq_some_iff.2 hcode]
      rfl
    · rw [Text.latin1?_eq_none_iff.2 hlarge]
      rfl

/-- Two requests that are carried on by the blanks behind them, and one that is finished. -/
theorem evalLine_padded_tab_behind :
    (∀ c ∈ "\u00a0".toList, Text.isBlank c = true) ∧
    (∀ c ∈ "\t ".toList, Text.isBlank c = true) ∧
    Text.trimStart " :encode  #\\".toList = encodeCommand ++ ([' ', ' '] ++ ['#', '\\']) ∧
    ({ debug := true } : Options).evalLine " :encode  #\\" = .error (.invalidLiteral "#\\") ∧
    ({ debug := true } : Options).evalLine "\u00a0 :encode  #\\\t " = .ok "0x907 char 2311" ∧
    ({ debug := true } : Options).evalLine ":encode" = .error (.invalidWord ":encode") ∧
    ({ debug := true } : Options).evalLine "\u00a0:encode\t " = .error (.invalidLiteral "") ∧
    ¬ Unfinished (Text.trimStart "0x907".toList) ∧
    ({ debug := true } : Options).evalLine "\u00a00x907\t " =
      ({ debug := true } : Options).evalLine "0x907" := by
  have hbefore : ∀ c ∈ "\u00a0".toList, Text.isBlank c = true := List.all_eq_true.1 rfl
  have hafter : ∀ c ∈ "\t ".toList, Text.isBlank c = true := List.all_eq_true.1 rfl
  have hblanks : ∀ c ∈ [' ', ' '], Text.isBlank c = true := List.all_eq_true.1 rfl
  have hfinished : ¬ Unfinished (Text.trimStart "0x907".toList) := fun h =>
    absurd h.isPrefix (by decide)
  obtain ⟨-, -, hbroken⟩ :=
    evalLine_padded { debug := true } " :encode  #\\" hbefore hafter
  obtain ⟨-, hcommand, -⟩ := evalLine_padded { debug := true } ":encode" hbefore hafter
  obtain ⟨hword, -, -⟩ := evalLine_padded { debug := true } "0x907" hbefore hafter
  obtain ⟨hmissed, hbehind, -⟩ :=
    hbroken '\t' [' '] [' ', ' '] rfl (List.cons_ne_nil _ _) hblanks rfl
  obtain ⟨hrefused, hempty⟩ := hcommand (by decide) rfl
  exact ⟨hbefore, hafter, rfl, hmissed, hbehind 0x09 rfl, hrefused, hempty, hfinished,
    hword (.inr hfinished)⟩

end Options
end Inspector
end TaggedWords

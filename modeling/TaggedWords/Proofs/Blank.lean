import Mathlib.Data.List.DropRight
import TaggedWords.Text.Blank

/-!
# Texts between blanks

Blanks at the ends of a text are trimmed, and a blank inside it is where the text may be cut.

* `exists_trim` — what trimming takes away is blank, and what it leaves does not begin or end with
  a blank.
* `trim_padded`, `trimStart_padded`, `trimEnd_cons_of_not_blank` — what trimming leaves of a text
  between blanks.
* `trimStart_eq_nil_iff`, `trimStart_append_of_ne_nil` — blanks alone, and what is behind a text
  that is not blank.
* `splitAtBlank?_append`, `splitAtBlank?_eq_none` — the first blank of a text, and no blank at all.
-/

set_option autoImplicit false

namespace TaggedWords
namespace Text

/-- The ranges of white space leave the digits out. -/
theorem isBlank_of_isDigit {c : Char} (h : c.isDigit = true) : isBlank c = false := by
  have hranges : ∀ range ∈ blankRanges, range.2 < '0'.toNat ∨ '9'.toNat < range.1 := by decide
  obtain ⟨hleast, hgreatest⟩ := Char.isDigit_iff_toNat.1 h
  rw [isBlank, List.any_eq_false]
  intro range hrange
  have hrange' := hranges range hrange
  rw [Bool.and_eq_true, decide_eq_true_iff, decide_eq_true_iff]
  omega

/-! ## Trimming around a text -/

theorem trimStart_cons_of_not_blank {c : Char} (h : isBlank c = false) (cs : List Char) :
    trimStart (c :: cs) = c :: cs := by
  rw [trimStart, List.dropWhile_cons_of_neg (by simp [h])]

/-- A character that is not blank keeps everything before it from being trimmed. -/
theorem trimEnd_cons_of_not_blank {c : Char} (h : isBlank c = false) (cs : List Char) :
    trimEnd (c :: cs) = c :: trimEnd cs := by
  rw [trimEnd, trimEnd, List.reverse_cons, List.dropWhile_append]
  split
  · rename_i hempty
    rw [List.isEmpty_iff.1 hempty, List.dropWhile_cons_of_neg (by simp [h])]
    rfl
  · rw [List.reverse_append]
    rfl

theorem trimStart_eq_self {cs : List Char} (h : ∀ c ∈ cs, isBlank c = false) :
    trimStart cs = cs := by
  cases cs with
  | nil => rfl
  | cons c cs => exact trimStart_cons_of_not_blank (h c List.mem_cons_self) cs

theorem trimEnd_eq_self {cs : List Char} (h : ∀ c ∈ cs, isBlank c = false) : trimEnd cs = cs := by
  induction cs with
  | nil => rfl
  | cons c cs ih =>
    rw [List.forall_mem_cons] at h
    rw [trimEnd_cons_of_not_blank h.1, ih h.2]

/-- Nothing is trimmed from a text without blanks. -/
theorem trim_eq_self {cs : List Char} (h : ∀ c ∈ cs, isBlank c = false) : trim cs = cs := by
  rw [trim, trimStart_eq_self h, trimEnd_eq_self h]

/-- Nothing is left of blanks alone, and of nothing else. -/
theorem trimStart_eq_nil_iff {cs : List Char} :
    trimStart cs = [] ↔ ∀ c ∈ cs, isBlank c = true :=
  List.dropWhile_eq_nil_iff

theorem trimEnd_eq_nil_iff {cs : List Char} : trimEnd cs = [] ↔ ∀ c ∈ cs, isBlank c = true :=
  List.rdropWhile_eq_nil_iff

/-- What is behind a text stays there when the front is trimmed, unless the text is blank. -/
theorem trimStart_append_of_ne_nil {cs : List Char} (h : trimStart cs ≠ []) (rest : List Char) :
    trimStart (cs ++ rest) = trimStart cs ++ rest := by
  rw [trimStart, trimStart, List.dropWhile_append, if_neg]
  rwa [List.isEmpty_iff]

theorem trim_trimStart (cs : List Char) : trim (trimStart cs) = trim cs :=
  congrArg trimEnd (List.dropWhile_idempotent isBlank cs)

section Padding

variable {before after : List Char} (hbefore : ∀ c ∈ before, isBlank c = true)
  (hafter : ∀ c ∈ after, isBlank c = true)

include hbefore in
/-- Trimming the front leaves a text that begins with something else than a blank. -/
theorem trimStart_padded {c : Char} (h : isBlank c = false) (cs : List Char) :
    trimStart (before ++ (c :: cs)) = c :: cs := by
  rw [trimStart_append hbefore, trimStart_cons_of_not_blank h]

include hafter in
theorem trimStart_append_eq_nil {cs : List Char} (h : trimStart cs = []) :
    trimStart (cs ++ after) = [] := by
  rw [trimStart_append (trimStart_eq_nil_iff.1 h), trimStart_eq_nil_iff.2 hafter]

include hbefore hafter in
/-- **Blanks around a text make no difference to what trimming leaves of it.** -/
theorem trim_padded (cs : List Char) : trim (before ++ (cs ++ after)) = trim cs := by
  rw [trim, trim, trimStart_append hbefore]
  by_cases h : trimStart cs = []
  · rw [trimStart_append_eq_nil hafter h, h]
  · rw [trimStart_append_of_ne_nil h, trimEnd_append hafter]

end Padding

/-! ## Trimming any text -/

/-- Trimming the front takes blanks away, and stops at a character that is not blank. -/
theorem exists_trimStart (cs : List Char) :
    ∃ before, (∀ c ∈ before, isBlank c = true) ∧ cs = before ++ trimStart cs ∧
      ∀ c ∈ (trimStart cs).head?, isBlank c = false := by
  refine ⟨cs.takeWhile isBlank, List.all_eq_true.1 List.all_takeWhile,
    List.takeWhile_append_dropWhile.symm, fun c hc => ?_⟩
  have hfirst := List.head?_dropWhile_not isBlank cs
  rw [trimStart, Option.mem_def] at hc
  rwa [hc] at hfirst

theorem exists_trimEnd (cs : List Char) :
    ∃ after, (∀ c ∈ after, isBlank c = true) ∧ cs = trimEnd cs ++ after ∧
      ∀ c ∈ (trimEnd cs).getLast?, isBlank c = false := by
  obtain ⟨blanks, hblanks, hcs, hfirst⟩ := exists_trimStart cs.reverse
  refine ⟨blanks.reverse, fun c hc => hblanks c (List.mem_reverse.1 hc), ?_, ?_⟩
  · rw [← List.reverse_inj, hcs]
    simp [trimEnd, trimStart]
  · rw [trimEnd, List.getLast?_reverse]
    exact hfirst

/-- **Trimming leaves what stands between the blanks at the two ends.** -/
theorem exists_trim (cs : List Char) :
    ∃ before after, (∀ c ∈ before, isBlank c = true) ∧ (∀ c ∈ after, isBlank c = true) ∧
      cs = before ++ (trim cs ++ after) ∧ (∀ c ∈ (trim cs).head?, isBlank c = false) ∧
      ∀ c ∈ (trim cs).getLast?, isBlank c = false := by
  obtain ⟨before, hbefore, hcs, hfirst⟩ := exists_trimStart cs
  obtain ⟨after, hafter, hstart, hlast⟩ := exists_trimEnd (trimStart cs)
  refine ⟨before, after, hbefore, hafter, ?_, ?_, hlast⟩
  · rw [trim, ← hstart]
    exact hcs
  · rw [trim]
    cases hstart' : trimStart cs with
    | nil => simp [trimEnd]
    | cons c rest =>
      rw [hstart'] at hfirst
      rw [trimEnd_cons_of_not_blank (hfirst c rfl)]
      exact hfirst

/-! ## Cutting -/

/-- A text is without blanks, or it has a first one. -/
theorem exists_first_blank (cs : List Char) :
    (∀ c ∈ cs, isBlank c = false) ∨
      ∃ command blank rest, (∀ c ∈ command, isBlank c = false) ∧ isBlank blank = true ∧
        cs = command ++ blank :: rest := by
  induction cs with
  | nil => exact .inl (List.forall_mem_nil _)
  | cons c cs ih =>
    cases hblank : isBlank c with
    | true => exact .inr ⟨[], c, cs, List.forall_mem_nil _, hblank, rfl⟩
    | false =>
      rcases ih with hnone | ⟨command, blank, rest, hcommand, hfirst, rfl⟩
      · exact .inl (List.forall_mem_cons.2 ⟨hblank, hnone⟩)
      · exact .inr ⟨c :: command, blank, rest, List.forall_mem_cons.2 ⟨hblank, hcommand⟩, hfirst,
          rfl⟩

/-- A text is cut at its first blank, whatever stands behind it. -/
theorem splitAtBlank?_append {command : List Char} (h : ∀ c ∈ command, isBlank c = false)
    {blank : Char} (hblank : isBlank blank = true) (cs : List Char) :
    splitAtBlank? (command ++ blank :: cs) = some (command, cs) := by
  induction command with
  | nil => exact splitAtBlank?_cons_of_blank hblank cs
  | cons c command ih =>
    rw [List.forall_mem_cons] at h
    rw [List.cons_append, splitAtBlank?_cons_of_not_blank h.1, ih h.2]
    rfl

theorem splitAtBlank?_eq_none {cs : List Char} (h : ∀ c ∈ cs, isBlank c = false) :
    splitAtBlank? cs = none := by
  induction cs with
  | nil => rfl
  | cons c cs ih =>
    rw [List.forall_mem_cons] at h
    rw [splitAtBlank?_cons_of_not_blank h.1, ih h.2]
    rfl

end Text
end TaggedWords

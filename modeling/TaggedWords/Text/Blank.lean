/-!
# White space

The blank characters are those with the Unicode property `White_Space`, and this file is the only
place that lists them.

* `isBlank` — whether a character is white space.
* `trimStart`, `trimEnd`, `trim` — a text without the blanks at one end or at both.
* `splitAtBlank?` — a text cut in two at its first blank.
-/

set_option autoImplicit false

namespace TaggedWords
namespace Text

/-- The code points of white space, as closed ranges in increasing order. -/
def blankRanges : List (Nat × Nat) :=
  [(0x0009, 0x000D), (0x0020, 0x0020), (0x0085, 0x0085), (0x00A0, 0x00A0), (0x1680, 0x1680),
    (0x2000, 0x200A), (0x2028, 0x2029), (0x202F, 0x202F), (0x205F, 0x205F), (0x3000, 0x3000)]

/-- Whether a character is white space. -/
def isBlank (c : Char) : Bool :=
  blankRanges.any fun range => decide (range.1 ≤ c.toNat) && decide (c.toNat ≤ range.2)

/-- The text from its first character that is not blank. -/
def trimStart (cs : List Char) : List Char :=
  cs.dropWhile isBlank

/-- The text up to its last character that is not blank. -/
def trimEnd (cs : List Char) : List Char :=
  (cs.reverse.dropWhile isBlank).reverse

/-- The text from its first to its last character that is not blank. -/
def trim (cs : List Char) : List Char :=
  trimEnd (trimStart cs)

/-- Blanks in front are trimmed, whatever follows them. -/
theorem trimStart_append {blanks : List Char} (h : ∀ c ∈ blanks, isBlank c = true)
    (cs : List Char) : trimStart (blanks ++ cs) = trimStart cs := by
  induction blanks with
  | nil => rfl
  | cons c blanks ih =>
    rw [trimStart, List.cons_append, List.dropWhile_cons_of_pos (h c (by simp))]
    exact ih fun d hd => h d (by simp [hd])

/-- Blanks at the end are trimmed, whatever stands before them. -/
theorem trimEnd_append {blanks : List Char} (h : ∀ c ∈ blanks, isBlank c = true)
    (cs : List Char) : trimEnd (cs ++ blanks) = trimEnd cs := by
  have hrev : ∀ c ∈ blanks.reverse, isBlank c = true := fun c hc => h c (List.mem_reverse.1 hc)
  have := trimStart_append hrev cs.reverse
  rw [trimStart, trimStart] at this
  rw [trimEnd, trimEnd, List.reverse_append, this]

/-- What stands before the first blank and what stands after it; `none` if nothing is blank. -/
def splitAtBlank? (cs : List Char) : Option (List Char × List Char) :=
  match cs.dropWhile fun c => !isBlank c with
  | [] => none
  | _ :: after => some (cs.takeWhile fun c => !isBlank c, after)

theorem splitAtBlank?_cons_of_blank {c : Char} (h : isBlank c = true) (cs : List Char) :
    splitAtBlank? (c :: cs) = some ([], cs) := by
  simp [splitAtBlank?, h]

theorem splitAtBlank?_cons_of_not_blank {c : Char} (h : isBlank c = false) (cs : List Char) :
    splitAtBlank? (c :: cs) = (splitAtBlank? cs).map fun parts => (c :: parts.1, parts.2) := by
  simp only [splitAtBlank?, List.dropWhile_cons, List.takeWhile_cons, h, Bool.not_false, if_true]
  split <;> rfl

end Text
end TaggedWords

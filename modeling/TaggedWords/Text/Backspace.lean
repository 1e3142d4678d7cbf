import TaggedWords.Text.Cluster
import TaggedWords.Text.Encoding

/-!
# Backspaces

A line that was typed may hold backspaces, and what was meant is the line with their effect: each
one takes away the cluster before it, and does nothing where there is none.

How much a backspace takes away is noted when the cluster is typed, as a number of UTF-8 bytes,
and the note is a single byte.  So a cluster of 256 bytes or more is noted as shorter than it is.
If what was noted ends between two characters, the backspace takes away only that part of the
cluster; if it ends inside a character, the line cannot be cut there, and there is no way to go on.

* `dropBytes?` — a text without its last bytes, if it can be cut there.
* `Typed` — a line being typed; `Typed.key?` adds a cluster to it.
* `applyBackspaces?` — what is left of a line.  A line without a backspace is left as it is.
-/

set_option autoImplicit false

namespace TaggedWords
namespace Text

/-- The character that takes away what stands before it. -/
def backspace : Char := '\x08'

/-! ## Cutting a text -/

/-- The reversed text without the characters that make up its last `size` bytes; `none` if there
are no such characters, because it would have to be cut inside of one. -/
def dropBytes? (size : Nat) : List Char → Option (List Char)
  | [] => if size = 0 then some [] else none
  | c :: earlier =>
    if size = 0 then some (c :: earlier)
    else if c.utf8Size ≤ size then dropBytes? (size - c.utf8Size) earlier
    else none

/-- **What is dropped are the characters that make up the bytes**, by induction on the text. -/
theorem dropBytes?_eq_some_iff {size : Nat} {reversed earlier : List Char} :
    dropBytes? size reversed = some earlier ↔
      ∃ dropped, reversed = dropped ++ earlier ∧ byteSize dropped = size := by
  induction reversed generalizing size with
  | nil =>
    rw [dropBytes?, Option.ite_none_right_eq_some]
    constructor
    · rintro ⟨rfl, hearlier⟩
      exact ⟨[], Option.some.inj hearlier, rfl⟩
    · rintro ⟨dropped, hnil, rfl⟩
      obtain ⟨rfl, rfl⟩ := List.append_eq_nil_iff.1 hnil.symm
      exact ⟨rfl, rfl⟩
  | cons c cs ih =>
    rw [dropBytes?]
    by_cases hzero : size = 0
    · rw [if_pos hzero, Option.some.injEq]
      constructor
      · rintro rfl
        exact ⟨[], rfl, hzero.symm⟩
      · rintro ⟨dropped, htext, hsize⟩
        rw [byteSize_eq_zero_iff.1 (hsize.trans hzero)] at htext
        exact htext
    · rw [if_neg hzero, Option.ite_none_right_eq_some, ih]
      constructor
      · rintro ⟨hfits, dropped, rfl, hsize⟩
        refine ⟨c :: dropped, rfl, ?_⟩
        rw [byteSize_cons]
        omega
      · rintro ⟨dropped, htext, hsize⟩
        cases dropped with
        | nil => exact absurd hsize.symm hzero
        | cons d dropped =>
          rw [List.cons_append, List.cons.injEq] at htext
          obtain ⟨rfl, htext⟩ := htext
          rw [byteSize_cons] at hsize
          exact ⟨by omega, dropped, htext, by omega⟩

/-! ## Typing -/

/-- A line being typed. -/
structure Typed where
  /-- The characters that are left, the newest first. -/
  reversed : List Char := []
  /-- The sizes of the clusters that are left, the newest first. -/
  sizes : List UInt8 := []
deriving DecidableEq, Repr

namespace Typed

/-- Adds a cluster, or takes one away if it is a backspace; `none` if that cannot be done. -/
def key? (typed : Typed) (cluster : List Char) : Option Typed :=
  if cluster = [backspace] then
    match typed.sizes with
    | [] => some typed
    | size :: sizes =>
      (dropBytes? size.toNat typed.reversed).map fun reversed => { reversed, sizes }
  else
    some
      { reversed := cluster.reverse ++ typed.reversed
        sizes := UInt8.ofNat (byteSize cluster) :: typed.sizes }

/-- The text of the line. -/
def text (typed : Typed) : String :=
  String.ofList typed.reversed.reverse

theorem key?_of_ne {cluster : List Char} (h : cluster ≠ [backspace]) (typed : Typed) :
    typed.key? cluster =
      some
        { reversed := cluster.reverse ++ typed.reversed
          sizes := UInt8.ofNat (byteSize cluster) :: typed.sizes } := by
  rw [key?, if_neg h]

theorem key?_backspace (reversed : List Char) (size : UInt8) (sizes : List UInt8) :
    key? { reversed, sizes := size :: sizes } [backspace] =
      (dropBytes? size.toNat reversed).map fun reversed => { reversed, sizes } := by
  rw [key?, if_pos rfl]

/-- Clusters without a backspace are added one after the other. -/
theorem foldlM_key?_of_not_mem {parts : List (List Char)} (h : backspace ∉ parts.flatten)
    (typed : Typed) :
    ∃ sizes, parts.foldlM key? typed =
      some { reversed := parts.flatten.reverse ++ typed.reversed, sizes } := by
  induction parts generalizing typed with
  | nil => exact ⟨typed.sizes, rfl⟩
  | cons cluster parts ih =>
    rw [List.flatten_cons, List.mem_append, not_or] at h
    have hkey : cluster ≠ [backspace] := by
      rintro rfl
      exact h.1 (List.mem_singleton_self _)
    rw [List.foldlM_cons, key?_of_ne hkey, Option.bind_eq_bind, Option.bind_some]
    obtain ⟨sizes, hsizes⟩ := ih h.2
      { reversed := cluster.reverse ++ typed.reversed
        sizes := UInt8.ofNat (byteSize cluster) :: typed.sizes }
    refine ⟨sizes, hsizes.trans ?_⟩
    rw [List.flatten_cons, List.reverse_append, List.append_assoc]

/-- What a key leaves was there before or belongs to the cluster. -/
theorem mem_of_key? {typed after : Typed} {cluster : List Char}
    (h : typed.key? cluster = some after) {c : Char} (hc : c ∈ after.reversed) :
    c ∈ typed.reversed ∨ c ∈ cluster := by
  rw [key?] at h
  split at h
  · split at h
    · obtain rfl := Option.some.inj h
      exact .inl hc
    · obtain ⟨reversed, hdropped, rfl⟩ := Option.map_eq_some_iff.1 h
      obtain ⟨dropped, hsplit, -⟩ := dropBytes?_eq_some_iff.1 hdropped
      rw [hsplit]
      exact .inl (List.mem_append_right dropped hc)
  · obtain rfl := Option.some.inj h
    rcases List.mem_append.1 hc with hcluster | hbefore
    · exact .inr (List.mem_reverse.1 hcluster)
    · exact .inl hbefore

theorem mem_of_foldlM_key? {parts : List (List Char)} {typed after : Typed}
    (h : parts.foldlM key? typed = some after) {c : Char} (hc : c ∈ after.reversed) :
    c ∈ typed.reversed ∨ c ∈ parts.flatten := by
  induction parts generalizing typed with
  | nil =>
    obtain rfl := Option.some.inj h
    exact .inl hc
  | cons cluster parts ih =>
    rw [List.foldlM_cons] at h
    obtain ⟨next, hkey, hrest⟩ := Option.bind_eq_some_iff.1 h
    rw [List.flatten_cons, List.mem_append]
    rcases ih hrest with hnext | hparts
    · exact (mem_of_key? hkey hnext).imp_right .inl
    · exact .inr (.inr hparts)

end Typed

/-- What is left of a line after its backspaces have had their effect; `none` if one of them would
have to cut a character in two. -/
def applyBackspaces? (line : String) : Option String :=
  ((clusters line.toList).foldlM Typed.key? {}).map Typed.text

/-- **A line without a backspace is left as it is.** -/
theorem applyBackspaces?_of_not_mem {line : String} (h : backspace ∉ line.toList) :
    applyBackspaces? line = some line := by
  rw [← flatten_clusters line.toList] at h
  obtain ⟨sizes, hsizes⟩ := Typed.foldlM_key?_of_not_mem h {}
  rw [applyBackspaces?, hsizes, flatten_clusters, Option.map_some, Typed.text]
  simp

/-- Backspaces add nothing to a line. -/
theorem mem_of_mem_applyBackspaces? {line left : String} (h : applyBackspaces? line = some left)
    {c : Char} (hc : c ∈ left.toList) : c ∈ line.toList := by
  obtain ⟨typed, htyped, rfl⟩ := Option.map_eq_some_iff.1 h
  rw [Typed.text, String.toList_ofList, List.mem_reverse] at hc
  rcases Typed.mem_of_foldlM_key? htyped hc with hnothing | hline
  · cases hnothing
  · rwa [flatten_clusters] at hline

end Text
end TaggedWords

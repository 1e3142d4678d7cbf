import TaggedWords.Text.Cluster.Property

/-!
# Clusters of characters

A cluster is what a reader takes for one character, and what one press of the backspace key takes
away.  A text is cut into clusters from left to right: each character either joins the cluster
before it or begins another one.  These are the extended grapheme clusters of Unicode.

* `joins` — whether a character joins the cluster before it.
* `clusters` — the clusters of a text; `flatten_clusters` says that nothing is lost.
-/

set_option autoImplicit false

namespace TaggedWords
namespace Text

/-! ## Where clusters end

The cluster before a character is given by its characters in reverse, so that the rules below look
back from the end of it. -/

/-- Whether the two classes continue a syllable of Hangul. -/
def continuesSyllable : ClusterClass → ClusterClass → Bool
  | .leading, .leading | .leading, .vowel => true
  | .leading, .openSyllable | .leading, .closedSyllable => true
  | .openSyllable, .vowel | .openSyllable, .trailing => true
  | .vowel, .vowel | .vowel, .trailing => true
  | .closedSyllable, .trailing | .trailing, .trailing => true
  | _, _ => false

/-- Whether the cluster ends in a consonant with a linker after it.  Other marks may stand before
and after the linker; `linked` says whether one was met already. -/
def awaitsConsonant (linked : Bool) : List Char → Bool
  | [] => false
  | c :: earlier =>
    if linksConjunct c then awaitsConsonant true earlier
    else if keepsConjunct c then awaitsConsonant linked earlier
    else linked && ClusterClass.of c = .consonant

/-- Whether the cluster ends in a pictograph, perhaps with extending marks after it. -/
def endsInPictograph (reversed : List Char) : Bool :=
  (reversed.dropWhile fun c => ClusterClass.of c = .extend).head?.any fun c =>
    ClusterClass.of c = .pictograph

/-- Whether the cluster ends in half of a flag: an odd number of regional indicators. -/
def endsInHalfFlag (reversed : List Char) : Bool :=
  (reversed.takeWhile fun c => ClusterClass.of c = .regional).length % 2 = 1

/-- Whether a character joins the cluster before it. -/
def joins (reversed : List Char) (next : Char) : Bool :=
  match reversed with
  | [] => false
  | last :: earlier =>
    let before := ClusterClass.of last
    let after := ClusterClass.of next
    if before = .carriageReturn ∧ after = .lineFeed then true
    else if before.isControl || after.isControl then false
    else
      continuesSyllable before after || after.isMark || before = .prepend ||
        (after = .consonant && awaitsConsonant false reversed) ||
        (before = .joiner && after = .pictograph && endsInPictograph earlier) ||
        (after = .regional && endsInHalfFlag reversed)

theorem joins_of_control {next : Char} (h : ClusterClass.of next = .control)
    (reversed : List Char) : joins reversed next = false := by
  cases reversed with
  | nil => rfl
  | cons last earlier => simp [joins, h, ClusterClass.isControl]

theorem joins_of_isMark {last next : Char} (hlast : (ClusterClass.of last).isControl = false)
    (hnext : (ClusterClass.of next).isMark = true) (earlier : List Char) :
    joins (last :: earlier) next = true := by
  have hcontrol := ClusterClass.isControl_of_isMark hnext
  have hfeed : ClusterClass.of next ≠ .lineFeed := by
    intro hfeed
    rw [hfeed] at hnext
    cases hnext
  simp [joins, hlast, hcontrol, hnext, hfeed]

/-! ## Cutting a text -/

/-- The clusters of a text whose first cluster has begun with the characters `reversed`, the
newest of them first. -/
def clustersFrom (reversed : List Char) : List Char → List (List Char)
  | [] => [reversed.reverse]
  | c :: cs =>
    if joins reversed c then clustersFrom (c :: reversed) cs
    else reversed.reverse :: clustersFrom [c] cs

/-- The clusters of a text. -/
def clusters : List Char → List (List Char)
  | [] => []
  | c :: cs => clustersFrom [c] cs

theorem flatten_clustersFrom (reversed cs : List Char) :
    (clustersFrom reversed cs).flatten = reversed.reverse ++ cs := by
  induction cs generalizing reversed with
  | nil => simp [clustersFrom]
  | cons c cs ih =>
    rw [clustersFrom]
    split
    · rw [ih]; simp
    · rw [List.flatten_cons, ih]; simp

/-- **Clusters put together are the text.** -/
theorem flatten_clusters (cs : List Char) : (clusters cs).flatten = cs := by
  cases cs with
  | nil => rfl
  | cons c cs => rw [clusters, flatten_clustersFrom]; rfl

/-- Marks stay with what they stand behind, by induction on the marks. -/
theorem clustersFrom_append_marks {last : Char} {earlier marks : List Char}
    (hlast : (ClusterClass.of last).isControl = false)
    (hmarks : ∀ mark ∈ marks, (ClusterClass.of mark).isMark = true) (rest : List Char) :
    clustersFrom (last :: earlier) (marks ++ rest) =
      clustersFrom (marks.reverse ++ last :: earlier) rest := by
  induction marks generalizing last earlier with
  | nil => rfl
  | cons mark marks ih =>
    rw [List.forall_mem_cons] at hmarks
    rw [List.cons_append, clustersFrom, if_pos (joins_of_isMark hlast hmarks.1 earlier),
      ih (ClusterClass.isControl_of_isMark hmarks.1) hmarks.2]
    simp

end Text
end TaggedWords

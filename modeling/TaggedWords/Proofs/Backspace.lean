import TaggedWords.Text.Backspace

/-!
# What backspaces take away

As long as a byte is enough to note the size of each cluster, a backspace takes away the whole
cluster before it.  So a line can always be read if its clusters have fewer than 256 bytes, and what
is left of it is said without any sizes.

* `press`, `erased` — a line with its backspaces applied, cluster by cluster.
* `Typed.Holds` — a line being typed holds these clusters, with their sizes as they are.
* `applyBackspaces?_of_short` — what is left of a line with short clusters.
* `Unreadable`, `applyBackspaces?_eq_none_iff` — the lines that cannot be read.
* `exists_long_cluster` — such a line has a backspace and a long cluster; `applyBackspaces?_marked`
  has examples.
-/

set_option autoImplicit false

namespace TaggedWords
namespace Text

/-- The clusters that are left after one more, the newest first: a backspace takes one away. -/
def press (kept : List (List Char)) (cluster : List Char) : List (List Char) :=
  if cluster = [backspace] then kept.tail else cluster :: kept

/-- The line without its backspaces and the clusters that they take away. -/
def erased (line : String) : String :=
  String.ofList ((clusters line.toList).foldl press []).reverse.flatten

/-- A note of one byte is enough for the sizes of all clusters. -/
def ShortClusters (line : String) : Prop :=
  ∀ cluster ∈ clusters line.toList, byteSize cluster < 256

instance (line : String) : Decidable (ShortClusters line) :=
  inferInstanceAs (Decidable (∀ cluster ∈ clusters line.toList, byteSize cluster < 256))

namespace Typed

/-- The clusters that are left of the line are these, the newest first, and each of them is noted
with its size. -/
structure Holds (typed : Typed) (kept : List (List Char)) : Prop where
  reversed_eq : typed.reversed = kept.flatMap List.reverse
  sizes_eq : typed.sizes.map UInt8.toNat = kept.map byteSize

/-- **A key does what is meant by it**, if the new cluster is short. -/
theorem Holds.key? {typed : Typed} {kept : List (List Char)} (h : typed.Holds kept)
    {cluster : List Char} (hshort : byteSize cluster < 256) :
    ∃ after, typed.key? cluster = some after ∧ after.Holds (press kept cluster) := by
  obtain ⟨reversed, sizes⟩ := typed
  obtain ⟨rfl, hsizes⟩ := h
  by_cases hcluster : cluster = [backspace]
  · rw [hcluster, press, if_pos rfl]
    cases kept with
    | nil =>
      obtain rfl : sizes = [] := List.map_eq_nil_iff.1 hsizes
      exact ⟨{}, rfl, rfl, rfl⟩
    | cons last kept =>
      obtain ⟨size, sizes, rfl, hsize, hrest⟩ := List.map_eq_cons_iff.1 hsizes
      have hdropped : dropBytes? size.toNat ((last :: kept).flatMap List.reverse) =
          some (kept.flatMap List.reverse) :=
        dropBytes?_eq_some_iff.2 ⟨last.reverse, rfl, (byteSize_reverse last).trans hsize.symm⟩
      rw [key?_backspace, hdropped]
      exact ⟨_, rfl, rfl, hrest⟩
  · rw [press, if_neg hcluster]
    refine ⟨_, key?_of_ne hcluster _, rfl, ?_⟩
    rw [List.map_cons, List.map_cons, hsizes, UInt8.toNat_ofNat', Nat.mod_eq_of_lt hshort]

/-- **So do all keys**, by induction on the clusters. -/
theorem Holds.foldlM {typed : Typed} {kept : List (List Char)} (h : typed.Holds kept)
    {parts : List (List Char)} (hshort : ∀ cluster ∈ parts, byteSize cluster < 256) :
    ∃ after, parts.foldlM Typed.key? typed = some after ∧ after.Holds (parts.foldl press kept) := by
  induction parts generalizing typed kept with
  | nil => exact ⟨typed, rfl, h⟩
  | cons cluster parts ih =>
    rw [List.forall_mem_cons] at hshort
    obtain ⟨next, hnext, hholds⟩ := h.key? hshort.1
    rw [List.foldlM_cons, hnext, List.foldl_cons]
    exact ih hholds hshort.2

theorem Holds.text_eq {typed : Typed} {kept : List (List Char)} (h : typed.Holds kept) :
    typed.text = String.ofList kept.reverse.flatten := by
  have hreverse : kept.flatMap List.reverse = kept.reverse.flatten.reverse := by
    rw [List.reverse_flatten, List.map_reverse, List.reverse_reverse, List.flatMap_def]
  rw [text, h.reversed_eq, hreverse, List.reverse_reverse]

end Typed

/-- **If the clusters of a line are short, each backspace in it takes away the cluster before it.**
-/
theorem applyBackspaces?_of_short {line : String} (h : ShortClusters line) :
    applyBackspaces? line = some (erased line) := by
  have hnothing : Typed.Holds {} [] := ⟨rfl, rfl⟩
  obtain ⟨typed, htyped, hholds⟩ := hnothing.foldlM h
  rw [applyBackspaces?, htyped, Option.map_some, hholds.text_eq, erased]

/-! ## Lines that cannot be read -/

/-- **A text that is long enough cannot be cut exactly where a character would be in two parts.** -/
theorem dropBytes?_eq_none_iff {size : Nat} {reversed : List Char} (h : size ≤ byteSize reversed) :
    dropBytes? size reversed = none ↔
      ∃ dropped c earlier, reversed = dropped ++ c :: earlier ∧
        byteSize dropped < size ∧ size < byteSize dropped + c.utf8Size := by
  induction reversed generalizing size with
  | nil =>
    obtain rfl : size = 0 := Nat.le_zero.1 h
    exact iff_of_false (by simp [dropBytes?]) (by simp)
  | cons c cs ih =>
    rw [byteSize_cons] at h
    rw [dropBytes?]
    by_cases hzero : size = 0
    · rw [if_pos hzero]
      refine iff_of_false (by simp) ?_
      rintro ⟨_, _, _, _, hbelow, _⟩
      omega
    rw [if_neg hzero]
    by_cases hfits : c.utf8Size ≤ size
    · rw [if_pos hfits, ih (by omega)]
      constructor
      · rintro ⟨dropped, d, earlier, rfl, hbelow, habove⟩
        refine ⟨c :: dropped, d, earlier, rfl, ?_, ?_⟩ <;> rw [byteSize_cons] <;> omega
      · rintro ⟨dropped, d, earlier, htext, hbelow, habove⟩
        cases dropped with
        | nil =>
          obtain ⟨rfl, rfl⟩ := List.cons.inj htext
          rw [byteSize_nil] at habove
          omega
        | cons first dropped =>
          obtain ⟨rfl, rfl⟩ := List.cons.inj htext
          rw [byteSize_cons] at hbelow habove
          exact ⟨dropped, d, earlier, rfl, by omega, by omega⟩
    · rw [if_neg hfits]
      refine iff_of_true rfl ⟨[], c, cs, rfl, ?_, ?_⟩ <;> rw [byteSize_nil] <;> omega

namespace Typed

/-- How many bytes are noted in all. -/
def noted (sizes : List UInt8) : Nat :=
  sizes.foldr (fun size total => size.toNat + total) 0

theorem noted_cons (size : UInt8) (sizes : List UInt8) :
    noted (size :: sizes) = size.toNat + noted sizes := rfl

/-- There is as much of the line as is noted, so that a cut can fail inside of a character only. -/
def Covered (typed : Typed) : Prop :=
  noted typed.sizes ≤ byteSize typed.reversed

/-- A note is never too large, and what a backspace takes away was noted. -/
theorem Covered.key? {typed after : Typed} (h : typed.Covered) {cluster : List Char}
    (hkey : typed.key? cluster = some after) : after.Covered := by
  obtain ⟨reversed, sizes⟩ := typed
  by_cases hcluster : cluster = [backspace]
  · subst hcluster
    cases sizes with
    | nil =>
      obtain rfl := Option.some.inj hkey
      exact h
    | cons size sizes =>
      rw [key?_backspace] at hkey
      obtain ⟨earlier, hdropped, rfl⟩ := Option.map_eq_some_iff.1 hkey
      obtain ⟨dropped, rfl, hsize⟩ := dropBytes?_eq_some_iff.1 hdropped
      rw [Covered, noted_cons, byteSize_append, hsize] at h
      exact Nat.le_of_add_le_add_left h
  · obtain rfl := Option.some.inj ((key?_of_ne hcluster _).symm.trans hkey)
    have hnote : (UInt8.ofNat (byteSize cluster)).toNat ≤ byteSize cluster := by
      rw [UInt8.toNat_ofNat']
      exact Nat.mod_le _ _
    rw [Covered] at h
    rw [Covered, noted_cons, byteSize_append, byteSize_reverse]
    exact Nat.add_le_add hnote h

theorem Covered.foldlM {typed after : Typed} (h : typed.Covered) {parts : List (List Char)}
    (hparts : parts.foldlM Typed.key? typed = some after) : after.Covered := by
  induction parts generalizing typed with
  | nil =>
    obtain rfl := Option.some.inj hparts
    exact h
  | cons cluster parts ih =>
    rw [List.foldlM_cons] at hparts
    obtain ⟨next, hkey, hrest⟩ := Option.bind_eq_some_iff.1 hparts
    exact ih (h.key? hkey) hrest

/-- The size that was noted last ends inside of a character. -/
def CutsCharacter (typed : Typed) : Prop :=
  ∃ size sizes dropped c earlier, typed.sizes = size :: sizes ∧
    typed.reversed = dropped ++ c :: earlier ∧
    byteSize dropped < size.toNat ∧ size.toNat < byteSize dropped + c.utf8Size

/-- **A key fails exactly if it is a backspace that would cut a character in two.** -/
theorem Covered.key?_eq_none_iff {typed : Typed} (h : typed.Covered) {cluster : List Char} :
    typed.key? cluster = none ↔ cluster = [backspace] ∧ typed.CutsCharacter := by
  obtain ⟨reversed, sizes⟩ := typed
  by_cases hcluster : cluster = [backspace]
  · subst hcluster
    cases sizes with
    | nil =>
      refine iff_of_false (fun hnone => nomatch hnone) ?_
      rintro ⟨-, _, _, _, _, _, hnil, -⟩
      cases hnil
    | cons size sizes =>
      rw [Covered, noted_cons] at h
      have hnoted : size.toNat ≤ byteSize reversed := Nat.le_of_add_right_le h
      rw [key?_backspace, Option.map_eq_none_iff, dropBytes?_eq_none_iff hnoted]
      constructor
      · rintro ⟨dropped, c, earlier, htext, hbelow, habove⟩
        exact ⟨rfl, size, sizes, dropped, c, earlier, rfl, htext, hbelow, habove⟩
      · rintro ⟨-, _, _, dropped, c, earlier, hsizes, htext, hbelow, habove⟩
        obtain ⟨rfl, rfl⟩ := List.cons.inj hsizes
        exact ⟨dropped, c, earlier, htext, hbelow, habove⟩
  · rw [key?_of_ne hcluster]
    exact iff_of_false (fun hnone => nomatch hnone) fun hcut => hcluster hcut.1

/-- Keys fail at the first that fails. -/
theorem foldlM_key?_eq_none_iff {parts : List (List Char)} {typed : Typed} :
    parts.foldlM Typed.key? typed = none ↔
      ∃ before cluster after next, parts = before ++ cluster :: after ∧
        before.foldlM Typed.key? typed = some next ∧ next.key? cluster = none := by
  constructor
  · intro h
    induction parts generalizing typed with
    | nil => cases h
    | cons cluster parts ih =>
      rw [List.foldlM_cons] at h
      cases hkey : typed.key? cluster with
      | none => exact ⟨[], cluster, parts, typed, rfl, rfl, hkey⟩
      | some next =>
        rw [hkey] at h
        obtain ⟨before, last, after, final, rfl, hbefore, hlast⟩ := ih h
        refine ⟨cluster :: before, last, after, final, rfl, ?_, hlast⟩
        rw [List.foldlM_cons, hkey]
        exact hbefore
  · rintro ⟨before, cluster, after, next, rfl, hbefore, hkey⟩
    rw [List.foldlM_append, hbefore, Option.bind_eq_bind, Option.bind_some, List.foldlM_cons, hkey]
    rfl

end Typed

/-- The line has a backspace that would cut a character in two. -/
def Unreadable (line : String) : Prop :=
  ∃ before after typed, clusters line.toList = before ++ [backspace] :: after ∧
    before.foldlM Typed.key? {} = some typed ∧ typed.CutsCharacter

/-- **A line cannot be read exactly if a backspace in it would cut a character in two.** -/
theorem applyBackspaces?_eq_none_iff {line : String} :
    applyBackspaces? line = none ↔ Unreadable line := by
  have hnothing : Typed.Covered {} := Nat.le_refl 0
  rw [applyBackspaces?, Option.map_eq_none_iff, Typed.foldlM_key?_eq_none_iff, Unreadable]
  constructor
  · rintro ⟨before, cluster, after, typed, hclusters, hbefore, hkey⟩
    obtain ⟨rfl, hcut⟩ := (hnothing.foldlM hbefore).key?_eq_none_iff.1 hkey
    exact ⟨before, after, typed, hclusters, hbefore, hcut⟩
  · rintro ⟨before, after, typed, hclusters, hbefore, hcut⟩
    exact ⟨before, _, after, typed, hclusters, hbefore,
      (hnothing.foldlM hbefore).key?_eq_none_iff.2 ⟨rfl, hcut⟩⟩

/-- **Only a backspace in a line with a long cluster can keep it from being read.** -/
theorem exists_long_cluster {line : String} (h : Unreadable line) :
    backspace ∈ line.toList ∧ ∃ cluster ∈ clusters line.toList, 256 ≤ byteSize cluster := by
  rw [← applyBackspaces?_eq_none_iff] at h
  refine ⟨Decidable.byContradiction fun hclean => ?_, Decidable.byContradiction fun hnone => ?_⟩
  · rw [applyBackspaces?_of_not_mem hclean] at h
    cases h
  · have hshort : ShortClusters line := fun cluster hcluster =>
      Nat.lt_of_not_le fun hlong => hnone ⟨cluster, hcluster, hlong⟩
    rw [applyBackspaces?_of_short hshort] at h
    cases h

/-- **Such a line there is for every way of making a cluster long with marks**, if the noted size of
the cluster ends inside of a character. -/
theorem applyBackspaces?_marked {c : Char} {marks : List Char}
    (hc : (ClusterClass.of c).isControl = false)
    (hmarks : ∀ mark ∈ marks, (ClusterClass.of mark).isMark = true)
    (hcut : dropBytes? (byteSize (c :: marks) % 256) (c :: marks).reverse = none) :
    applyBackspaces? (String.ofList (c :: marks ++ [backspace])) = none := by
  have hcluster : c :: marks ≠ [backspace] := by
    rintro h
    obtain ⟨rfl, rfl⟩ := List.cons.inj h
    exact absurd hc (by decide)
  have hcontrol : ClusterClass.of backspace = .control := by decide
  have hclusters : clusters (c :: marks ++ [backspace]) = [c :: marks, [backspace]] := by
    rw [List.cons_append, clusters, clustersFrom_append_marks hc hmarks, clustersFrom,
      joins_of_control hcontrol]
    simp [clustersFrom]
  rw [applyBackspaces?, String.toList_ofList, hclusters, List.foldlM_cons,
    Typed.key?_of_ne hcluster, Option.bind_eq_bind, Option.bind_some, List.append_nil,
    List.foldlM_cons, Typed.key?_backspace, UInt8.toNat_ofNat', hcut]
  rfl

end Text
end TaggedWords

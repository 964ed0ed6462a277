import FeatureRunner.Proofs.Text.Trimming
import FeatureRunner.TagSpec
import Mathlib.Logic.Relation
import Mathlib.Tactic.Tauto

/-!
# The normal form of tags

A tag can be written with blank characters around it, and without its sign.  All ways to write a
tag have one normal form, and tags of different normal forms are never ways to write the same tag.

Sets of tags are kept as increasing lists, so that sets with the same members are equal.
-/

namespace FeatureRunner

namespace TagSpec

variable {tag other name : Text}

/-- The form of a normalized tag: with its sign, and without blank characters at its ends. -/
structure IsNormal (tag : Text) : Prop where
  sign : ∃ name, tag = '@' :: name
  trimmed : tag.IsTrimmed

/-- Two ways to write a tag.  A sign can be left out only if what remains begins with neither a
sign nor a blank character. -/
inductive Respelled : Text → Text → Prop
  | blanks {front back : Text} (ahead : front.IsBlankText) (after : back.IsBlankText)
      (tag : Text) : Respelled tag (front ++ (tag ++ back))
  | sign {name : Text} (unsigned : name.head? ≠ some '@')
      (solid : ∀ c ∈ name.head?, isBlank c = false) : Respelled ('@' :: name) name

/-- Texts that write the same tag. -/
def SameTag : Text → Text → Prop := Relation.EqvGen Respelled

/-- Lists that write the same tags, in any order and any number of times. -/
def SameTags (tags others : List Text) : Prop :=
  (∀ tag ∈ tags, ∃ other ∈ others, SameTag tag other) ∧
    ∀ other ∈ others, ∃ tag ∈ tags, SameTag tag other

theorem isNormal_of_isTrimmed (trimmed : name.IsTrimmed) : IsNormal ('@' :: name) :=
  ⟨⟨name, rfl⟩, trimmed.cons (by decide)⟩

theorem normalize_of_strip_signed (signed : Text.strip tag = '@' :: name) :
    normalize tag = '@' :: name := by
  unfold normalize
  rw [signed]
  rfl

theorem normalize_of_strip_unsigned (unsigned : (Text.strip tag).head? ≠ some '@') :
    normalize tag = '@' :: Text.strip tag := by
  unfold normalize
  split
  · next signed => simp [signed] at unsigned
  · rfl

theorem isNormal_normalize (tag : Text) : IsNormal (normalize tag) := by
  have trimmed := Text.isTrimmed_strip tag
  by_cases signed : (Text.strip tag).head? = some '@'
  · obtain ⟨name, whole⟩ := List.head?_eq_some_iff.mp signed
    rw [normalize_of_strip_signed whole, ← whole]
    exact ⟨⟨name, whole⟩, trimmed⟩
  · rw [normalize_of_strip_unsigned signed]
    exact isNormal_of_isTrimmed trimmed

theorem normalize_of_isNormal (normal : IsNormal tag) : normalize tag = tag := by
  obtain ⟨name, rfl⟩ := normal.sign
  exact normalize_of_strip_signed (Text.strip_of_isTrimmed normal.trimmed)

theorem normalize_surrounded {front back : Text} (ahead : front.IsBlankText)
    (after : back.IsBlankText) (tag : Text) :
    normalize (front ++ (tag ++ back)) = normalize tag := by
  unfold normalize
  rw [Text.strip_surrounded ahead after]

/-- A tag without its sign is the same tag, unless another sign or a blank character follows. -/
theorem normalize_of_unsigned (unsigned : name.head? ≠ some '@')
    (solid : ∀ c ∈ name.head?, isBlank c = false) : normalize ('@' :: name) = normalize name := by
  obtain ⟨back, after, whole⟩ := Text.exists_strip_of_solid solid
  have stillUnsigned : (Text.strip name).head? ≠ some '@' := by
    intro signed
    apply unsigned
    rw [whole, List.head?_append, signed]
    rfl
  have normal : IsNormal ('@' :: Text.strip name) :=
    isNormal_of_isTrimmed (Text.isTrimmed_strip name)
  calc
    normalize ('@' :: name) = normalize ('@' :: Text.strip name ++ back) := by
      rw [List.cons_append, ← whole]
    _ = normalize ('@' :: Text.strip name) :=
      normalize_surrounded Text.isBlankText_nil after ('@' :: Text.strip name)
    _ = '@' :: Text.strip name := normalize_of_isNormal normal
    _ = normalize name := (normalize_of_strip_unsigned stillUnsigned).symm

/-- Every text writes the same tag as its normal form. -/
theorem sameTag_normalize (tag : Text) : SameTag (normalize tag) tag := by
  obtain ⟨front, back, ahead, after, whole⟩ := Text.exists_strip tag
  have trimming : SameTag (Text.strip tag) tag := by
    have respelled := Respelled.blanks ahead after (Text.strip tag)
    rw [← whole] at respelled
    exact .rel _ _ respelled
  by_cases signed : (Text.strip tag).head? = some '@'
  · obtain ⟨name, written⟩ := List.head?_eq_some_iff.mp signed
    rw [normalize_of_strip_signed written, ← written]
    exact trimming
  · rw [normalize_of_strip_unsigned signed]
    exact .trans _ _ _ (.rel _ _ (.sign signed (Text.isTrimmed_strip tag).front)) trimming

/-- Texts write the same tag exactly if they have the same normal form. -/
theorem sameTag_iff : SameTag tag other ↔ normalize tag = normalize other := by
  constructor
  · intro same
    induction same with
    | rel _ _ respelled =>
        cases respelled with
        | blanks ahead after => exact (normalize_surrounded ahead after _).symm
        | sign unsigned solid => exact normalize_of_unsigned unsigned solid
    | refl _ => rfl
    | symm _ _ _ ih => exact ih.symm
    | trans _ _ _ _ _ first second => exact first.trans second
  · intro same
    have back := sameTag_normalize tag
    rw [same] at back
    exact .trans _ _ _ (.symm _ _ back) (sameTag_normalize other)

theorem SameTags.mem_normalized_iff {tags others : List Text} (same : SameTags tags others)
    (tag : Text) : tag ∈ tags.map normalize ↔ tag ∈ others.map normalize := by
  obtain ⟨onward, back⟩ := same
  constructor
  · intro member
    obtain ⟨written, among, rfl⟩ := List.mem_map.mp member
    obtain ⟨other, amongOthers, alike⟩ := onward written among
    exact List.mem_map.mpr ⟨other, amongOthers, (sameTag_iff.mp alike).symm⟩
  · intro member
    obtain ⟨other, amongOthers, rfl⟩ := List.mem_map.mp member
    obtain ⟨written, among, alike⟩ := back other amongOthers
    exact List.mem_map.mpr ⟨written, among, sameTag_iff.mp alike⟩

end TagSpec

namespace TagSet

variable {tags others : TagSet} {tag : Text}

/-- A list without repetitions, in increasing order. -/
def Increasing (tags : TagSet) : Prop := tags.Pairwise (· < ·)

theorem mem_insert {other : Text} (tags : TagSet) :
    other ∈ tags.insert tag ↔ other = tag ∨ other ∈ tags := by
  induction tags with
  | nil => simp [insert]
  | cons first rest ih =>
      unfold insert
      split
      · next same => simp [same]
      · split
        · simp
        · simp only [List.mem_cons, ih]
          tauto

theorem Increasing.insert (increasing : tags.Increasing) (tag : Text) :
    (tags.insert tag).Increasing := by
  induction tags with
  | nil => simp [TagSet.insert, Increasing]
  | cons first rest ih =>
      obtain ⟨least, others⟩ := List.pairwise_cons.mp increasing
      unfold TagSet.insert
      split
      · exact increasing
      · next different =>
        split
        · next before =>
          have smaller : tag < first := of_decide_eq_true before
          refine List.pairwise_cons.mpr ⟨fun other member => ?_, increasing⟩
          rcases List.mem_cons.mp member with rfl | later
          · exact smaller
          · exact List.lt_trans smaller (least other later)
        · next after =>
          have notSmaller : ¬ tag < first := by simpa [Text.before] using after
          have greater : first < tag := by
            by_contra notGreater
            exact different
              (List.le_antisymm (List.not_lt.mp notGreater) (List.not_lt.mp notSmaller))
          refine List.pairwise_cons.mpr ⟨fun other member => ?_, ih others⟩
          rcases (mem_insert rest).mp member with rfl | later
          · exact greater
          · exact least other later

theorem mem_ofList {tags : List Text} : tag ∈ ofList tags ↔ tag ∈ tags := by
  induction tags with
  | nil => simp [ofList]
  | cons first rest ih =>
      rw [ofList, List.foldr_cons, mem_insert, List.mem_cons]
      exact or_congr_right ih

theorem increasing_ofList (tags : List Text) : (ofList tags).Increasing := by
  induction tags with
  | nil => exact .nil
  | cons first rest ih => exact ih.insert first

/-- Increasing lists with the same members are equal. -/
theorem Increasing.ext (increasing : tags.Increasing) (othersIncreasing : others.Increasing)
    (same : ∀ tag, tag ∈ tags ↔ tag ∈ others) : tags = others := by
  have distinct {set : TagSet} (ordered : set.Increasing) : set.Nodup := by
    refine List.Pairwise.imp ?_ ordered
    rintro tag _ before rfl
    exact List.lt_irrefl tag before
  have reordered : tags.Perm others :=
    (List.perm_ext_iff_of_nodup (distinct increasing) (distinct othersIncreasing)).mpr same
  refine reordered.eq_of_pairwise ?_ increasing othersIncreasing
  intro tag other _ _ before after
  exact absurd (List.lt_trans before after) (List.lt_irrefl _)

theorem ofList_congr {tags others : List Text} (same : ∀ tag, tag ∈ tags ↔ tag ∈ others) :
    ofList tags = ofList others := by
  refine (increasing_ofList tags).ext (increasing_ofList others) fun tag => ?_
  rw [mem_ofList, mem_ofList, same tag]

end TagSet

end FeatureRunner

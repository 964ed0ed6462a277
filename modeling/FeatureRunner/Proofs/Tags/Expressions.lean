import FeatureRunner.Proofs.Tags.Normalization
import FeatureRunner.Proofs.Text.Parts
import Mathlib.Data.Finset.Union

/-!
# Tag expressions

A tag expression spells two sets of tags, the included and the excluded ones, between commas and
with blank characters wherever they do not count.  Every expression that spells sets is read as
exactly these sets, and what an expression is read as can be written out and read again.
-/

namespace FeatureRunner

/-- The increasing list of the tags of a set. -/
structure TagSet.Lists (list : TagSet) (tags : Finset Text) : Prop where
  increasing : list.Increasing
  members : ∀ tag, tag ∈ list ↔ tag ∈ tags

theorem TagSet.lists_ofList (tags : Finset Text) : (ofList tags.toList).Lists tags :=
  ⟨increasing_ofList _, fun tag => by rw [mem_ofList, Finset.mem_toList]⟩

theorem TagSet.Increasing.lists {list : TagSet} (increasing : list.Increasing) :
    list.Lists list.toFinset :=
  ⟨increasing, fun _ => List.mem_toFinset.symm⟩

namespace TagSpec

variable {expression part tag : Text} {parts : List Text} {spec : TagSpec}

/-- The tags that stand in expressions: normalized ones without a comma. -/
structure IsTag (tag : Text) : Prop extends IsNormal tag where
  unbroken : ',' ∉ tag

/-- A part of an expression names a tag, perhaps with blank characters around it. -/
def Names (part tag : Text) : Prop := part.strip = tag

/-- A part of an expression rules a tag out by a tilde, perhaps with blank characters around it
and after the tilde. -/
def RulesOut (part tag : Text) : Prop :=
  ∃ blanks : Text, blanks.IsBlankText ∧ part.strip = '~' :: (blanks ++ tag)

/-- An expression spells the tags to include and to exclude: each of them occurs in some part, and
all other parts are blank. -/
structure Spells (expression : Text) (included excluded : Finset Text) : Prop where
  parts : ∀ part ∈ Text.splitAt ',' expression, part.strip = [] ∨
    (∃ tag ∈ included, Names part tag) ∨ ∃ tag ∈ excluded, RulesOut part tag
  included : ∀ tag ∈ included, ∃ part ∈ Text.splitAt ',' expression, Names part tag
  excluded : ∀ tag ∈ excluded, ∃ part ∈ Text.splitAt ',' expression, RulesOut part tag

/-- The expression that names the included tags of a spec and rules out the excluded ones. -/
def toExpression (spec : TagSpec) : Text :=
  Text.join [','] (spec.included ++ spec.excluded.map ('~' :: ·))

/-- The tag that a trimmed part adds to the included ones. -/
def includedTag? : Text → Option Text
  | [] => none
  | '~' :: _ => none
  | tag => some (normalize tag)

/-- The tag that a trimmed part adds to the excluded ones. -/
def excludedTag? : Text → Option Text
  | '~' :: tag => some (normalize tag)
  | _ => none

theorem addPart_eq (spec : TagSpec) (part : Text) :
    spec.addPart part =
      ⟨(includedTag? part).elim spec.included spec.included.insert,
        (excludedTag? part).elim spec.excluded spec.excluded.insert, spec.featureTags⟩ := by
  unfold addPart includedTag? excludedTag?
  split <;> simp_all

theorem includedTag?_eq_some_iff :
    includedTag? part = some tag ↔ part ≠ [] ∧ part.head? ≠ some '~' ∧ normalize part = tag := by
  unfold includedTag?
  split
  · simp
  · simp
  · next empty unnegated =>
    have named : part ≠ [] := empty
    have plain : part.head? ≠ some '~' := by
      intro first
      obtain ⟨name, rfl⟩ := List.head?_eq_some_iff.mp first
      exact unnegated name rfl
    simp [named, plain]

theorem excludedTag?_eq_some_iff :
    excludedTag? part = some tag ↔ ∃ name, part = '~' :: name ∧ normalize name = tag := by
  unfold excludedTag?
  split <;> simp_all

/-- A list of a spec that every part adds its tag to, if it tells one, holds the tags of all parts
in the end. -/
theorem foldl_addPart {list : TagSpec → TagSet} {told? : Text → Option Text}
    (adds : ∀ spec part,
      list (spec.addPart part) = (told? part).elim (list spec) (list spec).insert)
    (parts : List Text) {spec : TagSpec} (increasing : (list spec).Increasing) :
    (list (parts.foldl addPart spec)).Increasing ∧
      ∀ tag, tag ∈ list (parts.foldl addPart spec) ↔
        tag ∈ list spec ∨ ∃ part ∈ parts, told? part = some tag := by
  induction parts generalizing spec with
  | nil => simp [increasing]
  | cons part rest ih =>
      have here := adds spec part
      cases told : told? part with
      | none =>
          rw [told, Option.elim_none] at here
          obtain ⟨ordered, members⟩ := ih (here ▸ increasing)
          refine ⟨ordered, fun tag => ?_⟩
          simp [members tag, here, told]
      | some first =>
          rw [told, Option.elim_some] at here
          obtain ⟨ordered, members⟩ := ih (here ▸ increasing.insert first)
          refine ⟨ordered, fun tag => ?_⟩
          simp only [List.foldl_cons, members tag, here, TagSet.mem_insert,
            List.exists_mem_cons_iff, told, Option.some_inj]
          tauto

/-- The tags that the parts of an expression add to the included ones. -/
def Adds (expression tag : Text) : Prop :=
  ∃ part ∈ Text.splitAt ',' expression, includedTag? part.strip = some tag

/-- The tags that the parts of an expression add to the excluded ones. -/
def Bars (expression tag : Text) : Prop :=
  ∃ part ∈ Text.splitAt ',' expression, excludedTag? part.strip = some tag

/-- What an expression is read as, and when it is read at all. -/
theorem exists_parse (expression : Text) (featureTags : List Text) :
    ∃ included excluded : TagSet, included.Increasing ∧ excluded.Increasing ∧
      (∀ tag, tag ∈ included ↔ Adds expression tag) ∧
      (∀ tag, tag ∈ excluded ↔ Bars expression tag) ∧
      parse expression featureTags =
        if included = [] ∧ excluded = [] then .error ⟨expression⟩
        else .ok ⟨included, excluded, tagSet featureTags⟩ := by
  let trimmed := (Text.splitAt ',' expression).map Text.strip
  let start : TagSpec := ⟨[], [], []⟩
  have noneIncluded : start.included.Increasing := List.Pairwise.nil
  have noneExcluded : start.excluded.Increasing := List.Pairwise.nil
  obtain ⟨included, inIncluded⟩ :=
    foldl_addPart (fun spec part => congrArg TagSpec.included (addPart_eq spec part)) trimmed
      noneIncluded
  obtain ⟨excluded, inExcluded⟩ :=
    foldl_addPart (fun spec part => congrArg TagSpec.excluded (addPart_eq spec part)) trimmed
      noneExcluded
  refine ⟨_, _, included, excluded, fun tag => ?_, fun tag => ?_, rfl⟩
  · simp [inIncluded tag, start, trimmed, Adds]
  · simp [inExcluded tag, start, trimmed, Bars]

theorem isTag_normalize (unbroken : ',' ∉ part) : IsTag (normalize part) := by
  refine ⟨isNormal_normalize part, fun broken => unbroken ?_⟩
  by_cases signed : (Text.strip part).head? = some '@'
  · obtain ⟨name, whole⟩ := List.head?_eq_some_iff.mp signed
    rw [normalize_of_strip_signed whole, ← whole] at broken
    exact Text.mem_of_mem_strip broken
  · rw [normalize_of_strip_unsigned signed] at broken
    exact Text.mem_of_mem_strip (List.mem_of_ne_of_mem (by decide) broken)

theorem Adds.isTag (adds : Adds expression tag) : IsTag tag := by
  obtain ⟨part, isPart, told⟩ := adds
  obtain ⟨-, -, rfl⟩ := includedTag?_eq_some_iff.mp told
  apply isTag_normalize
  exact fun inside => Text.not_mem_of_mem_splitAt isPart (Text.mem_of_mem_strip inside)

theorem Bars.isTag (bars : Bars expression tag) : IsTag tag := by
  obtain ⟨part, isPart, told⟩ := bars
  obtain ⟨name, whole, rfl⟩ := excludedTag?_eq_some_iff.mp told
  apply isTag_normalize
  intro inside
  have inPart : ',' ∈ Text.strip part := whole ▸ List.mem_cons_of_mem _ inside
  exact Text.not_mem_of_mem_splitAt isPart (Text.mem_of_mem_strip inPart)

/-- Every part that is not blank tells a tag. -/
theorem exists_adds_or_bars (isPart : part ∈ Text.splitAt ',' expression)
    (some : part.strip ≠ []) : ∃ tag, Adds expression tag ∨ Bars expression tag := by
  by_cases negated : part.strip.head? = Option.some '~'
  · obtain ⟨name, whole⟩ := List.head?_eq_some_iff.mp negated
    exact ⟨_, .inr ⟨part, isPart, excludedTag?_eq_some_iff.mpr ⟨name, whole, rfl⟩⟩⟩
  · exact ⟨_, .inl ⟨part, isPart, includedTag?_eq_some_iff.mpr ⟨some, negated, rfl⟩⟩⟩

theorem Names.told (names : Names part tag) (normal : IsNormal tag) :
    includedTag? part.strip = some tag ∧ excludedTag? part.strip = none := by
  obtain ⟨name, rfl⟩ := normal.sign
  rw [Names] at names
  rw [names]
  exact ⟨congrArg some (normalize_of_isNormal normal), rfl⟩

theorem RulesOut.told (rulesOut : RulesOut part tag) (normal : IsNormal tag) :
    includedTag? part.strip = none ∧ excludedTag? part.strip = some tag := by
  obtain ⟨blanks, blank, whole⟩ := rulesOut
  rw [whole]
  have trimming := normalize_surrounded blank Text.isBlankText_nil tag
  rw [List.append_nil, normalize_of_isNormal normal] at trimming
  exact ⟨rfl, congrArg some trimming⟩

/-- An expression that spells sets of tags tells exactly these tags. -/
theorem Spells.told {included excluded : Finset Text}
    (spells : Spells expression included excluded)
    (normal : ∀ tag ∈ included ∪ excluded, IsNormal tag) :
    (∀ tag, Adds expression tag ↔ tag ∈ included) ∧
      ∀ tag, Bars expression tag ↔ tag ∈ excluded := by
  have normalIncluded (tag : Text) (member : tag ∈ included) : IsNormal tag :=
    normal tag (Finset.mem_union_left _ member)
  have normalExcluded (tag : Text) (member : tag ∈ excluded) : IsNormal tag :=
    normal tag (Finset.mem_union_right _ member)
  refine ⟨fun tag => ⟨?_, fun member => ?_⟩, fun tag => ⟨?_, fun member => ?_⟩⟩
  · rintro ⟨part, isPart, told⟩
    rcases spells.parts part isPart with blank | ⟨other, member, names⟩ | ⟨other, member, rulesOut⟩
    · rw [blank] at told
      cases told
    · rw [(names.told (normalIncluded other member)).1] at told
      exact Option.some_inj.mp told ▸ member
    · rw [(rulesOut.told (normalExcluded other member)).1] at told
      cases told
  · obtain ⟨part, isPart, names⟩ := spells.included tag member
    exact ⟨part, isPart, (names.told (normalIncluded tag member)).1⟩
  · rintro ⟨part, isPart, told⟩
    rcases spells.parts part isPart with blank | ⟨other, member, names⟩ | ⟨other, member, rulesOut⟩
    · rw [blank] at told
      cases told
    · rw [(names.told (normalIncluded other member)).2] at told
      cases told
    · rw [(rulesOut.told (normalExcluded other member)).2] at told
      exact Option.some_inj.mp told ▸ member
  · obtain ⟨part, isPart, rulesOut⟩ := spells.excluded tag member
    exact ⟨part, isPart, (rulesOut.told (normalExcluded tag member)).2⟩

/-- An expression that spells sets of tags is read as these sets. -/
theorem Spells.parse_eq {included excluded : TagSet} {inSet exSet : Finset Text}
    (spells : Spells expression inSet exSet) (listsIncluded : included.Lists inSet)
    (listsExcluded : excluded.Lists exSet) (normal : ∀ tag ∈ inSet ∪ exSet, IsNormal tag)
    (some : (inSet ∪ exSet).Nonempty) (featureTags : List Text) :
    parse expression featureTags = .ok ⟨included, excluded, tagSet featureTags⟩ := by
  obtain ⟨told, barred, toldIncreasing, barredIncreasing, inTold, inBarred, reads⟩ :=
    exists_parse expression featureTags
  obtain ⟨adds, bars⟩ := spells.told normal
  have sameIncluded : told = included := by
    refine toldIncreasing.ext listsIncluded.increasing fun tag => ?_
    rw [inTold, adds, listsIncluded.members]
  have sameExcluded : barred = excluded := by
    refine barredIncreasing.ext listsExcluded.increasing fun tag => ?_
    rw [inBarred, bars, listsExcluded.members]
  subst sameIncluded sameExcluded
  rw [reads, if_neg]
  rintro ⟨rfl, rfl⟩
  obtain ⟨tag, member⟩ := some
  rcases Finset.mem_union.mp member with inside | inside
  · simpa using (listsIncluded.members tag).mpr inside
  · simpa using (listsExcluded.members tag).mpr inside

/-- What is written out of a spec spells its sets. -/
theorem spells_toExpression (tags : ∀ tag ∈ spec.included ++ spec.excluded, IsTag tag)
    (some : spec.included ++ spec.excluded ≠ []) :
    Spells spec.toExpression spec.included.toFinset spec.excluded.toFinset := by
  obtain ⟨included, excluded⟩ := List.forall_mem_append.mp tags
  have named (tag : Text) (isTag : IsTag tag) : Names tag tag :=
    Text.strip_of_isTrimmed isTag.trimmed
  have ruledOut (tag : Text) (isTag : IsTag tag) : RulesOut ('~' :: tag) tag :=
    ⟨[], Text.isBlankText_nil, Text.strip_of_isTrimmed (isTag.trimmed.cons (by decide))⟩
  have parts : Text.splitAt ',' spec.toExpression =
      spec.included ++ spec.excluded.map ('~' :: ·) := by
    refine Text.splitAt_join (by simpa using some) fun part isPart => ?_
    rcases List.mem_append.mp isPart with names | negated
    · exact (included part names).unbroken
    · obtain ⟨tag, member, rfl⟩ := List.mem_map.mp negated
      exact List.not_mem_cons_of_ne_of_not_mem (by decide) (excluded tag member).unbroken
  refine ⟨fun part isPart => ?_, fun tag member => ?_, fun tag member => ?_⟩
  · rw [parts] at isPart
    rcases List.mem_append.mp isPart with names | negated
    · exact .inr (.inl ⟨part, List.mem_toFinset.mpr names, named part (included part names)⟩)
    · obtain ⟨tag, member, rfl⟩ := List.mem_map.mp negated
      exact .inr (.inr ⟨tag, List.mem_toFinset.mpr member, ruledOut tag (excluded tag member)⟩)
  · have inside := List.mem_toFinset.mp member
    exact ⟨tag, parts ▸ List.mem_append_left _ inside, named tag (included tag inside)⟩
  · have inside := List.mem_toFinset.mp member
    refine ⟨'~' :: tag, ?_, ruledOut tag (excluded tag inside)⟩
    rw [parts]
    exact List.mem_append_right _ (List.mem_map_of_mem inside)

/-- Reading tag expressions.  An expression that spells two sets of tags, not both empty, is read
as exactly these sets.  What an expression is read as are sets of tags, not both empty, and it is
read again from the expression that writes them out.  An expression is refused exactly if all its
parts are blank. -/
theorem parse_readsSpelledTags :
    (∀ included excluded : Finset Text, (included ∪ excluded).Nonempty →
      (∀ tag ∈ included ∪ excluded, IsTag tag) →
      ∀ expression, Spells expression included excluded → ∀ featureTags,
        ∃ spec, parse expression featureTags = .ok spec ∧ spec.included.Lists included ∧
          spec.excluded.Lists excluded ∧ spec.featureTags = tagSet featureTags) ∧
    (∀ expression featureTags spec, parse expression featureTags = .ok spec →
      spec.included.Increasing ∧ spec.excluded.Increasing ∧
        (∀ tag ∈ spec.included ++ spec.excluded, IsTag tag) ∧
        spec.included ++ spec.excluded ≠ [] ∧
        parse spec.toExpression featureTags = .ok spec) ∧
    (∀ expression featureTags, (∃ fault, parse expression featureTags = .error fault) ↔
      ∀ part ∈ Text.splitAt ',' expression, part.IsBlankText) := by
  refine ⟨?_, ?_, ?_⟩
  · intro included excluded some tags expression spells featureTags
    have listsIncluded := TagSet.lists_ofList included
    have listsExcluded := TagSet.lists_ofList excluded
    have reads := spells.parse_eq listsIncluded listsExcluded
      (fun tag member => (tags tag member).toIsNormal) some featureTags
    exact ⟨_, reads, listsIncluded, listsExcluded, rfl⟩
  · intro expression featureTags spec read
    obtain ⟨included, excluded, incIncluded, incExcluded, adds, bars, reads⟩ :=
      exists_parse expression featureTags
    rw [reads] at read
    split at read
    · cases read
    · next some =>
      cases read
      have tags : ∀ tag ∈ included ++ excluded, IsTag tag := by
        refine List.forall_mem_append.mpr ⟨fun tag member => ?_, fun tag member => ?_⟩
        · exact ((adds tag).mp member).isTag
        · exact ((bars tag).mp member).isTag
      have nonempty : included ++ excluded ≠ [] := by simpa using some
      refine ⟨incIncluded, incExcluded, tags, nonempty, ?_⟩
      refine (spells_toExpression tags nonempty).parse_eq incIncluded.lists incExcluded.lists ?_ ?_
        featureTags
      · intro tag member
        rw [← List.toFinset_append] at member
        exact (tags tag (List.mem_toFinset.mp member)).toIsNormal
      · rw [← List.toFinset_append]
        exact (List.toFinset_nonempty_iff _).mpr nonempty
  · intro expression featureTags
    obtain ⟨included, excluded, -, -, adds, bars, reads⟩ := exists_parse expression featureTags
    rw [reads]
    constructor
    · rintro ⟨fault, refused⟩ part isPart
      split at refused
      · next none =>
        obtain ⟨rfl, rfl⟩ := none
        by_contra solid
        obtain ⟨tag, told | told⟩ :=
          exists_adds_or_bars isPart (mt Text.strip_eq_nil_iff.mp solid)
        · exact List.not_mem_nil ((adds tag).mpr told)
        · exact List.not_mem_nil ((bars tag).mpr told)
      · cases refused
    · intro blank
      have noneIncluded : included = [] := by
        refine List.eq_nil_iff_forall_not_mem.mpr fun tag member => ?_
        obtain ⟨part, isPart, told⟩ := (adds tag).mp member
        rw [Text.strip_eq_nil_iff.mpr (blank part isPart)] at told
        cases told
      have noneExcluded : excluded = [] := by
        refine List.eq_nil_iff_forall_not_mem.mpr fun tag member => ?_
        obtain ⟨part, isPart, told⟩ := (bars tag).mp member
        rw [Text.strip_eq_nil_iff.mpr (blank part isPart)] at told
        cases told
      exact ⟨_, if_pos ⟨noneIncluded, noneExcluded⟩⟩

/-- A tag with a tilde and a second sign in it, negated with blank characters around, beside an
empty part and a tag that comes twice, once in a part that is not trimmed. -/
theorem parse_readsSpelledTags_tilde :
    let included : Finset Text := {"@a~@b".toList}
    let excluded : Finset Text := {"@".toList}
    let expression := " @a~@b,, ~\t@ ,@a~@b".toList
    (included ∪ excluded).Nonempty ∧ (∀ tag ∈ included ∪ excluded, IsTag tag) ∧
      Spells expression included excluded ∧
      parse expression [] = .ok ⟨["@a~@b".toList], ["@".toList], []⟩ ∧
      (∃ spec, parse expression [] = .ok spec ∧ spec.included.Lists included ∧
        spec.excluded.Lists excluded ∧ spec.featureTags = tagSet []) ∧
      parse "@a~@b,~@".toList [] = .ok ⟨["@a~@b".toList], ["@".toList], []⟩ ∧
      ∃ fault, parse " ,\t".toList [] = .error fault := by
  intro included excluded expression
  obtain ⟨reads, again, refuses⟩ := parse_readsSpelledTags
  have some : (included ∪ excluded).Nonempty := ⟨"@".toList, by simp [excluded]⟩
  have tags : ∀ tag ∈ included ∪ excluded, IsTag tag := by
    have isTag (name : Text) (trimmed : name.IsTrimmed) (unbroken : ',' ∉ '@' :: name) :
        IsTag ('@' :: name) := ⟨isNormal_of_isTrimmed trimmed, unbroken⟩
    intro tag member
    rcases Finset.mem_union.mp member with inside | inside
    · rw [Finset.mem_singleton.mp inside]
      exact isTag _ ⟨by rintro c ⟨⟩; rfl, by rintro c ⟨⟩; rfl⟩ (by decide)
    · rw [Finset.mem_singleton.mp inside]
      exact isTag _ ⟨by rintro c ⟨⟩, by rintro c ⟨⟩⟩ (by decide)
  have spells : Spells expression included excluded := by
    have parts : Text.splitAt ',' expression =
        [" @a~@b".toList, [], " ~\t@ ".toList, "@a~@b".toList] := by decide
    have names : Names "@a~@b".toList "@a~@b".toList := by unfold Names; decide
    have rulesOut : RulesOut " ~\t@ ".toList "@".toList :=
      ⟨"\t".toList, List.all_eq_true.mp rfl, by decide⟩
    have inside : "@a~@b".toList ∈ included := Finset.mem_singleton_self _
    have outside : "@".toList ∈ excluded := Finset.mem_singleton_self _
    constructor
    · rw [parts]
      intro part isPart
      simp only [List.mem_cons, List.not_mem_nil, or_false] at isPart
      rcases isPart with rfl | rfl | rfl | rfl
      · exact .inr (.inl ⟨_, inside, by unfold Names; decide⟩)
      · exact .inl rfl
      · exact .inr (.inr ⟨_, outside, rulesOut⟩)
      · exact .inr (.inl ⟨_, inside, names⟩)
    · intro tag member
      rw [Finset.mem_singleton.mp member, parts]
      exact ⟨_, by simp, names⟩
    · intro tag member
      rw [Finset.mem_singleton.mp member, parts]
      exact ⟨_, by simp, rulesOut⟩
  have blanks : ∀ part ∈ Text.splitAt ',' " ,\t".toList, part.IsBlankText := by
    have all : ((Text.splitAt ',' " ,\t".toList).all fun part => part.all isBlank) = true := rfl
    exact fun part isPart => List.all_eq_true.mp (List.all_eq_true.mp all part isPart)
  have read : parse expression [] = .ok ⟨["@a~@b".toList], ["@".toList], []⟩ := by decide
  exact ⟨some, tags, spells, read, reads included excluded some tags expression spells [],
    (again expression [] _ read).2.2.2.2, (refuses _ []).mpr blanks⟩

end TagSpec

end FeatureRunner

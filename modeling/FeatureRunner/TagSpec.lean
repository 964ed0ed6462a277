import FeatureRunner.Feature.Basic
import FeatureRunner.Text.Blank
import FeatureRunner.Text.Quoted

/-!
# Selecting scenarios by tags

A tag spec names tags to include and tags to exclude.  It keeps a scenario that carries any
included tag and no excluded one, where a scenario also carries the tags of its feature.  If
nothing is included by name, every scenario without an excluded tag is kept.

A spec is written as tags between commas, an excluded one after a tilde.
-/

namespace FeatureRunner

/-- Whether a text comes before another in the order of character numbers. -/
def Text.before (a b : Text) : Bool := decide (a < b)

/-- A set of tags, as a list in increasing order. -/
abbrev TagSet := List Text

namespace TagSet

def insert (tag : Text) : TagSet → TagSet
  | [] => [tag]
  | other :: rest =>
    if tag = other then other :: rest
    else if tag.before other then tag :: other :: rest
    else other :: insert tag rest

def ofList (tags : List Text) : TagSet := tags.foldr insert []

end TagSet

/-- Which scenarios to keep. -/
structure TagSpec where
  included : TagSet
  excluded : TagSet
  featureTags : TagSet
deriving DecidableEq, Repr

/-- A tag expression without any tag. -/
structure EmptyTagExpression where
  expression : Text
deriving DecidableEq, Repr

/-- The message about a tag expression without any tag. -/
def EmptyTagExpression.message (empty : EmptyTagExpression) : Text :=
  "Empty tag expression: ".toList ++ empty.expression.quoted

namespace TagSpec

/-- A tag without blanks around it and with its sign in front. -/
def normalize (tag : Text) : Text :=
  match Text.strip tag with
  | '@' :: name => '@' :: name
  | name => '@' :: name

/-- The spec of one trimmed part of an expression, added to a spec. -/
def addPart (spec : TagSpec) : Text → TagSpec
  | [] => spec
  | '~' :: tag => { spec with excluded := spec.excluded.insert (normalize tag) }
  | tag => { spec with included := spec.included.insert (normalize tag) }

def tagSet (tags : List Text) : TagSet := TagSet.ofList (tags.map normalize)

/-- The spec that carries the given feature tags. -/
def withFeatureTags (spec : TagSpec) (tags : List Text) : TagSpec :=
  { spec with featureTags := tagSet tags }

def parse (expression : Text) (featureTags : List Text) : Except EmptyTagExpression TagSpec :=
  let parts := (Text.splitAt ',' expression).map Text.strip
  let spec := parts.foldl addPart ⟨[], [], []⟩
  if spec.included = [] ∧ spec.excluded = [] then .error ⟨expression⟩
  else .ok (spec.withFeatureTags featureTags)

/-- Whether a scenario with the given tags is kept. -/
def keeps (spec : TagSpec) (tags : List Text) : Bool :=
  let carried := tags.map normalize ++ spec.featureTags
  !(carried.any (· ∈ spec.excluded)) &&
    (spec.included.isEmpty || carried.any (· ∈ spec.included))

def filter (spec : TagSpec) (scenarios : List Scenario) : List Scenario :=
  scenarios.filter fun scenario => spec.keeps scenario.tags

end TagSpec

end FeatureRunner

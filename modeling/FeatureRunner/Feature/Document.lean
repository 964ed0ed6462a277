import FeatureRunner.Feature.Basic
import FeatureRunner.Value.Shape

/-!
# Feature documents

A feature document is a value of a fixed shape.  The outermost fault of a value of another shape
is told with its place.
-/

namespace FeatureRunner

def stepShape : Shape :=
  .record ["verb".toList, "text".toList]
    [("verb".toList, .text true), ("text".toList, .text false), ("data".toList, .anything),
      ("line".toList, .integer)] true

def tagsShape : Shape := .list (.text false)

/-- The shape of a scenario or background in a document. -/
def scenarioShape : Shape :=
  .record ["steps".toList]
    [("name".toList, .text false), ("steps".toList, .list stepShape),
      ("data".toList, .list (.record [] [] false)), ("tags".toList, tagsShape)] true

def featureShape : Shape :=
  .record ["name".toList, "scenarios".toList]
    [("name".toList, .text false), ("tags".toList, tagsShape),
      ("background".toList, scenarioShape), ("scenarios".toList, .list scenarioShape)] true

/-- The message about a document of another shape. -/
def invalidDocumentMessage (fault : ShapeFault) : Text :=
  "Invalid feature document at ".toList ++ fault.path.toText ++ ": ".toList ++
    fault.flaw.message

def Step.ofDocument (part : Value) : Step where
  verb := ((part.field? "verb").getD .null).content
  text := ((part.field? "text").getD .null).content
  data := (part.field? "data").getD .null
  line := (part.field? "line").getD .null

/-- The tags that a part of a document carries. -/
def documentTags (part : Value) : List Text :=
  ((part.field? "tags").getD .null).items.map Value.content

/-- The name that a part of a document has, or a default. -/
def documentName (part : Value) (default : Text) : Text :=
  ((part.field? "name").map Value.content).getD default

def documentSteps (part : Value) : List Step :=
  ((part.field? "steps").getD .null).items.map Step.ofDocument

/-- The scenario that a part of a document writes. -/
def Scenario.ofDocument (part : Value) : Scenario where
  name := documentName part []
  steps := documentSteps part
  data := ((part.field? "data").getD .null).items.map Value.fields
  background := false
  tags := documentTags part

/-- The background that a part of a document writes.  It never has rows. -/
def Scenario.backgroundOfDocument (part : Value) : Scenario where
  name := documentName part "Background".toList
  steps := documentSteps part
  data := []
  background := true
  tags := documentTags part

/-- The feature that a document of the right shape writes. -/
def Feature.ofShapedDocument (document : Value) : Feature where
  name := documentName document []
  scenarios := ((document.field? "scenarios").getD .null).items.map Scenario.ofDocument
  background := (document.field? "background").map Scenario.backgroundOfDocument
  tags := documentTags document

def Feature.ofDocument (document : Value) : Except ShapeFault Feature :=
  (featureShape.check document).map fun _ => .ofShapedDocument document

end FeatureRunner

import FeatureRunner.Environment
import FeatureRunner.Feature.Document
import FeatureRunner.Json.Reader

/-!
# Feature files

A feature file holds a feature document as a JSON text.
-/

namespace FeatureRunner

/-- Why a feature file gives no feature. -/
inductive FeatureFault where
  | home (fault : HomeFault)
  | file (fault : FileFault)
  | encoding (fault : Utf8Fault)
  | malformed (path : FilePath)
  | longNumber (digits : Nat)
  | tooDeep (nest : JsonNest)
  | invalid (fault : ShapeFault)

/-- The message about a feature file that gives no feature. -/
def FeatureFault.message : FeatureFault → Text
  | home fault => fault.message
  | file fault => fault.message
  | encoding fault => fault.message
  | malformed path => "Feature file is not valid JSON: ".toList ++ path.toText
  | longNumber digits => longNumberMessage digits
  | tooDeep nest =>
    "maximum recursion depth exceeded while decoding a JSON ".toList ++
      (match nest with
        | .list => "array".toList
        | .record => "object".toList) ++ " from a unicode string".toList
  | invalid fault => invalidDocumentMessage fault

namespace Feature

/-- The feature that a text from a path writes. -/
def ofText (path : FilePath) (text : Text) : Except FeatureFault Feature :=
  match Json.read text with
  | .error .malformed => .error (.malformed path)
  | .error (.longNumber digits) => .error (.longNumber digits)
  | .error (.tooDeep nest) => .error (.tooDeep nest)
  | .ok document => (Feature.ofDocument document).mapError .invalid

def load (environment : Environment) (pathText : Text) : Except FeatureFault Feature := do
  let path ← (environment.path pathText).mapError .home
  let bytes ← (environment.read path).mapError .file
  let text ← bytes.text.mapError .encoding
  ofText path text

end Feature

end FeatureRunner

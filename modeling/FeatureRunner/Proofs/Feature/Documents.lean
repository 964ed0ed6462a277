import FeatureRunner.Feature.Document
import FeatureRunner.Proofs.Value.Shapes

/-!
# Reading feature documents

Which values are feature documents can be said in terms of their fields alone: which have to be
there, of which kind each of them is, and that there are no others.  Exactly these values are
read, all others are refused.  What is read has a form that not every feature has, and every
feature of this form is read from the document that writes its fields out.
-/

namespace FeatureRunner

def Value.IsTexts (value : Value) : Prop :=
  ∃ items, value = .list items ∧ ∀ item ∈ items, ∃ content, item = .text content

/-- The fields of a step: a verb that is not empty and a text, perhaps any data and a whole number
as the line, and nothing else. -/
structure StepFields (fields : Record) : Prop where
  verb : ∃ content, fields.get? "verb".toList = some (.text content) ∧ content ≠ []
  text : ∃ content, fields.get? "text".toList = some (.text content)
  line : ∀ line, fields.get? "line".toList = some line → line.IsWhole
  known : fields.KeysAmong ["verb".toList, "text".toList, "data".toList, "line".toList]

def Value.IsStep (value : Value) : Prop := ∃ fields, value = .record fields ∧ StepFields fields

/-- The fields of a scenario or background: steps, perhaps a name, rows and tags, and nothing
else. -/
structure ScenarioFields (fields : Record) : Prop where
  steps : ∃ steps, fields.get? "steps".toList = some (.list steps) ∧ ∀ step ∈ steps, step.IsStep
  name : ∀ name, fields.get? "name".toList = some name → ∃ content, name = .text content
  data : ∀ data, fields.get? "data".toList = some data →
    ∃ rows, data = .list rows ∧ ∀ row ∈ rows, ∃ cells, row = .record cells
  tags : ∀ tags, fields.get? "tags".toList = some tags → tags.IsTexts
  known : fields.KeysAmong ["name".toList, "steps".toList, "data".toList, "tags".toList]

def Value.IsScenario (value : Value) : Prop :=
  ∃ fields, value = .record fields ∧ ScenarioFields fields

/-- The fields of a feature: a name and scenarios, perhaps a background and tags, and nothing
else. -/
structure FeatureFields (fields : Record) : Prop where
  name : ∃ content, fields.get? "name".toList = some (.text content)
  scenarios : ∃ scenarios, fields.get? "scenarios".toList = some (.list scenarios) ∧
    ∀ scenario ∈ scenarios, scenario.IsScenario
  background : ∀ background, fields.get? "background".toList = some background →
    background.IsScenario
  tags : ∀ tags, fields.get? "tags".toList = some tags → tags.IsTexts
  known : fields.KeysAmong
    ["name".toList, "tags".toList, "background".toList, "scenarios".toList]

def Value.IsFeature (value : Value) : Prop :=
  ∃ fields, value = .record fields ∧ FeatureFields fields

section Shapes

variable {value : Value}

/-- A field that has to be there and has to be of a shape. -/
theorem exists_get?_and_iff {fields : Record} {key : Text} {holds : Value → Prop} :
    ((∃ part, fields.get? key = some part) ∧
      ∀ part, fields.get? key = some part → holds part) ↔
      ∃ part, fields.get? key = some part ∧ holds part := by
  constructor
  · rintro ⟨⟨part, has⟩, each⟩
    exact ⟨part, has, each part has⟩
  · rintro ⟨part, has, here⟩
    refine ⟨⟨part, has⟩, fun other hasOther => ?_⟩
    rw [has] at hasOther
    cases hasOther
    exact here

theorem texts_admits_iff : tagsShape.Admits value ↔ value.IsTexts := by
  rw [tagsShape, Shape.admits_list_iff]
  simp [Shape.admits_text_iff, Value.IsTexts]

theorem name_admits_iff :
    (Shape.text false).Admits value ↔ ∃ content, value = .text content := by
  simp [Shape.admits_text_iff]

theorem rows_admits_iff :
    (Shape.list (.record [] [] false)).Admits value ↔
      ∃ rows, value = .list rows ∧ ∀ row ∈ rows, ∃ cells, row = .record cells := by
  simp [Shape.admits_list_iff, Shape.admits_record_iff]

theorem stepShape_admits_iff : stepShape.Admits value ↔ value.IsStep := by
  rw [stepShape, Shape.admits_record_iff]
  refine exists_congr fun fields => and_congr_right fun _ => ?_
  simp only [List.forall_mem_cons, List.not_mem_nil, false_imp_iff, implies_true, and_true,
    forall_const, List.map_cons, List.map_nil, Shape.admits_integer_iff]
  constructor
  · rintro ⟨⟨hasVerb, hasText⟩, ⟨verbs, texts, -, lines⟩, known⟩
    obtain ⟨_, verb, admits⟩ := exists_get?_and_iff.mp ⟨hasVerb, verbs⟩
    obtain ⟨content, rfl, filled⟩ := Shape.admits_text_iff.mp admits
    obtain ⟨_, text, admits⟩ := exists_get?_and_iff.mp ⟨hasText, texts⟩
    obtain ⟨_, rfl, -⟩ := Shape.admits_text_iff.mp admits
    exact ⟨⟨content, verb, filled rfl⟩, ⟨_, text⟩, lines, known⟩
  · rintro ⟨⟨verb, isVerb, filled⟩, ⟨text, isText⟩, lines, known⟩
    obtain ⟨hasVerb, verbs⟩ := exists_get?_and_iff.mpr
      ⟨_, isVerb, Shape.admits_text_iff.mpr ⟨verb, rfl, fun _ => filled⟩⟩
    obtain ⟨hasText, texts⟩ := exists_get?_and_iff.mpr
      ⟨_, isText, name_admits_iff.mpr ⟨text, rfl⟩⟩
    exact ⟨⟨hasVerb, hasText⟩, ⟨verbs, texts, fun _ _ => .anything, lines⟩, known⟩

theorem scenarioShape_admits_iff : scenarioShape.Admits value ↔ value.IsScenario := by
  rw [scenarioShape, Shape.admits_record_iff]
  refine exists_congr fun fields => and_congr_right fun _ => ?_
  simp only [List.forall_mem_cons, List.not_mem_nil, false_imp_iff, implies_true, and_true,
    forall_const, List.map_cons, List.map_nil, texts_admits_iff, name_admits_iff,
    rows_admits_iff]
  constructor
  · rintro ⟨hasSteps, ⟨names, steps, rows, tags⟩, known⟩
    obtain ⟨_, has, admits⟩ := exists_get?_and_iff.mp ⟨hasSteps, steps⟩
    obtain ⟨items, rfl, each⟩ := Shape.admits_list_iff.mp admits
    exact ⟨⟨items, has, fun step among => stepShape_admits_iff.mp (each step among)⟩, names,
      rows, tags, known⟩
  · rintro ⟨⟨items, has, each⟩, names, rows, tags, known⟩
    obtain ⟨hasSteps, steps⟩ := exists_get?_and_iff.mpr ⟨_, has,
      Shape.Admits.list fun step among => stepShape_admits_iff.mpr (each step among)⟩
    exact ⟨hasSteps, ⟨names, steps, rows, tags⟩, known⟩

theorem featureShape_admits_iff : featureShape.Admits value ↔ value.IsFeature := by
  rw [featureShape, Shape.admits_record_iff]
  refine exists_congr fun fields => and_congr_right fun _ => ?_
  simp only [List.forall_mem_cons, List.not_mem_nil, false_imp_iff, implies_true, and_true,
    forall_const, List.map_cons, List.map_nil, texts_admits_iff, scenarioShape_admits_iff]
  constructor
  · rintro ⟨⟨hasName, hasScenarios⟩, ⟨names, tags, backgrounds, scenarios⟩, known⟩
    obtain ⟨_, name, admits⟩ := exists_get?_and_iff.mp ⟨hasName, names⟩
    obtain ⟨_, rfl⟩ := name_admits_iff.mp admits
    obtain ⟨_, has, admits⟩ := exists_get?_and_iff.mp ⟨hasScenarios, scenarios⟩
    obtain ⟨items, rfl, each⟩ := Shape.admits_list_iff.mp admits
    refine ⟨⟨_, name⟩, ⟨items, has, fun scenario among => ?_⟩, backgrounds, tags, known⟩
    exact scenarioShape_admits_iff.mp (each scenario among)
  · rintro ⟨⟨name, isName⟩, ⟨items, has, each⟩, backgrounds, tags, known⟩
    obtain ⟨hasName, names⟩ := exists_get?_and_iff.mpr
      ⟨_, isName, name_admits_iff.mpr ⟨name, rfl⟩⟩
    obtain ⟨hasScenarios, scenarios⟩ := exists_get?_and_iff.mpr ⟨_, has,
      Shape.Admits.list fun scenario among => scenarioShape_admits_iff.mpr (each scenario among)⟩
    exact ⟨⟨hasName, hasScenarios⟩, ⟨names, tags, backgrounds, scenarios⟩, known⟩

end Shapes

/-- Exactly the feature documents are read. -/
theorem Feature.ofDocument_eq_ok_iff {document : Value} {feature : Feature} :
    ofDocument document = .ok feature ↔
      document.IsFeature ∧ ofShapedDocument document = feature := by
  rw [ofDocument, ← featureShape_admits_iff, ← Shape.check_eq_ok_iff]
  cases featureShape.check document with
  | ok _ => simp [Except.map]
  | error fault => simp [Except.map]

/-- The line of a step is a whole number, if it has one. -/
def Step.LineWhole (step : Step) : Prop := step.line = .null ∨ step.line.IsWhole

namespace Feature

/-- All steps of a feature, those of the background first. -/
def allSteps (feature : Feature) : List Step :=
  (feature.background.toList ++ feature.scenarios).flatMap (·.steps)

/-- The form of features that are read: no verb is empty, no scenario is flagged as a background,
and a background is flagged and has no rows. -/
structure WellFormed (feature : Feature) : Prop where
  verbs : ∀ step ∈ feature.allSteps, step.verb ≠ []
  unflagged : ∀ scenario ∈ feature.scenarios, scenario.background = false
  flagged : ∀ background, feature.background = some background →
    background.background = true ∧ background.data = []

end Feature

section Reading

theorem Value.IsStep.read {part : Value} (isStep : part.IsStep) :
    (Step.ofDocument part).verb ≠ [] ∧ (Step.ofDocument part).LineWhole := by
  obtain ⟨fields, rfl, ⟨verb, isVerb, filled⟩, -, lines, -⟩ := isStep
  constructor
  · change ((Record.get? fields "verb".toList).getD .null).content ≠ []
    rw [isVerb]
    exact filled
  · change (Record.get? fields "line".toList).getD .null = .null ∨
      ((Record.get? fields "line".toList).getD .null).IsWhole
    cases has : Record.get? fields "line".toList with
    | none => exact .inl rfl
    | some line => exact .inr (lines line has)

theorem Value.IsScenario.read {part : Value} (isScenario : part.IsScenario) :
    ∀ step ∈ documentSteps part, step.verb ≠ [] ∧ step.LineWhole := by
  obtain ⟨fields, rfl, ⟨steps, isSteps, each⟩, -⟩ := isScenario
  have read : documentSteps (.record fields) = steps.map Step.ofDocument := by
    change ((Record.get? fields "steps".toList).getD .null).items.map Step.ofDocument = _
    rw [isSteps]
    rfl
  rw [read]
  intro step among
  obtain ⟨part, inside, rfl⟩ := List.mem_map.mp among
  exact (each part inside).read

theorem Value.IsFeature.read {document : Value} (isFeature : document.IsFeature) :
    (Feature.ofShapedDocument document).WellFormed ∧
      ∀ step ∈ (Feature.ofShapedDocument document).allSteps, step.LineWhole := by
  obtain ⟨fields, rfl, -, ⟨scenarios, isScenarios, each⟩, backgrounds, -⟩ := isFeature
  have readScenarios : (Feature.ofShapedDocument (.record fields)).scenarios =
      scenarios.map Scenario.ofDocument := by
    change ((Record.get? fields "scenarios".toList).getD .null).items.map _ = _
    rw [isScenarios]
    rfl
  have readBackground : (Feature.ofShapedDocument (.record fields)).background =
      (Record.get? fields "background".toList).map Scenario.backgroundOfDocument :=
    rfl
  have steps : ∀ step ∈ (Feature.ofShapedDocument (.record fields)).allSteps,
      step.verb ≠ [] ∧ step.LineWhole := by
    intro step among
    obtain ⟨scenario, inside, own⟩ := List.mem_flatMap.mp among
    rw [readScenarios, readBackground] at inside
    rcases List.mem_append.mp inside with ahead | listed
    · obtain ⟨part, has, rfl⟩ := Option.map_eq_some_iff.mp (Option.mem_toList.mp ahead)
      exact (backgrounds part has).read step own
    · obtain ⟨part, has, rfl⟩ := List.mem_map.mp listed
      exact (each part has).read step own
  refine ⟨⟨fun step among => (steps step among).1, ?_, ?_⟩, fun step among => (steps step among).2⟩
  · rw [readScenarios]
    intro scenario among
    obtain ⟨part, -, rfl⟩ := List.mem_map.mp among
    rfl
  · rw [readBackground]
    intro background has
    obtain ⟨part, -, rfl⟩ := Option.map_eq_some_iff.mp has
    exact ⟨rfl, rfl⟩

end Reading

/-- The document of a step: its fields, the line only if there is one. -/
def Step.document (step : Step) : Value :=
  .record ([("verb".toList, .text step.verb), ("text".toList, .text step.text),
    ("data".toList, step.data)] ++
      match step.line with
      | .null => []
      | line => [("line".toList, line)])

def Scenario.document (scenario : Scenario) : Value :=
  .record [("name".toList, .text scenario.name),
    ("steps".toList, .list (scenario.steps.map Step.document)),
    ("data".toList, .list (scenario.data.map .record)),
    ("tags".toList, .list (scenario.tags.map .text))]

/-- The document of a feature: its fields, the background only if there is one. -/
def Feature.document (feature : Feature) : Value :=
  .record ([("name".toList, .text feature.name),
    ("tags".toList, .list (feature.tags.map .text)),
    ("scenarios".toList, .list (feature.scenarios.map Scenario.document))] ++
      (feature.background.map fun background =>
        ("background".toList, background.document)).toList)

section Writing

theorem Step.ofDocument_document (step : Step) : Step.ofDocument step.document = step := by
  obtain ⟨verb, text, data, line⟩ := step
  cases line <;> rfl

theorem Scenario.documentSteps_document (scenario : Scenario) :
    documentSteps scenario.document = scenario.steps := by
  change (scenario.steps.map Step.document).map Step.ofDocument = scenario.steps
  rw [List.map_map, List.map_congr_left fun step _ => step.ofDocument_document]
  exact List.map_id _

theorem map_content_text (tags : List Text) : (tags.map Value.text).map Value.content = tags := by
  rw [List.map_map]
  exact List.map_id _

theorem map_fields_record (rows : List Record) :
    (rows.map Value.record).map Value.fields = rows := by
  rw [List.map_map]
  exact List.map_id _

/-- A scenario that is not flagged is read from its document. -/
theorem Scenario.ofDocument_document {scenario : Scenario}
    (unflagged : scenario.background = false) : ofDocument scenario.document = scenario := by
  obtain ⟨name, steps, data, background, tags⟩ := scenario
  cases unflagged
  have ownSteps := documentSteps_document ⟨name, steps, data, false, tags⟩
  have ownTags : documentTags (document ⟨name, steps, data, false, tags⟩) = tags :=
    map_content_text tags
  have ownName : documentName (document ⟨name, steps, data, false, tags⟩) [] = name :=
    rfl
  rw [ofDocument, ownSteps, ownTags, ownName]
  exact congrArg (Scenario.mk name steps · false tags) (map_fields_record data)

/-- A scenario that is flagged and has no rows is read from its document as a background. -/
theorem Scenario.backgroundOfDocument_document {scenario : Scenario}
    (flagged : scenario.background = true) (noRows : scenario.data = []) :
    backgroundOfDocument scenario.document = scenario := by
  obtain ⟨name, steps, data, background, tags⟩ := scenario
  cases flagged
  cases noRows
  have ownSteps := documentSteps_document ⟨name, steps, [], true, tags⟩
  have ownTags : documentTags (document ⟨name, steps, [], true, tags⟩) = tags :=
    map_content_text tags
  rw [backgroundOfDocument, ownSteps, ownTags]
  rfl

theorem Feature.ofShapedDocument_document {feature : Feature} (wellFormed : feature.WellFormed) :
    ofShapedDocument feature.document = feature := by
  obtain ⟨name, scenarios, background, tags⟩ := feature
  have ownScenarios : (scenarios.map Scenario.document).map Scenario.ofDocument = scenarios := by
    rw [List.map_map]
    refine (List.map_congr_left fun scenario among => ?_).trans (List.map_id _)
    exact Scenario.ofDocument_document (wellFormed.unflagged scenario among)
  cases background with
  | none =>
      change Feature.mk name ((scenarios.map Scenario.document).map Scenario.ofDocument) none
        ((tags.map Value.text).map Value.content) = _
      rw [ownScenarios, map_content_text]
  | some background =>
      obtain ⟨flagged, noRows⟩ := wellFormed.flagged background rfl
      change Feature.mk name ((scenarios.map Scenario.document).map Scenario.ofDocument)
        (some (Scenario.backgroundOfDocument background.document))
        ((tags.map Value.text).map Value.content) = _
      rw [ownScenarios, map_content_text,
        Scenario.backgroundOfDocument_document flagged noRows]

theorem Step.isStep_document {step : Step} (filled : step.verb ≠ []) (whole : step.LineWhole) :
    step.document.IsStep := by
  obtain ⟨verb, text, data, line⟩ := step
  refine ⟨_, rfl, ⟨verb, rfl, filled⟩, ⟨text, rfl⟩, ?_, ?_⟩
  · -- A line is written out only if there is one, and then it is whole.
    intro written has
    rcases whole with absent | whole
    · cases absent
      cases has
    · cases line <;> cases has <;> exact whole
  · cases line <;> simp [Record.KeysAmong, Record.keys]

theorem isTexts_map_text (tags : List Text) : (Value.list (tags.map .text)).IsTexts := by
  refine ⟨_, rfl, fun item among => ?_⟩
  obtain ⟨content, -, rfl⟩ := List.mem_map.mp among
  exact ⟨content, rfl⟩

theorem Scenario.isScenario_document {scenario : Scenario}
    (steps : ∀ step ∈ scenario.steps, step.verb ≠ [] ∧ step.LineWhole) :
    scenario.document.IsScenario := by
  refine ⟨_, rfl, ⟨_, rfl, ?_⟩, ?_, ?_, ?_, ?_⟩
  · intro part among
    obtain ⟨step, inside, rfl⟩ := List.mem_map.mp among
    obtain ⟨filled, whole⟩ := steps step inside
    exact step.isStep_document filled whole
  · rintro name ⟨⟩
    exact ⟨scenario.name, rfl⟩
  · rintro data ⟨⟩
    refine ⟨_, rfl, fun row among => ?_⟩
    obtain ⟨cells, -, rfl⟩ := List.mem_map.mp among
    exact ⟨cells, rfl⟩
  · rintro tags ⟨⟩
    exact isTexts_map_text scenario.tags
  · simp [Record.KeysAmong, Record.keys]

theorem Feature.isFeature_document {feature : Feature}
    (steps : ∀ step ∈ feature.allSteps, step.verb ≠ [] ∧ step.LineWhole) :
    feature.document.IsFeature := by
  have each : ∀ scenario ∈ feature.background.toList ++ feature.scenarios,
      scenario.document.IsScenario := by
    intro scenario among
    refine scenario.isScenario_document fun step own => ?_
    exact steps step (List.mem_flatMap.mpr ⟨scenario, among, own⟩)
  refine ⟨_, rfl, ⟨feature.name, rfl⟩, ⟨_, rfl, ?_⟩, ?_, ?_, ?_⟩
  · intro part among
    obtain ⟨scenario, inside, rfl⟩ := List.mem_map.mp among
    exact each scenario (List.mem_append_right _ inside)
  · intro part has
    cases written : feature.background with
    | none =>
        rw [written] at has
        cases has
    | some background =>
        rw [written] at has each
        cases has
        exact each background (List.mem_append_left _ (Option.mem_toList.mpr rfl))
  · rintro tags ⟨⟩
    exact isTexts_map_text feature.tags
  · cases feature.background <;> simp [Record.KeysAmong, Record.keys]

end Writing

namespace Feature

/-- Reading feature documents.  Exactly the feature documents are read, and every other value is
refused with a fault.  What is read is well formed and has whole lines; and every such feature is
read from the document that writes its fields out. -/
theorem ofDocument_faithful :
    (∀ document, (∃ feature, ofDocument document = .ok feature) ↔ document.IsFeature) ∧
    (∀ document, ¬ document.IsFeature → ∃ fault, ofDocument document = .error fault) ∧
    (∀ document feature, ofDocument document = .ok feature →
      feature.WellFormed ∧ ∀ step ∈ feature.allSteps, step.LineWhole) ∧
    (∀ feature : Feature, feature.WellFormed → (∀ step ∈ feature.allSteps, step.LineWhole) →
      ofDocument feature.document = .ok feature) := by
  have accepts (document : Value) :
      (∃ feature, ofDocument document = .ok feature) ↔ document.IsFeature := by
    simp only [ofDocument_eq_ok_iff, exists_and_left, exists_eq', and_true]
  refine ⟨accepts, ?_, ?_, ?_⟩
  · intro document other
    cases read : ofDocument document with
    | ok feature => exact absurd ((accepts document).mp ⟨feature, read⟩) other
    | error fault => exact ⟨fault, rfl⟩
  · intro document feature read
    obtain ⟨isFeature, rfl⟩ := ofDocument_eq_ok_iff.mp read
    exact isFeature.read
  · intro feature wellFormed whole
    have isFeature := isFeature_document fun step among =>
      ⟨wellFormed.verbs step among, whole step among⟩
    exact ofDocument_eq_ok_iff.mpr ⟨isFeature, ofShapedDocument_document wellFormed⟩

/-- A feature with a background, a row, and a line that is the double 2.0 is read from its document.
With a truth value for the line, its document is refused. -/
theorem ofDocument_faithful_outline :
    let step : Step := ⟨"Given".toList, "<n> birds".toList, .record [(['k'], .null)],
      .float (.finite false 4 (-1))⟩
    let background : Scenario := ⟨"Background".toList, [step], [], true, []⟩
    let outline (first : Step) : Scenario :=
      ⟨[], [first], [[(['n'], .int 3)]], false, ["@a".toList]⟩
    let feature (first : Step) : Feature := ⟨['f'], [outline first], some background, []⟩
    let flagged : Step := { step with line := .bool true }
    (feature step).WellFormed ∧ (∀ other ∈ (feature step).allSteps, other.LineWhole) ∧
      ofDocument (feature step).document = .ok (feature step) ∧
      ¬ (feature flagged).document.IsFeature ∧
      ∃ fault, ofDocument (feature flagged).document = .error fault := by
  intro step background outline feature flagged
  obtain ⟨-, refuses, -, reads⟩ := ofDocument_faithful
  have wellFormed (first : Step) (filled : first.verb ≠ []) : (feature first).WellFormed := by
    refine ⟨?_, ?_, ?_⟩
    · simp [allSteps, feature, outline, background, step, filled]
    · simp [feature, outline]
    · simp [feature, background]
  have whole : step.LineWhole :=
    .inr (.inr ⟨_, 2, rfl, Double.toInt?_eq_some_iff.mp (by decide)⟩)
  have allWhole : ∀ other ∈ (feature step).allSteps, other.LineWhole := by
    simpa [allSteps, feature, outline, background] using whole
  have other : ¬ (feature flagged).document.IsFeature := by
    intro isFeature
    have lines := isFeature.read.2
    rw [ofShapedDocument_document (wellFormed flagged (by decide))] at lines
    have line := lines flagged (by simp [allSteps, feature, outline, background])
    rcases line with absent | ⟨number, isInt⟩ | ⟨number, n, isFloat, -⟩
    · cases absent
    · cases isInt
    · cases isFloat
  exact ⟨wellFormed step (by decide), allWhole,
    reads (feature step) (wellFormed step (by decide)) allWhole, other, refuses _ other⟩

end Feature

end FeatureRunner

import FeatureRunner.Feature.Document
import FeatureRunner.Proofs.Value.Locations

/-!
# Where a document is refused

The message about a refused document names a location.  This file proves that the location can be
read in one way only, as the path to a part of the document that breaks the shape which governs it,
and that this part is an outermost one: parts at shorter paths do not break their shapes, and
neither do parts at paths of the same length that come later.
-/

namespace FeatureRunner

theorem hasClearNames_tagsShape : tagsShape.HasClearNames := .list .text

theorem hasClearNames_stepShape : stepShape.HasClearNames := by
  refine .record (fun _ => rfl) (by decide) ?_
  simp only [List.forall_mem_cons, List.not_mem_nil, false_imp_iff, implies_true, and_true]
  exact ⟨.text, .text, .anything, .integer⟩

theorem hasClearNames_scenarioShape : scenarioShape.HasClearNames := by
  refine .record (fun _ => rfl) (by decide) ?_
  simp only [List.forall_mem_cons, List.not_mem_nil, false_imp_iff, implies_true, and_true]
  refine ⟨.text, .list hasClearNames_stepShape, .list ?_, hasClearNames_tagsShape⟩
  exact .record (by simp) (by simp) (by simp)

theorem hasClearNames_featureShape : featureShape.HasClearNames := by
  refine .record (fun _ => rfl) (by decide) ?_
  simp only [List.forall_mem_cons, List.not_mem_nil, false_imp_iff, implies_true, and_true]
  exact ⟨.text, hasClearNames_tagsShape, hasClearNames_scenarioShape,
    .list hasClearNames_scenarioShape⟩

/-- A location tells one path into a value only, to a part that breaks a shape that governs it; no
part that does so is at a shorter path, and none is at a path of the same length that comes
later. -/
structure Shape.OutermostBreach (shape : Shape) (value : Value) (location : Text)
    (path : ValuePath) : Prop where
  told : path.ToldBy location
  alone : ∀ other part, value.at? other = some part → other.ToldBy location → other = path
  broken : ∃ inner part, shape.Governs path inner ∧ value.at? path = some part ∧ inner.Breaks part
  outermost : ∀ other inner part, shape.Governs other inner → value.at? other = some part →
    inner.Breaks part →
      path.length ≤ other.length ∧ (other.length = path.length → path.before other = false)

/-- What the check of a shape with clear names tells is an outermost breach. -/
theorem Shape.HasClearNames.outermostBreach {shape : Shape} (clear : shape.HasClearNames)
    {value : Value} {fault : ShapeFault} (refused : shape.check value = .error fault) :
    shape.OutermostBreach value fault.path.toText fault.path := by
  obtain ⟨⟨inner, part, governs, leads, flawed⟩, -⟩ := outermost_of_check refused
  have breaks := exists_mem_flaws_iff.mp ⟨fault.flaw, flawed⟩
  -- A part on the way to the fault is at a shorter path, so that it cannot break its shape.
  have sound : shape.SoundUpTo value fault.path := by
    intro front step rest whole between passed inside at_ broken
    refine not_outranks_of_breaks refused inside at_ broken ?_
    rw [ValuePath.outranks_iff, whole]
    exact .inl (by simp)
  refine ⟨clear.toldBy_toText governs, ?_, ⟨inner, part, governs, leads, breaks⟩, ?_⟩
  · intro other otherPart otherLeads told
    exact clear.eq_of_toldBy governs leads sound otherLeads told
  · intro other otherInner otherPart otherGoverns otherLeads otherBreaks
    have below := not_outranks_of_breaks refused otherGoverns otherLeads otherBreaks
    rw [ValuePath.outranks_iff, not_or, not_and] at below
    exact ⟨Nat.not_lt.mp below.1, fun same => Bool.eq_false_iff.mpr (below.2 same)⟩

namespace Feature

/-- Only the check of its shape refuses a document. -/
theorem check_of_ofDocument {document : Value} {fault : ShapeFault}
    (refused : ofDocument document = .error fault) :
    featureShape.check document = .error fault := by
  unfold ofDocument at refused
  cases checked : featureShape.check document with
  | ok _ =>
      rw [checked] at refused
      cases refused
  | error other =>
      rw [checked] at refused
      cases refused
      rfl

/-- The location of a refused document.  The message about it names a location that tells one path
into the document only, and the part of the document there is an outermost one among those that
break the shapes which govern their places. -/
theorem ofDocument_tellsOutermost {document : Value} {fault : ShapeFault}
    (refused : ofDocument document = .error fault) :
    ∃ location path,
      invalidDocumentMessage fault = "Invalid feature document at ".toList ++ location ++
        ": ".toList ++ fault.flaw.message ∧
      featureShape.OutermostBreach document location path :=
  ⟨_, _, rfl, hasClearNames_featureShape.outermostBreach (check_of_ofDocument refused)⟩

/-- A row that is no record, and two steps without a verb, of which the later one has a text of
another kind as well.  The places of the row and the steps are equally far in, and the last of them
is told. -/
theorem ofDocument_tellsOutermost_laterStep :
    let scenario (fields : List (String × Value)) : Value :=
      .record (fields.map fun field => (field.1.toList, field.2))
    let document := scenario [("name", .text []), ("scenarios", .list [
      scenario [("steps", .list [.record []]), ("data", .list [.null])],
      scenario [("steps", .list [scenario [("text", .null)]])]])]
    let path : ValuePath :=
      [.key "scenarios".toList, .index 1, .key "steps".toList, .index 0]
    ofDocument document = .error ⟨path, .missing "verb".toList⟩ ∧
      featureShape.OutermostBreach document "scenarios/1/steps/0".toList path := by
  intro scenario document path
  have refused : ofDocument document = .error ⟨path, .missing "verb".toList⟩ := by
    simp only [document, scenario, path]
    with_unfolding_all rfl
  obtain ⟨location, other, message, breach⟩ := ofDocument_tellsOutermost refused
  have located : location = path.toText :=
    (List.append_cancel_left (List.append_cancel_right (List.append_cancel_right message))).symm
  have written : path.toText = "scenarios/1/steps/0".toList := by decide
  rw [located, written] at breach
  obtain ⟨part, leads⟩ : ∃ part, document.at? path = some part := by
    simp only [document, scenario, path]
    exact ⟨_, by with_unfolding_all rfl⟩
  have told : path.ToldBy "scenarios/1/steps/0".toList := by
    rw [ValuePath.ToldBy, if_neg (by decide)]
    exact ⟨List.cons_ne_nil _ _, by decide⟩
  obtain rfl := breach.alone path part leads told
  exact ⟨refused, breach⟩

end Feature

end FeatureRunner

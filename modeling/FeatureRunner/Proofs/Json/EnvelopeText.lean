import FeatureRunner.Envelope
import FeatureRunner.Proofs.Json.Nesting

/-!
# The texts of envelopes

Envelopes have the same text exactly if they are equal as JSON values.  The text ends in a line
feed.  Where there is room to write all lists and records of an envelope, there is room to read its
text, and it is read back as an envelope equal to the written one.
-/

namespace FeatureRunner

namespace Json

variable {value other : Value} {room : Nat}

theorem finds_text (plain : value.IsPlain) (room : Nat) :
    Finds (readValue (2 * (Envelope.text value).length + 2) room (Envelope.text value))
      (arranged? room value) ['\n'] := by
  refine (readAs_writeAt plain room 0).finds _ ['\n'] (fun c last => ?_) (Nat.le_add_right _ 2)
  obtain rfl : '\n' = c := Option.some_inj.mp last
  exact .inr rfl

theorem skipSpaces_text (plain : value.IsPlain) :
    skipSpaces (Envelope.text value) = Envelope.text value :=
  skipSpaces_of_begins ((readAs_writeAt plain 0 0).begins.append ['\n'])

/-- With enough room, the text of a value is read back with the fields in order, and otherwise it is
refused. -/
theorem readWithin_text (plain : value.IsPlain) (room : Nat) :
    match arranged? room value with
    | some back => readWithin room (Envelope.text value) = .ok back
    | none => ∃ nest, readWithin room (Envelope.text value) = .error (.tooDeep nest) := by
  have finds := finds_text plain room
  rw [readWithin, skipSpaces_text plain]
  generalize readValue _ room (Envelope.text value) = found at finds
  generalize arranged? room value = expected at finds
  cases finds with
  | value => rfl
  | tooDeep nest => exact ⟨nest, rfl⟩

theorem readWithin_text_of_fits (plain : value.IsPlain) (fits : value.nesting ≤ room) :
    readWithin room (Envelope.text value) = .ok (arranged value) := by
  have back := readWithin_text plain room
  rw [arranged?, if_pos fits] at back
  exact back

theorem text_eq_iff (plain : value.IsPlain) (otherPlain : other.IsPlain) :
    Envelope.text value = Envelope.text other ↔ SameJson value other := by
  rw [sameJson_iff plain otherPlain]
  constructor
  · -- Any text is read back by a reader with enough room.
    intro same
    let room := max value.nesting other.nesting
    have back : readWithin room (Envelope.text value) = .ok (arranged value) :=
      readWithin_text_of_fits plain (Nat.le_max_left _ _)
    have otherBack : readWithin room (Envelope.text other) = .ok (arranged other) :=
      readWithin_text_of_fits otherPlain (Nat.le_max_right _ _)
    rw [same, otherBack] at back
    exact (Except.ok.inj back).symm
  · intro same
    rw [Envelope.text, Envelope.text, write, write, ← writeAt_arranged plain,
      ← writeAt_arranged otherPlain, same]

end Json

namespace Envelope

open Json

variable {command data version : Value}

theorem isPlain_orNoFields (plain : data.IsPlain) : (orNoFields data).IsPlain := by
  unfold orNoFields
  split
  · exact plain
  · exact .record List.nodup_nil (List.forall_mem_nil _)

theorem isPlain_ok (plainCommand : command.IsPlain) (plainData : data.IsPlain)
    (plainVersion : version.IsPlain) : (ok command data version).IsPlain := by
  have distinct :
      ["ok".toList, "schema_version".toList, "command".toList, "data".toList].Nodup := by decide
  refine .record distinct ?_
  simp only [List.forall_mem_cons]
  exact ⟨.bool true, plainVersion, plainCommand, isPlain_orNoFields plainData,
    List.forall_mem_nil _⟩

/-- The text of an envelope is canonical, and nothing is lost in it: whatever there is room to write
is read back with the same room. -/
theorem text_canonical {envelope other : Value} (plain : envelope.IsPlain)
    (otherPlain : other.IsPlain) :
    (text envelope = text other ↔ SameJson envelope other) ∧
      (text envelope).getLast? = some '\n' ∧
      ∀ room, envelope.nesting ≤ room → textWithin room envelope = some (text envelope) ∧
        ∃ back, Json.readWithin room (text envelope) = .ok back ∧ SameJson envelope back := by
  refine ⟨text_eq_iff plain otherPlain, List.getLast?_concat, fun room fits => ⟨if_pos fits, ?_⟩⟩
  exact ⟨arranged envelope, readWithin_text_of_fits plain fits, sameJson_arranged plain⟩

/-- Two envelopes that differ in the order of their fields have one text, which is read back. -/
theorem text_canonical_reordered :
    let count : Text × Value := ("count".toList, .int (-10))
    let names : Text × Value := ("names".toList, .list [.text ['"', '\n'], .null])
    let first := ok (.text "run".toList) (.record [count, names]) currentVersion
    let second := ok (.text "run".toList) (.record [names, count]) currentVersion
    text first = text second ∧ first ≠ second ∧
      ∃ back, Json.read (text first) = .ok back ∧ SameJson first back := by
  intro count names first second
  have plainCount : count.2.IsPlain := .int (isWritable_iff.mpr (by decide))
  have plainNames : names.2.IsPlain := by
    refine .list ?_
    simp only [List.forall_mem_cons]
    exact ⟨.text _, .null, List.forall_mem_nil _⟩
  have plainFirst : first.IsPlain := by
    refine isPlain_ok (.text _) (.record (by decide) ?_) (.text _)
    simp only [List.forall_mem_cons]
    exact ⟨plainCount, plainNames, List.forall_mem_nil _⟩
  have plainSecond : second.IsPlain := by
    refine isPlain_ok (.text _) (.record (by decide) ?_) (.text _)
    simp only [List.forall_mem_cons]
    exact ⟨plainNames, plainCount, List.forall_mem_nil _⟩
  have same : SameJson first second := (sameJson_iff plainFirst plainSecond).mpr rfl
  obtain ⟨sameText, -, canonical⟩ := text_canonical plainFirst plainSecond
  refine ⟨sameText.mpr same, ?_, (canonical nestingLimit (by decide)).2⟩
  intro equal
  simp [first, second, ok, orNoFields, Value.isTruthy, count, names] at equal

end Envelope

end FeatureRunner

import FeatureRunner.Proofs.Template.Expansion
import Mathlib.Data.List.Forall2

/-!
# The grammar of templates

Which tokens a template has is said here by a grammar, one token after the other from the left: a
backslash takes the character after it, an opening bracket takes a name that is not empty up to the
first closing bracket, and a character that does neither stands for itself.  Every text has exactly
one reading, and expanding goes by it: the values of the names are put in their places, and the
first name that is not filled decides about a failure.  If all values that a row has for names can
be shown, this is the first name without a value.
-/

namespace FeatureRunner.Template

/-- Whether a character ahead of a rest stands for itself: a backslash at the very end, an opening
bracket that is closed at once or never, or any other character. -/
def IsPlain (c : Char) (rest : Text) : Prop :=
  (c = '\\' → rest = []) ∧ (c = '<' → rest.head? = some '>' ∨ '>' ∉ rest)

/-- The readings of a text, from left to right. -/
inductive ReadAs : Text → List TemplateToken → Prop where
  | nil : ReadAs [] []
  | escaped {c : Char} {rest : Text} {later : List TemplateToken} (read : ReadAs rest later) :
      ReadAs ('\\' :: c :: rest) (.escaped c :: later)
  | placeholder {name rest : Text} {later : List TemplateToken} (filled : name ≠ [])
      (unclosed : '>' ∉ name) (read : ReadAs rest later) :
      ReadAs ('<' :: (name ++ '>' :: rest)) (.placeholder name :: later)
  | plain {c : Char} {rest : Text} {later : List TemplateToken} (itself : IsPlain c rest)
      (read : ReadAs rest later) :
      ReadAs (c :: rest) (.plain c :: later)

theorem untilClosing?_append {name : Text} (unclosed : '>' ∉ name) (rest : Text) :
    untilClosing? (name ++ '>' :: rest) = some (name, rest) := by
  induction name with
  | nil => rfl
  | cons c name ih =>
      obtain ⟨other, unclosed⟩ := List.ne_and_not_mem_of_not_mem_cons unclosed
      rw [List.cons_append, untilClosing?, if_neg (Ne.symm other), ih unclosed]
      rfl

theorem untilClosing?_eq_none {text : Text} (unclosed : '>' ∉ text) :
    untilClosing? text = none := by
  cases found : untilClosing? text with
  | none => rfl
  | some parts =>
      have shape := (untilClosing?_eq_some found).1
      exact absurd (shape ▸ by simp) unclosed

theorem name?_append {name : Text} (filled : name ≠ []) (unclosed : '>' ∉ name) (rest : Text) :
    name? (name ++ '>' :: rest) = some (name, rest) := by
  rw [name?, untilClosing?_append unclosed]
  cases name with
  | nil => exact absurd rfl filled
  | cons c name => rfl

/-- Nothing is a name exactly if a closing bracket comes at once or never. -/
theorem name?_eq_none_iff {text : Text} :
    name? text = none ↔ text.head? = some '>' ∨ '>' ∉ text := by
  constructor
  · intro unnamed
    by_cases closed : '>' ∈ text
    · -- What comes before the first closing bracket is a name, unless nothing does.
      obtain ⟨name, rest, rfl, unclosed⟩ := List.eq_append_cons_of_mem closed
      cases name with
      | nil => exact .inl rfl
      | cons c name =>
          rw [name?_append (List.cons_ne_nil c name) unclosed] at unnamed
          cases unnamed
    · exact .inr closed
  · rintro (closing | unclosed)
    · obtain ⟨rest, rfl⟩ := List.head?_eq_some_iff.mp closing
      rfl
    · rw [name?, untilClosing?_eq_none unclosed]

theorem tokens_lone_backslash : tokens ['\\'] = [.plain '\\'] := by
  rw [tokens] <;> simp [tokens]

theorem tokens_placeholder {name rest after : Text} (named : name? rest = some (name, after)) :
    tokens ('<' :: rest) = .placeholder name :: tokens after := by
  rw [tokens]
  · rw [if_pos rfl]
    split
    · next found =>
      rw [named] at found
      cases found
      rfl
    · next unnamed =>
      rw [named] at unnamed
      cases unnamed
  · simp

theorem tokens_unclosed {rest : Text} (unnamed : name? rest = none) :
    tokens ('<' :: rest) = .plain '<' :: tokens rest := by
  rw [tokens]
  · rw [if_pos rfl]
    split
    · next found =>
      rw [unnamed] at found
      cases found
    · rfl
  · simp

theorem tokens_of_isPlain {c : Char} {rest : Text} (itself : IsPlain c rest) :
    tokens (c :: rest) = .plain c :: tokens rest := by
  by_cases escape : c = '\\'
  · subst escape
    obtain rfl := itself.1 rfl
    rw [tokens_lone_backslash, tokens]
  · by_cases opening : c = '<'
    · subst opening
      exact tokens_unclosed (name?_eq_none_iff.mpr (itself.2 rfl))
    · exact tokens_plain escape opening rest

theorem readAs_tokens (text : Text) : ReadAs text (tokens text) := by
  fun_induction tokens text with
  | case1 => exact .nil
  | case2 c rest ih => exact .escaped ih
  | case3 rest name after found noEscape ih =>
      obtain ⟨rfl, unclosed, filled⟩ := name?_eq_some found
      exact .placeholder filled unclosed ih
  | case4 rest unnamed noEscape ih =>
      exact .plain ⟨by simp, fun _ => name?_eq_none_iff.mp unnamed⟩ ih
  | case5 c rest noEscape noOpening ih =>
      refine .plain ⟨fun escape => ?_, fun opening => absurd opening noOpening⟩ ih
      cases rest with
      | nil => rfl
      | cons d rest => exact absurd rfl (noEscape d rest escape)

/-- The tokens of a text are its only reading. -/
theorem readAs_iff {text : Text} {reading : List TemplateToken} :
    ReadAs text reading ↔ reading = tokens text := by
  constructor
  · intro read
    induction read with
    | nil => rw [tokens]
    | escaped _ ih => rw [tokens_escaped, ih]
    | placeholder filled unclosed _ ih =>
        rw [tokens_placeholder (name?_append filled unclosed _), ih]
    | plain itself _ ih => rw [tokens_of_isPlain itself, ih]
  · rintro rfl
    exact readAs_tokens text

/-- The names of placeholders, in their order. -/
def placeholders (reading : List TemplateToken) : List Text :=
  reading.filterMap fun
    | .placeholder name => some name
    | _ => none

/-- Whether a token stands for a text: for its character, or for the text under its name. -/
def Stands (row : Record) : TemplateToken → Text → Prop
  | .escaped c, part => part = [c]
  | .plain c, part => part = [c]
  | .placeholder name, part => shownUnder row name = .ok part

/-- Whether the values that a row has under some names can be shown. -/
def CanShow (row : Record) (names : List Text) : Prop :=
  ∀ name ∈ names, ∀ value, row.get? name = some value → ∃ text, value.shown = .ok text

theorem shownUnder_eq_missing_iff {row : Record} {name : Text} :
    shownUnder row name = .error .missing ↔ row.has name = false := by
  unfold shownUnder Record.has
  cases row.get? name with
  | none => simp
  | some value => cases shows : value.shown <;> simp [shows, Except.mapError]

/-- A value that can be shown fills its name. -/
theorem exists_shownUnder {row : Record} {names : List Text} {name : Text}
    (canShow : CanShow row names) (among : name ∈ names) (present : row.has name = true) :
    ∃ part, shownUnder row name = .ok part := by
  obtain ⟨value, found⟩ := Option.isSome_iff_exists.mp present
  obtain ⟨part, shows⟩ := canShow name among value found
  exact ⟨part, by simp [shownUnder, found, shows, Except.mapError]⟩

theorem expandToken_eq_ok_iff {row : Record} {token : TemplateToken} {part : Text} :
    expandToken row token = .ok part ↔ Stands row token part := by
  cases token with
  | escaped c | plain c => simp [expandToken, Stands, eq_comm]
  | placeholder name =>
      rw [expandToken, Stands]
      cases shownUnder row name <;> simp [Except.mapError]

/-- Tokens are expanded to the texts that they stand for, one after the other. -/
theorem expandTokens_eq_ok_iff {row : Record} {reading : List TemplateToken} {expanded : Text} :
    expandTokens row reading = .ok expanded ↔
      ∃ parts, List.Forall₂ (Stands row) reading parts ∧ expanded = parts.flatten := by
  induction reading generalizing expanded with
  | nil => simp [expandTokens, eq_comm]
  | cons token rest ih =>
      rw [expandTokens_cons_eq_ok]
      constructor
      · rintro ⟨first, others, firstExpanded, othersExpanded, rfl⟩
        obtain ⟨parts, stand, rfl⟩ := ih.mp othersExpanded
        exact ⟨first :: parts, .cons (expandToken_eq_ok_iff.mp firstExpanded) stand, rfl⟩
      · rintro ⟨parts, stand, rfl⟩
        cases stand with
        | cons first others =>
            exact ⟨_, _, expandToken_eq_ok_iff.mpr first, ih.mpr ⟨_, others, rfl⟩, rfl⟩

/-- A name is the first in its order that a row does not fill, for the given reason. -/
def FirstUnfilled (row : Record) (names : List Text) (name : Text) (flaw : PlaceholderFlaw) :
    Prop :=
  ∃ before after, names = before ++ name :: after ∧
    (∀ earlier ∈ before, ∃ part, shownUnder row earlier = .ok part) ∧
    shownUnder row name = .error flaw

/-- A name is the first in its order that a row has no value for. -/
def FirstMissing (row : Record) (names : List Text) (name : Text) : Prop :=
  ∃ before after, names = before ++ name :: after ∧
    (∀ earlier ∈ before, row.has earlier = true) ∧ row.has name = false

theorem not_firstUnfilled_nil {row : Record} {name : Text} {flaw : PlaceholderFlaw} :
    ¬ FirstUnfilled row [] name flaw := by
  rintro ⟨before, after, order, -⟩
  cases before <;> cases order

theorem firstUnfilled_cons_of_error {row : Record} {names : List Text} {first name : Text}
    {own flaw : PlaceholderFlaw} (failing : shownUnder row first = .error own) :
    FirstUnfilled row (first :: names) name flaw ↔ first = name ∧ own = flaw := by
  constructor
  · rintro ⟨before, after, order, filled, unfilled⟩
    cases before with
    | nil =>
        cases order
        rw [failing] at unfilled
        exact ⟨rfl, Except.error.inj unfilled⟩
    | cons earlier before =>
        cases order
        obtain ⟨part, shows⟩ := filled first (List.mem_cons_self ..)
        rw [failing] at shows
        cases shows
  · rintro ⟨rfl, rfl⟩
    exact ⟨[], names, rfl, by simp, failing⟩

theorem firstUnfilled_cons_of_ok {row : Record} {names : List Text} {first name part : Text}
    {flaw : PlaceholderFlaw} (shows : shownUnder row first = .ok part) :
    FirstUnfilled row (first :: names) name flaw ↔ FirstUnfilled row names name flaw := by
  constructor
  · rintro ⟨before, after, order, filled, unfilled⟩
    cases before with
    | nil =>
        cases order
        rw [shows] at unfilled
        cases unfilled
    | cons earlier before =>
        injection order with _ order
        exact ⟨before, after, order, (List.forall_mem_cons.mp filled).2, unfilled⟩
  · rintro ⟨before, after, rfl, filled, unfilled⟩
    exact ⟨first :: before, after, rfl, List.forall_mem_cons.mpr ⟨⟨part, shows⟩, filled⟩, unfilled⟩

theorem FirstUnfilled.mem {row : Record} {names : List Text} {name : Text}
    {flaw : PlaceholderFlaw} (unfilled : FirstUnfilled row names name flaw) : name ∈ names := by
  obtain ⟨before, after, rfl, -⟩ := unfilled
  simp

/-- If all values under names can be shown, the first name that is not filled is the first without
a value. -/
theorem firstUnfilled_missing_iff {row : Record} {names : List Text} {name : Text}
    (canShow : CanShow row names) :
    FirstUnfilled row names name .missing ↔ FirstMissing row names name := by
  constructor
  · rintro ⟨before, after, order, filled, unfilled⟩
    refine ⟨before, after, order, fun earlier among => ?_, shownUnder_eq_missing_iff.mp unfilled⟩
    obtain ⟨part, shows⟩ := filled earlier among
    by_contra absent
    rw [Bool.not_eq_true, ← shownUnder_eq_missing_iff, shows] at absent
    cases absent
  · rintro ⟨before, after, order, present, absent⟩
    refine ⟨before, after, order, fun earlier among => ?_, shownUnder_eq_missing_iff.mpr absent⟩
    exact exists_shownUnder canShow (by simp [order, among]) (present earlier among)

/-- Where tokens cannot be expanded, it is for the first name that is not filled. -/
theorem expandTokens_eq_error_iff {row : Record} {reading : List TemplateToken} {name : Text}
    {flaw : PlaceholderFlaw} :
    expandTokens row reading = .error (name, flaw) ↔
      FirstUnfilled row (placeholders reading) name flaw := by
  induction reading with
  | nil => exact iff_of_false (fun fails => nomatch fails) not_firstUnfilled_nil
  | cons token rest ih =>
      cases token with
      | escaped c | plain c =>
          change _ ↔ FirstUnfilled row (placeholders rest) name flaw
          rw [← ih, expandTokens, expandToken]
          cases expandTokens row rest <;> simp
      | placeholder first =>
          change _ ↔ FirstUnfilled row (first :: placeholders rest) name flaw
          rw [expandTokens, expandToken]
          cases shows : shownUnder row first with
          | error own =>
              rw [firstUnfilled_cons_of_error shows]
              simp [Except.mapError]
          | ok part =>
              rw [firstUnfilled_cons_of_ok shows, ← ih]
              cases expandTokens row rest <;> simp [Except.mapError]

/-- Where tokens stand for texts, every name is filled. -/
theorem exists_shownUnder_of_stand {row : Record} {reading : List TemplateToken}
    {parts : List Text} (stand : List.Forall₂ (Stands row) reading parts) :
    ∀ name ∈ placeholders reading, ∃ part, shownUnder row name = .ok part := by
  induction stand with
  | nil => simp [placeholders]
  | @cons token part rest parts first _ ih =>
      cases token with
      | escaped c | plain c => exact ih
      | placeholder name => exact List.forall_mem_cons.mpr ⟨⟨part, first⟩, ih⟩

/-- Expanding looks at nothing but what the row shows under the names. -/
theorem expandTokens_congr {row other : Record} {reading : List TemplateToken}
    (same : ∀ name ∈ placeholders reading, shownUnder row name = shownUnder other name) :
    expandTokens row reading = expandTokens other reading := by
  induction reading with
  | nil => rfl
  | cons token rest ih =>
      cases token with
      | escaped c | plain c =>
          rw [expandTokens, expandTokens, ih same]
          rfl
      | placeholder name =>
          obtain ⟨own, others⟩ := List.forall_mem_cons.mp same
          rw [expandTokens, expandTokens, expandToken, expandToken, own, ih others]

theorem expand_eq_error_iff {text : Text} {row : Record} {unfilled : UnfilledPlaceholder} :
    expand text row = .error unfilled ↔
      unfilled.text = text ∧
        FirstUnfilled row (placeholders (tokens text)) unfilled.placeholder unfilled.flaw := by
  rw [← expandTokens_eq_error_iff]
  obtain ⟨name, whole, flaw⟩ := unfilled
  unfold expand
  rcases expandTokens row (tokens text) with ⟨other, otherFlaw⟩ | expanded
  · simp only [Except.error.injEq, UnfilledPlaceholder.mk.injEq, Prod.mk.injEq]
    tauto
  · simp

/-- Expanding fails for the first name that is not filled. -/
theorem expand_of_firstUnfilled {text name : Text} {row : Record} {flaw : PlaceholderFlaw}
    (unfilled : FirstUnfilled row (placeholders (tokens text)) name flaw) :
    expand text row = .error ⟨name, text, flaw⟩ :=
  expand_eq_error_iff.mpr ⟨rfl, unfilled⟩

/-- What expanding a text comes to by one of its readings. -/
structure ExpandsBy (text : Text) (row : Record) (reading : List TemplateToken) : Prop where
  fills : CanShow row (placeholders reading) →
    (∀ name ∈ placeholders reading, row.has name = true) →
      ∃ parts, List.Forall₂ (Stands row) reading parts ∧ expand text row = .ok parts.flatten
  misses : CanShow row (placeholders reading) →
    (∃ name ∈ placeholders reading, row.has name = false) →
      ∃ name, FirstMissing row (placeholders reading) name ∧
        expand text row = .error ⟨name, text, .missing⟩
  stops : (∃ name ∈ placeholders reading, ∃ flaw, shownUnder row name = .error flaw) →
    ∃ name flaw, FirstUnfilled row (placeholders reading) name flaw ∧
      expand text row = .error ⟨name, text, flaw⟩

theorem expandsBy_tokens (text : Text) (row : Record) : ExpandsBy text row (tokens text) := by
  have stops : (∃ name ∈ placeholders (tokens text), ∃ flaw, shownUnder row name = .error flaw) →
      ∃ name flaw, FirstUnfilled row (placeholders (tokens text)) name flaw ∧
        expand text row = .error ⟨name, text, flaw⟩ := by
    rintro ⟨name, among, flaw, unfilled⟩
    cases expanded : expandTokens row (tokens text) with
    | error fault =>
        have first := expandTokens_eq_error_iff.mp expanded
        exact ⟨fault.1, fault.2, first, expand_of_firstUnfilled first⟩
    | ok whole =>
        obtain ⟨parts, stand, -⟩ := expandTokens_eq_ok_iff.mp expanded
        obtain ⟨part, filled⟩ := exists_shownUnder_of_stand stand name among
        rw [unfilled] at filled
        cases filled
  refine ⟨fun canShow present => ?_, fun canShow missing => ?_, stops⟩
  · cases expanded : expandTokens row (tokens text) with
    | ok whole =>
        obtain ⟨parts, stand, rfl⟩ := expandTokens_eq_ok_iff.mp expanded
        exact ⟨parts, stand, by rw [expand, expanded]⟩
    | error fault =>
        have unfilled := expandTokens_eq_error_iff.mp expanded
        obtain ⟨part, filled⟩ :=
          exists_shownUnder canShow unfilled.mem (present _ unfilled.mem)
        obtain ⟨-, -, -, -, failing⟩ := unfilled
        rw [filled] at failing
        cases failing
  · obtain ⟨other, among, absent⟩ := missing
    obtain ⟨name, flaw, unfilled, fails⟩ :=
      stops ⟨other, among, .missing, shownUnder_eq_missing_iff.mpr absent⟩
    -- The first name that is not filled has no value, because a value could be shown.
    have flawless : flaw = .missing := by
      obtain ⟨-, -, -, -, failing⟩ := id unfilled
      cases present : row.has name with
      | false =>
          rw [shownUnder_eq_missing_iff.mpr present] at failing
          cases failing
          rfl
      | true =>
          obtain ⟨part, filled⟩ := exists_shownUnder canShow unfilled.mem present
          rw [filled] at failing
          cases failing
    subst flawless
    exact ⟨name, (firstUnfilled_missing_iff canShow).mp unfilled, fails⟩

/-- Expanding follows the grammar.  Every text has exactly one reading.  If all values that a row
has for names in it can be shown, the text is expanded to what its tokens stand for, one after the
other, unless there is a name without a value; then the failure tells the first one, and the whole
text.  Otherwise the first name that is not filled decides.  Rows that show the same under the names
of the reading, whatever else they hold, expand the text in the same way. -/
theorem expand_followsGrammar (text : Text) :
    ∃ reading, (∀ other, ReadAs text other ↔ other = reading) ∧
      ∀ row, ExpandsBy text row reading ∧
        ∀ other,
          (∀ name ∈ placeholders reading, shownUnder row name = shownUnder other name) →
            expand text row = expand text other := by
  refine ⟨tokens text, fun _ => readAs_iff, fun row => ⟨expandsBy_tokens text row, ?_⟩⟩
  intro other same
  rw [expand, expand, expandTokens_congr same]

end FeatureRunner.Template

import FeatureRunner.Proofs.Template.Composition

/-!
# Templates that stand for themselves

A text in which every character is a token of its own is expanded to itself.  These are exactly the
texts without markup: nowhere in them is there a backslash with a character after it, or a name
between brackets.  Markup anywhere shows, although the reading from the left may take it apart,
because whatever takes a part of it is markup too.  The empty row cannot fill a name, and makes a
text shorter by its escapes.
-/

namespace FeatureRunner

/-- Whether the token is an escaped character. -/
def TemplateToken.isEscape : TemplateToken → Bool
  | escaped _ => true
  | placeholder _ => false
  | plain _ => false

namespace Template

/-- Whether there is markup anywhere in a text, at the beginning of a token or not. -/
def HasMarkup (text : Text) : Prop :=
  (∃ c, ['\\', c] <:+: text) ∨
    ∃ name, name ≠ [] ∧ '>' ∉ name ∧ '<' :: (name ++ ['>']) <:+: text

/-- How many tokens of a reading are escapes. -/
def escapes (reading : List TemplateToken) : Nat := reading.countP TemplateToken.isEscape

theorem escapes_cons (token : TemplateToken) (rest : List TemplateToken) :
    escapes (token :: rest) = escapes rest + if token.isEscape then 1 else 0 :=
  List.countP_cons

theorem exists_escape_prefix_iff {c : Char} {rest : Text} :
    (∃ d, ['\\', d] <+: c :: rest) ↔ c = '\\' ∧ rest ≠ [] := by
  simp only [List.cons_prefix_cons]
  constructor
  · rintro ⟨d, rfl, tail, rfl⟩
    exact ⟨rfl, List.cons_ne_nil _ _⟩
  · rintro ⟨rfl, filled⟩
    obtain ⟨d, tail, rfl⟩ := List.exists_cons_of_ne_nil filled
    exact ⟨d, rfl, tail, rfl⟩

theorem exists_placeholder_prefix_iff {c : Char} {rest : Text} :
    (∃ name, name ≠ [] ∧ '>' ∉ name ∧ '<' :: (name ++ ['>']) <+: c :: rest) ↔
      c = '<' ∧ ¬ (rest.head? = some '>' ∨ '>' ∉ rest) := by
  rw [← name?_eq_none_iff]
  simp only [List.cons_prefix_cons]
  constructor
  · rintro ⟨name, filled, unclosed, rfl, tail, rfl⟩
    refine ⟨rfl, fun unnamed => ?_⟩
    rw [List.append_assoc, List.singleton_append, name?_append filled unclosed] at unnamed
    cases unnamed
  · rintro ⟨rfl, named⟩
    obtain ⟨⟨name, after⟩, found⟩ := Option.ne_none_iff_exists'.mp named
    obtain ⟨rfl, unclosed, filled⟩ := name?_eq_some found
    exact ⟨name, filled, unclosed, rfl, after, by simp⟩

/-- Markup is at the first character exactly if this character does not stand for itself. -/
theorem hasMarkup_cons_iff {c : Char} {rest : Text} :
    HasMarkup (c :: rest) ↔ ¬ IsPlain c rest ∨ HasMarkup rest := by
  have split : HasMarkup (c :: rest) ↔
      ((∃ d, ['\\', d] <+: c :: rest) ∨
        ∃ name, name ≠ [] ∧ '>' ∉ name ∧ '<' :: (name ++ ['>']) <+: c :: rest) ∨
      HasMarkup rest := by
    simp only [HasMarkup, List.infix_cons_iff, exists_or, and_or_left, or_or_or_comm]
  rw [split, exists_escape_prefix_iff, exists_placeholder_prefix_iff, IsPlain, not_and_or,
    Classical.not_imp, Classical.not_imp]

/-- A text is read character by character exactly if there is no markup in it. -/
theorem readAs_plain_iff {text : Text} :
    ReadAs text (text.map .plain) ↔ ¬ HasMarkup text := by
  induction text with
  | nil =>
      refine ⟨fun _ => ?_, fun _ => .nil⟩
      simp [HasMarkup]
  | cons c rest ih =>
      rw [hasMarkup_cons_iff, not_or, not_not, ← ih, List.map_cons]
      constructor
      · rintro (_ | _ | _ | ⟨itself, read⟩)
        exact ⟨itself, read⟩
      · exact fun ⟨itself, read⟩ => .plain itself read

theorem expandTokens_plain (row : Record) (text : Text) :
    expandTokens row (text.map .plain) = .ok text := by
  induction text with
  | nil => rfl
  | cons c rest ih => exact expandTokens_cons_eq_ok.mpr ⟨[c], rest, rfl, ih, rfl⟩

/-- What the empty row fills is shorter than its source by the escapes. -/
theorem length_sourceOf {reading : List TemplateToken} {expanded : Text}
    (filled : expandTokens [] reading = .ok expanded) :
    (sourceOf reading).length = expanded.length + escapes reading := by
  induction reading generalizing expanded with
  | nil =>
      cases filled
      rfl
  | cons token rest ih =>
      obtain ⟨first, others, own, later, rfl⟩ := expandTokens_cons_eq_ok.mp filled
      rw [sourceOf_cons, List.length_append, List.length_append, ih later, escapes_cons]
      cases token with
      | placeholder name => cases own
      | escaped c | plain c =>
          cases own
          simp only [TemplateToken.source, TemplateToken.isEscape, List.length_cons,
            List.length_nil, if_true, Bool.false_eq_true, if_false]
          omega

theorem sourceOf_plain (text : Text) : sourceOf (text.map .plain) = text := by
  induction text with
  | nil => rfl
  | cons c rest ih => exact congrArg (c :: ·) ih

/-- What the empty row fills without an escape is read character by character. -/
theorem eq_map_plain_of_escapes {reading : List TemplateToken} {expanded : Text}
    (filled : expandTokens [] reading = .ok expanded) (unescaped : escapes reading = 0) :
    reading = expanded.map .plain := by
  induction reading generalizing expanded with
  | nil =>
      cases filled
      rfl
  | cons token rest ih =>
      obtain ⟨first, others, own, later, rfl⟩ := expandTokens_cons_eq_ok.mp filled
      rw [escapes_cons, Nat.add_eq_zero_iff] at unescaped
      rw [ih later unescaped.1]
      cases token with
      | placeholder name => cases own
      | escaped c => cases unescaped.2
      | plain c =>
          cases own
          rfl

/-- A text without escapes that the empty row fills has no markup. -/
theorem not_hasMarkup_of_escapes {text expanded : Text}
    (filled : expandTokens [] (tokens text) = .ok expanded)
    (unescaped : escapes (tokens text) = 0) :
    ¬ HasMarkup text := by
  have reading : tokens text = expanded.map .plain := eq_map_plain_of_escapes filled unescaped
  have same : text = expanded := by
    rw [← sourceOf_tokens text, reading, sourceOf_plain]
  rw [← readAs_plain_iff, readAs_iff, reading, same]

/-- Without markup a text stands for itself, whatever the row. -/
theorem expand_of_not_hasMarkup {text : Text} (free : ¬ HasMarkup text) (row : Record) :
    expand text row = .ok text := by
  rw [expand_eq_ok, ← readAs_iff.mp (readAs_plain_iff.mpr free)]
  exact expandTokens_plain row text

theorem not_hasMarkup_of_unchanged {text : Text} (same : expand text [] = .ok text) :
    ¬ HasMarkup text := by
  rw [expand_eq_ok] at same
  have length := length_sourceOf same
  rw [sourceOf_tokens] at length
  exact not_hasMarkup_of_escapes same (by omega)

/-- Exactly the texts without markup are unchanged.  The empty row expands a text to itself exactly
if all rows do, and exactly if there is no markup anywhere in the text.  Any other text cannot be
filled by the empty row, or gets shorter by the number of its escapes, of which there is one at
least. -/
theorem unchanged_iff_not_hasMarkup (text : Text) :
    (expand text [] = .ok text ↔ ∀ row, expand text row = .ok text) ∧
    (expand text [] = .ok text ↔ ¬ HasMarkup text) ∧
    (HasMarkup text → (∃ unresolved, expand text [] = .error unresolved) ∨
      ∃ shorter, expand text [] = .ok shorter ∧ shorter.length < text.length ∧
        text.length = shorter.length + escapes (tokens text)) := by
  refine ⟨?_, ⟨not_hasMarkup_of_unchanged, fun free => expand_of_not_hasMarkup free []⟩, ?_⟩
  · constructor
    · exact fun same => expand_of_not_hasMarkup (not_hasMarkup_of_unchanged same)
    · exact fun same => same []
  · intro marked
    cases expanded : expand text [] with
    | error unresolved => exact .inl ⟨unresolved, rfl⟩
    | ok shorter =>
        rw [expand_eq_ok] at expanded
        have length := length_sourceOf expanded
        rw [sourceOf_tokens] at length
        have escaped : escapes (tokens text) ≠ 0 := fun unescaped =>
          not_hasMarkup_of_escapes expanded unescaped marked
        exact .inr ⟨shorter, rfl, by omega, length⟩

end Template

end FeatureRunner

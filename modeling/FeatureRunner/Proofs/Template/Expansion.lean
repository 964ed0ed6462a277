import FeatureRunner.Template

/-!
# What templates expand to

A text that the empty row can fill has no placeholders, so every row fills it in the same way.  An
escaped text has no placeholders either, and stands for the text that was escaped.
-/

namespace FeatureRunner.Template

theorem expandToken_of_empty {token : TemplateToken} {expanded : Text}
    (filled : expandToken [] token = .ok expanded) (row : Record) :
    expandToken row token = .ok expanded := by
  cases token with
  | escaped c => exact filled
  | plain c => exact filled
  | placeholder name => cases filled

theorem expandTokens_cons_eq_ok {row : Record} {token : TemplateToken}
    {rest : List TemplateToken} {expanded : Text} :
    expandTokens row (token :: rest) = .ok expanded ↔
      ∃ first others, expandToken row token = .ok first ∧
        expandTokens row rest = .ok others ∧ expanded = first ++ others := by
  rw [expandTokens]
  cases expandToken row token with
  | error name => simp
  | ok first =>
      cases expandTokens row rest with
      | error name => simp
      | ok others => simp [eq_comm]

theorem expandTokens_of_empty {tokens : List TemplateToken} {expanded : Text}
    (filled : expandTokens [] tokens = .ok expanded) (row : Record) :
    expandTokens row tokens = .ok expanded := by
  induction tokens generalizing expanded with
  | nil => exact filled
  | cons token rest ih =>
      obtain ⟨first, others, firstFilled, othersFilled, rfl⟩ :=
        expandTokens_cons_eq_ok.mp filled
      exact expandTokens_cons_eq_ok.mpr
        ⟨first, others, expandToken_of_empty firstFilled row, ih othersFilled, rfl⟩

theorem expand_eq_ok {text expanded : Text} {row : Record} :
    expand text row = .ok expanded ↔ expandTokens row (tokens text) = .ok expanded := by
  unfold expand
  cases expandTokens row (tokens text) <;> simp

/-- What the empty row fills, every row fills in the same way. -/
theorem expand_of_empty {text expanded : Text} (filled : expand text [] = .ok expanded)
    (row : Record) : expand text row = .ok expanded :=
  expand_eq_ok.mpr (expandTokens_of_empty (expand_eq_ok.mp filled) row)

theorem tokens_escaped (c : Char) (rest : Text) :
    tokens ('\\' :: c :: rest) = .escaped c :: tokens rest := by
  rw [tokens]

theorem tokens_plain {c : Char} (noEscape : c ≠ '\\') (noOpening : c ≠ '<') (rest : Text) :
    tokens (c :: rest) = .plain c :: tokens rest := by
  rw [tokens]
  · rw [if_neg noOpening]
  · intro _ _ same
    exact absurd same noEscape

/-- An escaped text stands for the text that was escaped, whatever the row. -/
theorem expand_escape (text : Text) (row : Record) : expand (escape text) row = .ok text := by
  rw [expand_eq_ok]
  induction text with
  | nil =>
      rw [escape, tokens]
      rfl
  | cons c rest ih =>
      rw [escape]
      split
      · rw [tokens_escaped]
        exact expandTokens_cons_eq_ok.mpr ⟨[c], rest, rfl, ih, rfl⟩
      · next ordinary =>
        rw [not_or] at ordinary
        rw [tokens_plain ordinary.1 ordinary.2]
        exact expandTokens_cons_eq_ok.mpr ⟨[c], rest, rfl, ih, rfl⟩

end FeatureRunner.Template

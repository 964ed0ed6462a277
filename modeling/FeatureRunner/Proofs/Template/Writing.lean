import FeatureRunner.Proofs.Template.Composition

/-!
# Writing templates

Whatever texts and names are to be shown one after the other, there is a template for it: the texts
are escaped, and each name is put between brackets.  No piece can be read together with the piece
after it, because the reading of every piece is closed.
-/

namespace FeatureRunner

/-- A piece of what a template is to show: a text, or what a row has under a name. -/
inductive TemplatePiece where
  | text (content : Text)
  | valueOf (name : Text) (filled : name ≠ []) (unclosed : '>' ∉ name)

namespace TemplatePiece

open Template

/-- The template for a piece. -/
def written : TemplatePiece → Text
  | text content => escape content
  | valueOf name _ _ => '<' :: (name ++ ['>'])

/-- The template for pieces, one after the other. -/
def template (pieces : List TemplatePiece) : Text := pieces.flatMap written

/-- The names among pieces, in their order. -/
def names (pieces : List TemplatePiece) : List Text :=
  pieces.filterMap fun
    | text _ => none
    | valueOf name _ _ => some name

/-- Whether a piece shows a text for a row. -/
def Shows (row : Record) : TemplatePiece → Text → Prop
  | text content, part => part = content
  | valueOf name _ _, part => shownUnder row name = .ok part

@[simp]
theorem names_text (content : Text) (rest : List TemplatePiece) :
    names (text content :: rest) = names rest :=
  rfl

@[simp]
theorem names_valueOf {name : Text} (filled : name ≠ []) (unclosed : '>' ∉ name)
    (rest : List TemplatePiece) :
    names (valueOf name filled unclosed :: rest) = name :: names rest :=
  rfl

@[simp]
theorem template_cons (piece : TemplatePiece) (rest : List TemplatePiece) :
    template (piece :: rest) = piece.written ++ template rest :=
  List.flatMap_cons

end TemplatePiece

namespace Template

open TemplatePiece

/-- The tokens of an escaped text are its characters, the special ones after a backslash. -/
theorem readAs_escape (content : Text) :
    ReadAs (escape content)
      (content.map fun c => if c = '\\' ∨ c = '<' then .escaped c else .plain c) := by
  induction content with
  | nil => exact .nil
  | cons c rest ih =>
      rw [escape, List.map_cons]
      split
      · exact .escaped ih
      · next ordinary =>
        rw [not_or] at ordinary
        exact .plain ⟨fun same => absurd same ordinary.1, fun same => absurd same ordinary.2⟩ ih

theorem tokens_name {name : Text} (filled : name ≠ []) (unclosed : '>' ∉ name) :
    tokens ('<' :: (name ++ ['>'])) = [.placeholder name] := by
  rw [tokens_placeholder (name?_append filled unclosed []), tokens]

/-- The reading of a piece is closed: its special characters are all escaped, or it is a single
name. -/
theorem isClosed_written (piece : TemplatePiece) : IsClosed (tokens piece.written) := by
  cases piece with
  | text content =>
      have notSpecial (c : Char) (special : c = '\\' ∨ c = '<') :
          .plain c ∉ content.map fun d =>
            if d = '\\' ∨ d = '<' then TemplateToken.escaped d else .plain d := by
        intro among
        obtain ⟨d, -, same⟩ := List.mem_map.mp among
        split at same
        · cases same
        · next ordinary =>
          cases same
          exact ordinary special
      rw [written, ← readAs_iff.mp (readAs_escape content)]
      exact isClosed_of_not_mem (notSpecial _ (.inl rfl)) (notSpecial _ (.inr rfl))
  | valueOf name filled unclosed =>
      rw [written, tokens_name filled unclosed]
      exact isClosed_of_not_mem (by simp) (by simp)

theorem tokens_template_cons (piece : TemplatePiece) (rest : List TemplatePiece) :
    tokens (template (piece :: rest)) = tokens piece.written ++ tokens (template rest) := by
  rw [template_cons, tokens_append (isClosed_written piece)]

theorem placeholders_append (reading others : List TemplateToken) :
    placeholders (reading ++ others) = placeholders reading ++ placeholders others :=
  List.filterMap_append

/-- An escaped text has no placeholders. -/
theorem placeholders_tokens_escape (content : Text) :
    placeholders (tokens (escape content)) = [] := by
  rw [← readAs_iff.mp (readAs_escape content), placeholders, List.filterMap_eq_nil_iff]
  intro token among
  obtain ⟨c, -, rfl⟩ := List.mem_map.mp among
  by_cases special : c = '\\' ∨ c = '<' <;> simp [special]

/-- The placeholders of a template are the names it was written for. -/
theorem placeholders_tokens_template (pieces : List TemplatePiece) :
    placeholders (tokens (template pieces)) = names pieces := by
  induction pieces with
  | nil => rw [template, List.flatMap_nil, tokens]; rfl
  | cons piece rest ih =>
      rw [tokens_template_cons, placeholders_append, ih]
      cases piece with
      | text content =>
          rw [written, placeholders_tokens_escape, names_text, List.nil_append]
      | valueOf name filled unclosed =>
          rw [written, tokens_name filled unclosed, names_valueOf]
          rfl

/-- A piece is expanded to what it shows. -/
theorem expandTokens_written {row : Record} {piece : TemplatePiece} {part : Text}
    (shows : piece.Shows row part) : expandTokens row (tokens piece.written) = .ok part := by
  cases piece with
  | text content =>
      rw [show part = content from shows]
      exact expand_eq_ok.mp (expand_escape content row)
  | valueOf name filled unclosed =>
      rw [written, tokens_name filled unclosed, expandTokens_cons_eq_ok]
      exact ⟨part, [], expandToken_eq_ok_iff.mpr shows, rfl, (List.append_nil part).symm⟩

/-- If a row fills all names, every piece shows a text, and the template is expanded to these
texts. -/
theorem exists_shown {row : Record} {pieces : List TemplatePiece}
    (filled : ∀ name ∈ names pieces, ∃ part, shownUnder row name = .ok part) :
    ∃ parts, List.Forall₂ (Shows row) pieces parts ∧
      expandTokens row (tokens (template pieces)) = .ok parts.flatten := by
  induction pieces with
  | nil => exact ⟨[], .nil, by rw [template, List.flatMap_nil, tokens]; rfl⟩
  | cons piece rest ih =>
      have own : (∀ name ∈ names rest, ∃ part, shownUnder row name = .ok part) ∧
          ∃ part, piece.Shows row part := by
        cases piece with
        | text content =>
            rw [names_text] at filled
            exact ⟨filled, content, rfl⟩
        | valueOf name notEmpty unclosed =>
            rw [names_valueOf, List.forall_mem_cons] at filled
            exact filled.symm
      obtain ⟨later, part, shows⟩ := own
      obtain ⟨parts, shown, expanded⟩ := ih later
      refine ⟨part :: parts, .cons shows shown, ?_⟩
      rw [tokens_template_cons, expandTokens_append, expandTokens_written shows, expanded]
      rfl

/-- Every template can be written as step text.  For all pieces and every row that can show all
values it has for the names among them: if there is a value for every name, the template for the
pieces is expanded to what they show, one after the other; otherwise the failure tells the first
name without a value.  If some value cannot be shown, the first name that is not filled decides.  An
escaped text stands for the text itself, whatever the row. -/
theorem expand_template (pieces : List TemplatePiece) (row : Record) :
    (CanShow row (names pieces) →
      ((∀ name ∈ names pieces, row.has name = true) →
        ∃ parts, List.Forall₂ (Shows row) pieces parts ∧
          expand (template pieces) row = .ok parts.flatten) ∧
      ((∃ name ∈ names pieces, row.has name = false) →
        ∃ name, FirstMissing row (names pieces) name ∧
          expand (template pieces) row = .error ⟨name, template pieces, .missing⟩)) ∧
    ((∃ name ∈ names pieces, ∃ flaw, shownUnder row name = .error flaw) →
      ∃ name flaw, FirstUnfilled row (names pieces) name flaw ∧
        expand (template pieces) row = .error ⟨name, template pieces, flaw⟩) ∧
    ∀ content, expand (escape content) row = .ok content := by
  have expands := expandsBy_tokens (template pieces) row
  have sameNames := placeholders_tokens_template pieces
  refine ⟨fun canShow => ⟨fun present => ?_, fun missing => ?_⟩, fun unfilled => ?_,
    fun content => expand_escape content row⟩
  · obtain ⟨parts, shown, expanded⟩ := exists_shown fun name among =>
      exists_shownUnder canShow among (present name among)
    exact ⟨parts, shown, expand_eq_ok.mpr expanded⟩
  · have misses := expands.misses
    rw [sameNames] at misses
    exact misses canShow missing
  · have stops := expands.stops
    rw [sameNames] at stops
    exact stops unfilled

end Template

end FeatureRunner

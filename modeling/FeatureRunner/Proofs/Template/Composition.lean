import FeatureRunner.Proofs.Template.Grammar

/-!
# Putting templates together

The tokens of two texts in a row are those of the first and then those of the second, unless a
token that begins in the first text could go on in the second.  Only two things can go on: a
backslash at the end, which would take the next character, and an opening bracket that stands for
itself because no closing bracket comes, which would find one.  A reading in which neither is left
is closed, and expanding is compositional after it.
-/

namespace FeatureRunner

/-- The text that a token is read from. -/
def TemplateToken.source : TemplateToken → Text
  | escaped c => ['\\', c]
  | placeholder name => '<' :: (name ++ ['>'])
  | plain c => [c]

namespace Template

/-- The text that tokens are read from. -/
def sourceOf (reading : List TemplateToken) : Text := reading.flatMap TemplateToken.source

@[simp]
theorem sourceOf_cons (token : TemplateToken) (later : List TemplateToken) :
    sourceOf (token :: later) = token.source ++ sourceOf later :=
  List.flatMap_cons

/-- A text is all that its tokens are read from. -/
theorem ReadAs.sourceOf_eq {text : Text} {reading : List TemplateToken}
    (read : ReadAs text reading) : sourceOf reading = text := by
  induction read with
  | nil => rfl
  | escaped _ ih => rw [sourceOf_cons, ih]; rfl
  | placeholder _ _ _ ih =>
      rw [sourceOf_cons, ih, TemplateToken.source, List.cons_append, List.append_assoc]
      rfl
  | plain _ _ ih => rw [sourceOf_cons, ih]; rfl

@[simp]
theorem sourceOf_tokens (text : Text) : sourceOf (tokens text) = text :=
  (readAs_tokens text).sourceOf_eq

/-- A reading is closed if it does not end in a lone backslash, and every opening bracket that
stands for itself is directly followed by a closing one. -/
structure IsClosed (reading : List TemplateToken) : Prop where
  noBackslash : reading.getLast? ≠ some (.plain '\\')
  closedAtOnce : ∀ before after, reading = before ++ .plain '<' :: after →
    (sourceOf after).head? = some '>'

/-- A reading is closed if no backslash and no opening bracket stands for itself. -/
theorem isClosed_of_not_mem {reading : List TemplateToken}
    (noBackslash : .plain '\\' ∉ reading) (noOpening : .plain '<' ∉ reading) :
    IsClosed reading where
  noBackslash last := noBackslash (List.mem_of_getLast? last)
  closedAtOnce before after shape := absurd (by simp [shape]) noOpening

theorem IsClosed.tail {token : TemplateToken} {later : List TemplateToken}
    (closed : IsClosed (token :: later)) : IsClosed later where
  noBackslash last := by
    apply closed.noBackslash
    rw [List.getLast?_cons, last]
    rfl
  closedAtOnce before after shape :=
    closed.closedAtOnce (token :: before) after (by rw [shape, List.cons_append])

/-- A character ahead of the rest of a closed reading stands for itself whatever follows. -/
theorem IsPlain.append {c : Char} {rest : Text} {later : List TemplateToken}
    (itself : IsPlain c rest) (read : ReadAs rest later) (closed : IsClosed (.plain c :: later))
    (more : Text) : IsPlain c (rest ++ more) := by
  constructor
  · rintro rfl
    -- A backslash that stands for itself is the last token.
    obtain rfl := itself.1 rfl
    cases read
    exact absurd rfl closed.noBackslash
  · rintro rfl
    have closing := closed.closedAtOnce [] later rfl
    rw [read.sourceOf_eq] at closing
    obtain ⟨tail, rfl⟩ := List.head?_eq_some_iff.mp closing
    exact .inl rfl

/-- After a text with a closed reading, any text is read as it would be alone. -/
theorem ReadAs.append {text more : Text} {reading others : List TemplateToken}
    (read : ReadAs text reading) (closed : IsClosed reading) (back : ReadAs more others) :
    ReadAs (text ++ more) (reading ++ others) := by
  induction read with
  | nil => exact back
  | escaped _ ih => exact .escaped (ih closed.tail)
  | @placeholder name rest later filled unclosed _ ih =>
      rw [List.cons_append, List.append_assoc]
      exact .placeholder filled unclosed (ih closed.tail)
  | plain itself rest ih => exact .plain (itself.append rest closed more) (ih closed.tail)

theorem tokens_append {text : Text} (closed : IsClosed (tokens text)) (more : Text) :
    tokens (text ++ more) = tokens text ++ tokens more :=
  (readAs_iff.mp ((readAs_tokens text).append closed (readAs_tokens more))).symm

/-- Tokens are expanded to what the first of them stand for and then the others, up to the first
name that is not filled. -/
theorem expandTokens_append (row : Record) (reading others : List TemplateToken) :
    expandTokens row (reading ++ others) =
      (expandTokens row reading).bind fun whole =>
        (expandTokens row others).map (whole ++ ·) := by
  induction reading with
  | nil =>
      rw [List.nil_append]
      cases expandTokens row others <;> rfl
  | cons token rest ih =>
      rw [List.cons_append, expandTokens, expandTokens, ih]
      cases expandToken row token with
      | error name => rfl
      | ok first =>
          cases expandTokens row rest with
          | error name => rfl
          | ok whole =>
              cases expandTokens row others with
              | error name => rfl
              | ok last => simp [Except.bind, Except.map]

theorem expand_eq_mapError (text : Text) (row : Record) :
    expand text row =
      (expandTokens row (tokens text)).mapError fun fault => ⟨fault.1, text, fault.2⟩ := by
  unfold expand
  cases expandTokens row (tokens text) <;> rfl

/-- Expanding is compositional at the ends of tokens.  If the reading of a text is closed, the text
and another one after it can be expanded exactly if each of them can, to what they are expanded to
one after the other; otherwise the failure tells the name that it tells for the first text, or for
the second if the first can be expanded, and the same reason. -/
theorem expand_append {text : Text} (closed : IsClosed (tokens text)) (more : Text)
    (row : Record) :
    ((∃ expanded, expand (text ++ more) row = .ok expanded) ↔
      (∃ first, expand text row = .ok first) ∧ ∃ second, expand more row = .ok second) ∧
    (∀ first second, expand text row = .ok first → expand more row = .ok second →
      expand (text ++ more) row = .ok (first ++ second)) ∧
    (∀ unfilled, expand text row = .error unfilled →
      expand (text ++ more) row =
        .error ⟨unfilled.placeholder, text ++ more, unfilled.flaw⟩) ∧
    ∀ first unfilled, expand text row = .ok first → expand more row = .error unfilled →
      expand (text ++ more) row =
        .error ⟨unfilled.placeholder, text ++ more, unfilled.flaw⟩ := by
  have whole : expand (text ++ more) row =
      ((expandTokens row (tokens text)).bind fun first =>
        (expandTokens row (tokens more)).map (first ++ ·)).mapError
          fun fault => ⟨fault.1, text ++ more, fault.2⟩ := by
    rw [expand_eq_mapError, tokens_append closed, expandTokens_append]
  rw [whole, expand_eq_mapError text, expand_eq_mapError more]
  cases expandTokens row (tokens text) with
  | error fault => simp [Except.bind, Except.mapError]
  | ok first =>
      cases expandTokens row (tokens more) with
      | error fault => simp [Except.bind, Except.map, Except.mapError]
      | ok second => simp [Except.bind, Except.map, Except.mapError]

/-- A pair of brackets with nothing between them is closed, so that a name after it is looked for
as it would be alone. -/
theorem expand_append_emptyBrackets :
    IsClosed (tokens "\\<<>".toList) ∧
      expand ("\\<<>".toList ++ "n>".toList) [] = .ok "<<>n>".toList ∧
      expand ("\\<<>".toList ++ "<n>".toList) [] =
        .error ⟨"n".toList, "\\<<><n>".toList, .missing⟩ := by
  have read : ReadAs "\\<<>".toList [.escaped '<', .plain '<', .plain '>'] :=
    .escaped (.plain ⟨by decide, fun _ => .inl rfl⟩ (.plain ⟨by decide, by decide⟩ .nil))
  have closed : IsClosed (tokens "\\<<>".toList) := by
    rw [← readAs_iff.mp read]
    refine ⟨by decide, fun before after shape => ?_⟩
    rcases before with _ | ⟨first, _ | ⟨second, _ | ⟨third, others⟩⟩⟩ <;> simp at shape
    obtain ⟨-, rfl⟩ := shape
    rfl
  have expanded : expand "\\<<>".toList [] = .ok "<<>".toList := by
    rw [expand, ← readAs_iff.mp read]
    rfl
  have ordinary : ReadAs "n>".toList [.plain 'n', .plain '>'] :=
    .plain ⟨by decide, by decide⟩ (.plain ⟨by decide, by decide⟩ .nil)
  have named : ReadAs "<n>".toList [.placeholder "n".toList] :=
    @ReadAs.placeholder ['n'] [] [] (by decide) (by decide) .nil
  refine ⟨closed, ?_, ?_⟩
  · refine (expand_append closed "n>".toList []).2.1 _ _ expanded ?_
    rw [expand, ← readAs_iff.mp ordinary]
    rfl
  · refine (expand_append closed "<n>".toList []).2.2.2 _
      ⟨"n".toList, "<n>".toList, .missing⟩ expanded ?_
    rw [expand, ← readAs_iff.mp named]
    rfl

end Template

end FeatureRunner

import FeatureRunner.Value.Display

/-!
# Step text templates

The text of a step may refer to the columns of an outline row by placeholders.  Read from left
to right, a template is a list of tokens: a backslash and the character after it stand for that
character, a name between angle brackets is a placeholder, and every other character stands for
itself.  A name is not empty and extends to the first closing bracket.

Expanding a template puts the values of a row in place of the placeholders.  The values are not
read again, so a value that looks like a placeholder stays as it is.  Expanding ends at the first
placeholder that is not filled: the row has no value for it, or a value that cannot be shown.
-/

namespace FeatureRunner

/-- A token of a template. -/
inductive TemplateToken where
  | escaped (c : Char)
  | placeholder (name : Text)
  | plain (c : Char)
deriving DecidableEq, Repr

/-- Why a placeholder is not filled. -/
inductive PlaceholderFlaw where
  | missing
  | unshown (flaw : ShowFlaw)
deriving DecidableEq, Repr

/-- A placeholder that is not filled, the text it stands in, and why it is not filled.  If the row
has no value for it, it is unresolved. -/
structure UnfilledPlaceholder where
  placeholder : Text
  text : Text
  flaw : PlaceholderFlaw
deriving DecidableEq, Repr

/-- The message about a placeholder that is not filled. -/
def UnfilledPlaceholder.message (unfilled : UnfilledPlaceholder) : Text :=
  match unfilled.flaw with
  | .missing =>
    "No mapping to placeholder <".toList ++ unfilled.placeholder ++ "> in: ".toList ++
      unfilled.text
  | .unshown flaw => flaw.message

namespace Template

/-- The text up to the first closing bracket, and the text after it. -/
def untilClosing? : Text → Option (Text × Text)
  | [] => none
  | c :: rest =>
    if c = '>' then some ([], rest)
    else (untilClosing? rest).map fun found => (c :: found.1, found.2)

/-- The placeholder name at the beginning of a text that follows an opening bracket, and the
text after its closing bracket. -/
def name? (text : Text) : Option (Text × Text) :=
  match untilClosing? text with
  | some ([], _) => none
  | found => found

theorem untilClosing?_eq_some {text name after : Text}
    (found : untilClosing? text = some (name, after)) :
    text = name ++ '>' :: after ∧ '>' ∉ name := by
  induction text generalizing name with
  | nil => simp [untilClosing?] at found
  | cons c rest ih =>
    unfold untilClosing? at found
    split at found
    · next closing =>
      simp only [Option.some.injEq, Prod.mk.injEq] at found
      obtain ⟨rfl, rfl⟩ := found
      simp [closing]
    · next open_ =>
      rw [Option.map_eq_some_iff] at found
      obtain ⟨⟨inner, tail⟩, innerFound, same⟩ := found
      simp only [Prod.mk.injEq] at same
      obtain ⟨rfl, rfl⟩ := same
      obtain ⟨shape, absent⟩ := ih innerFound
      refine ⟨by simp [shape], ?_⟩
      simp only [List.mem_cons, not_or]
      exact ⟨fun same => open_ same.symm, absent⟩

theorem name?_eq_some {text name after : Text} (found : name? text = some (name, after)) :
    text = name ++ '>' :: after ∧ '>' ∉ name ∧ name ≠ [] := by
  unfold name? at found
  split at found
  · simp at found
  · next notEmpty =>
    obtain ⟨shape, absent⟩ := untilClosing?_eq_some found
    refine ⟨shape, absent, ?_⟩
    rintro rfl
    exact notEmpty _ found

/-- The text after a placeholder name is shorter than the text that begins with it. -/
theorem name?_length {text name after : Text} (found : name? text = some (name, after)) :
    after.length < text.length := by
  rw [(name?_eq_some found).1, List.length_append, List.length_cons]
  omega

def tokens : Text → List TemplateToken
  | [] => []
  | '\\' :: c :: rest => .escaped c :: tokens rest
  | c :: rest =>
    if c = '<' then
      match _found : name? rest with
      | some (name, after) =>
        .placeholder name :: tokens after
      | none => .plain c :: tokens rest
    else .plain c :: tokens rest
termination_by text => text.length
decreasing_by
  · exact Nat.lt_succ_of_lt (Nat.lt_succ_self _)
  · exact Nat.lt_succ_of_lt (name?_length _found)
  · exact Nat.lt_succ_self _
  · exact Nat.lt_succ_self _

/-- The text that a row shows under a name. -/
def shownUnder (row : Record) (name : Text) : Except PlaceholderFlaw Text :=
  match row.get? name with
  | none => .error .missing
  | some value => value.shown.mapError .unshown

/-- The text that a token stands for, or the name that is not filled. -/
def expandToken (row : Record) : TemplateToken → Except (Text × PlaceholderFlaw) Text
  | .escaped c => .ok [c]
  | .plain c => .ok [c]
  | .placeholder name => (shownUnder row name).mapError (name, ·)

/-- The text that a list of tokens stands for, or the first name that is not filled. -/
def expandTokens (row : Record) : List TemplateToken → Except (Text × PlaceholderFlaw) Text
  | [] => .ok []
  | token :: rest =>
    match expandToken row token with
    | .error fault => .error fault
    | .ok first =>
      match expandTokens row rest with
      | .error fault => .error fault
      | .ok others => .ok (first ++ others)

/-- The text of a template with the values of a row in place of its placeholders. -/
def expand (text : Text) (row : Record) : Except UnfilledPlaceholder Text :=
  match expandTokens row (tokens text) with
  | .ok expanded => .ok expanded
  | .error (name, flaw) => .error ⟨name, text, flaw⟩

/-- A text written as a template that stands for it. -/
def escape : Text → Text
  | [] => []
  | c :: rest => if c = '\\' ∨ c = '<' then '\\' :: c :: escape rest else c :: escape rest

end Template

end FeatureRunner

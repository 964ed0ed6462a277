import FeatureRunner.Toml.Reader

/-!
# Reading TOML documents

A document is read statement by statement.  A statement writes a key, opens a table, or begins
the next item of a list of tables.  Keys are written into the table that was opened last.  Some
tables are closed to later statements: values that were written out are frozen with all that is
inside them, and a table that was opened, or made by the points of a key, is not opened again.
-/

namespace FeatureRunner

namespace Toml

/-- A document that is being read: its content, the table that was opened last, the keys of the
tables that may not be opened again, those that will join them at the next opening, and the keys
of the values that are frozen. -/
structure Draft where
  content : Record
  header : Key
  closed : List Key
  closing : List Key
  frozen : List Key

namespace Draft

def empty : Draft := ⟨[], [], [], [], []⟩

/-- The draft in which the keys that were waiting are closed. -/
def settle (draft : Draft) : Draft :=
  { draft with closed := draft.closing ++ draft.closed, closing := [] }

def openTable (draft : Draft) (key : Key) : Option Draft :=
  if key ∈ draft.closed ∨ beginsWithAny draft.frozen key then none
  else (changeTable true some key draft.content).map fun content =>
    { draft with content := content, header := key, closed := key :: draft.closed }

/-- Adds an empty table to the list under a key of a table. -/
def appendItem (part : Text) (table : Record) : Option Record :=
  match table.get? part with
  | none => some (table.put part (.list [.record []]))
  | some (.list items) => some (table.put part (.list (items ++ [.record []])))
  | some _ => none

/-- Begins the next item of a list of tables.  Everything below its key is open again. -/
def openItem (draft : Draft) (key : Key) : Option Draft :=
  if beginsWithAny draft.frozen key then none
  else
    (changeTable true (appendItem (key.getLastD [])) key.dropLast draft.content).map
      fun content =>
        { draft with
          content := content
          header := key
          closed := key :: draft.closed.filter fun other => !key.isPrefixOf other
          frozen := draft.frozen.filter fun other => !key.isPrefixOf other }

/-- The keys of the tables that the points of a key pass through. -/
def passed (header key : Key) : List Key :=
  (List.range (key.length - 1)).map fun i => header ++ key.take (i + 1)

/-- Writes a key into the table that was opened last. -/
def write (draft : Draft) (key : Key) (value : Value) : Option Draft :=
  let through := passed draft.header key
  let parent := draft.header ++ key.dropLast
  if through.any (· ∈ draft.closed) ∨ beginsWithAny draft.frozen parent then none
  else
    (changeTable true (putNew (key.getLastD []) value) parent draft.content).map fun content =>
      { draft with
        content := content
        closing := through ++ draft.closing
        frozen := if value.isContainer then (draft.header ++ key) :: draft.frozen
          else draft.frozen }

end Draft

def readEntry (draft : Draft) (text : Text) : Except TomlFault (Draft × Text) := do
  let (key, rest) ← orMalformed (readKey (text.length + 1) text)
  let rest ← orMalformed (expect '=' rest)
  let rest := skipBlanks rest
  let (value, rest) ← readValue (2 * rest.length + 2) 0 rest
  let draft ← orMalformed (draft.write key value)
  return (draft, rest)

/-- A statement that opens a table or a list item, after its first bracket. -/
def readHeader (draft : Draft) (text : Text) : Except TomlFault (Draft × Text) := do
  let draft := draft.settle
  match text with
  | '[' :: rest => do
    let (key, rest) ← orMalformed (readKey (rest.length + 1) (skipBlanks rest))
    let draft ← orMalformed (draft.openItem key)
    let rest ← orMalformed (expect ']' rest)
    let rest ← orMalformed (expect ']' rest)
    return (draft, rest)
  | _ => do
    let (key, rest) ← orMalformed (readKey (text.length + 1) (skipBlanks text))
    let draft ← orMalformed (draft.openTable key)
    let rest ← orMalformed (expect ']' rest)
    return (draft, rest)

def beginsKey (c : Char) : Bool := isBareKeyChar c || c = '"' || c = '\''

/-- The statements of a text, one for each line with one. -/
def readStatements : (fuel : Nat) → Draft → Text → Except TomlFault Draft
  | 0, _, _ => .error .malformed
  | fuel + 1, draft, text =>
    match skipBlanks text with
    | [] => .ok draft
    | '\n' :: rest => readStatements fuel draft rest
    | c :: rest => do
      let (draft, rest) ←
        if beginsKey c then readEntry draft (c :: rest)
        else if c = '[' then readHeader draft rest
        else if c = '#' then (.ok (draft, c :: rest) : Except TomlFault (Draft × Text))
        else .error .malformed
      match ← orMalformed (skipComment (skipBlanks rest)) with
      | [] => return draft
      | '\n' :: rest => readStatements fuel draft rest
      | _ => .error .malformed

def read (text : Text) : Except TomlFault Record :=
  (readStatements (text.length + 1) .empty text).map Draft.content

end Toml

end FeatureRunner

import FeatureRunner.Toml.Lexeme
import FeatureRunner.Toml.Moment

/-!
# Reading TOML values

Numbers, lists, inline tables and everything else that may stand to the right of an equals sign.
Inside an inline table a key may open further tables by its points, but it may not go on with a
table or list that is already written out.  Values are taken up to a depth of nesting.  Every step
of the descent uses up fuel, of which a text gets a multiple of its length.
-/

namespace FeatureRunner

/-- Why a text of settings is not read. -/
inductive TomlFault where
  | malformed
  | longNumber (digits : Nat)
  | tooDeep
deriving DecidableEq, Repr

namespace Toml

/-- The depth at which no further list or inline table may be opened, in calls.  The interpreter
takes a thousand calls inside one another; this is what is left of them for the values of a settings
file, if loading the file was called with nine calls open. -/
def nestingLimit : Nat := 984

/-- How much deeper the items of a list are: reading them takes two calls. -/
def listDepth : Nat := 2

/-- How much deeper the fields of an inline table are: reading them takes three calls. -/
def tableDepth : Nat := 3

def orMalformed {α : Type} : Option α → Except TomlFault α
  | some found => .ok found
  | none => .error .malformed

/-- The digits at the beginning of a text, where single underscores may stand between them. -/
def readGrouped (base : Nat) : Text → Text × Text
  | c :: '_' :: d :: rest =>
    if isDigitIn base c then
      if isDigitIn base d then
        let found := readGrouped base (d :: rest)
        (c :: found.1, found.2)
      else ([c], '_' :: d :: rest)
    else ([], c :: '_' :: d :: rest)
  | c :: rest =>
    if isDigitIn base c then
      let found := readGrouped base rest
      (c :: found.1, found.2)
    else ([], c :: rest)
  | [] => ([], [])

/-- A whole number in a base other than ten, after the letter that announces the base. -/
def readBased (base : Nat) (text : Text) : Option (Value × Text) :=
  let found := readGrouped base text
  if found.1 = [] then none else some (.int (numberIn base found.1), found.2)

/-- The digits after a point, if there are any. -/
def readFraction : Text → Text × Text
  | '.' :: rest =>
    let found := readGrouped 10 rest
    if found.1 = [] then ([], '.' :: rest) else found
  | text => ([], text)

def readExponent (text : Text) : Option Int × Text :=
  match text with
  | c :: rest =>
    if c = 'e' ∨ c = 'E' then
      let (negative, unsigned) : Bool × Text :=
        match rest with
        | '-' :: after => (true, after)
        | '+' :: after => (false, after)
        | _ => (false, rest)
      let found := readGrouped 10 unsigned
      if found.1 = [] then (none, text)
      else
        let size : Int := numberIn 10 found.1
        (some (if negative then -size else size), found.2)
    else (none, text)
  | [] => (none, text)

def readDecimal (negative : Bool) (text : Text) : Except TomlFault (Value × Text) :=
  let (whole, rest) : Text × Text :=
    match text with
    | '0' :: rest => (['0'], rest)
    | _ => readGrouped 10 text
  if whole = [] then .error .malformed
  else
    let (fraction, rest) := readFraction rest
    let (exponent, rest) := readExponent rest
    if fraction = [] ∧ exponent.isNone then
      if whole.length > wholeNumberDigitLimit then .error (.longNumber whole.length)
      else
        let size : Int := numberIn 10 whole
        .ok (.int (if negative then -size else size), rest)
    else
      .ok (.float (.ofDecimal negative (numberIn 10 (whole ++ fraction))
        (exponent.getD 0 - fraction.length)), rest)

/-- A word for a number that is not finite, after its sign. -/
def readWordNumber (negative : Bool) : Text → Option (Value × Text)
  | 'i' :: 'n' :: 'f' :: rest => some (.float (.infinite negative), rest)
  | 'n' :: 'a' :: 'n' :: rest => some (.float .nan, rest)
  | _ => none

def readNumber (text : Text) : Except TomlFault (Value × Text) :=
  let signed (negative : Bool) (rest : Text) : Except TomlFault (Value × Text) :=
    match readWordNumber negative rest with
    | some found => .ok found
    | none => readDecimal negative rest
  let based? : Option (Value × Text) :=
    match text with
    | '0' :: 'x' :: rest => readBased 16 rest
    | '0' :: 'o' :: rest => readBased 8 rest
    | '0' :: 'b' :: rest => readBased 2 rest
    | _ => none
  match based? with
  | some found => .ok found
  | none =>
    match text with
    | '-' :: rest => signed true rest
    | '+' :: rest => signed false rest
    | _ => signed false text

/-- Changes the table that a key names inside a table, and makes the tables on the way that are
not there yet.  On the way a list stands for its last item if that is allowed. -/
def changeTable (throughLists : Bool) (change : Record → Option Record) :
    Key → Record → Option Record
  | [], table => change table
  | part :: others, table =>
    match (table.get? part).getD (.record []) with
    | .record inner =>
      (changeTable throughLists change others inner).map fun changed =>
        table.put part (.record changed)
    | .list items =>
      match throughLists, items.getLast? with
      | true, some (.record inner) =>
        (changeTable throughLists change others inner).map fun changed =>
          table.put part (.list (items.dropLast ++ [.record changed]))
      | _, _ => none
    | _ => none

def putNew (key : Text) (value : Value) (table : Record) : Option Record :=
  if table.has key then none else some (table.put key value)

/-- Whether a key begins with one of the keys in a list. -/
def beginsWithAny (keys : List Key) (key : Key) : Bool := keys.any (·.isPrefixOf key)

/-- Writes a key with points into an inline table, whose finished parts are given. -/
def putInline (finished : List Key) (key : Key) (value : Value) (table : Record) :
    Except TomlFault Record :=
  if beginsWithAny finished key then .error .malformed
  else orMalformed
    (changeTable false (putNew (key.getLastD []) value) key.dropLast table)

mutual

def readValue : (fuel : Nat) → (depth : Nat) → Text → Except TomlFault (Value × Text)
  | 0, _, _ => .error .malformed
  | fuel + 1, depth, text =>
    match text with
    | '"' :: _ => orMalformed ((readString text).map fun found => (.text found.1, found.2))
    | '\'' :: _ => orMalformed ((readString text).map fun found => (.text found.1, found.2))
    | 't' :: 'r' :: 'u' :: 'e' :: rest => .ok (.bool true, rest)
    | 'f' :: 'a' :: 'l' :: 's' :: 'e' :: rest => .ok (.bool false, rest)
    | '[' :: rest =>
      if depth < nestingLimit then do
        let rest ← orMalformed (skipFiller fuel rest)
        let (items, rest) ← readItems fuel (depth + listDepth) rest
        return (.list items, rest)
      else .error .tooDeep
    | '\x7b' :: rest =>
      if depth < nestingLimit then
        match skipBlanks rest with
        | '\x7d' :: rest => .ok (.record [], rest)
        | rest =>
          (readInline fuel (depth + tableDepth) [] [] rest).map fun found =>
            (.record found.1, found.2)
      else .error .tooDeep
    | _ =>
      match readMoment text with
      | some (some moment, rest) => .ok (moment, rest)
      | some (none, _) => .error .malformed
      | none => readNumber text

/-- The items of a list up to its closing bracket; a comma may follow the last one. -/
def readItems : (fuel : Nat) → (depth : Nat) → Text → Except TomlFault (List Value × Text)
  | 0, _, _ => .error .malformed
  | fuel + 1, depth, text =>
    match text with
    | ']' :: rest => .ok ([], rest)
    | _ => do
      let (item, rest) ← readValue fuel depth text
      let rest ← orMalformed (skipFiller fuel rest)
      match rest with
      | ']' :: rest => return ([item], rest)
      | ',' :: rest =>
        let rest ← orMalformed (skipFiller fuel rest)
        let (others, rest) ← readItems fuel depth rest
        return (item :: others, rest)
      | _ => .error .malformed

/-- The fields of an inline table up to its closing brace, added to the table so far. -/
def readInline : (fuel : Nat) → (depth : Nat) → List Key → Record → Text →
    Except TomlFault (Record × Text)
  | 0, _, _, _, _ => .error .malformed
  | fuel + 1, depth, finished, table, text => do
    let (key, rest) ← orMalformed (readKey fuel text)
    let rest ← orMalformed (expect '=' rest)
    let (value, rest) ← readValue fuel depth (skipBlanks rest)
    let table ← putInline finished key value table
    match skipBlanks rest with
    | '\x7d' :: rest => return (table, rest)
    | ',' :: rest =>
      readInline fuel depth (if value.isContainer then key :: finished else finished) table
        (skipBlanks rest)
    | _ => .error .malformed

end

end Toml

end FeatureRunner

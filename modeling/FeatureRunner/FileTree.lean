import FeatureRunner.Environment

/-!
# Files in memory

A tree of files, given as a table from the names on the way to each file.  A path is followed
name by name from the folder it starts in; a double point goes back up.  Everything may be read.
-/

namespace FeatureRunner

/-- The names on the way from the root to a place. -/
abbrev Place := List Text

/-- What a table says about a place. -/
inductive FileNode where
  | file (bytes : Bytes)
  | folder

/-- A tree of files, and the folder that paths without a root start in.  Folders on the way to
something in the table need not be in it. -/
structure FileTree where
  entries : List (Place × FileNode)
  start : Place

namespace FileTree

/-- The longest name and the longest path that are looked up, in bytes. -/
def nameLimit : Nat := 255

/-- The longest path that is looked up, in bytes. -/
def pathLimit : Nat := 4095

def byteCount (text : Text) : Nat := text.foldl (fun count c => count + c.utf8Size) 0

def node? (tree : FileTree) (place : Place) : Option FileNode :=
  match tree.entries.lookup place with
  | some node => some node
  | none =>
    if place.isPrefixOf tree.start || tree.entries.any fun entry => place.isPrefixOf entry.1 then
      some .folder
    else none

def follow (tree : FileTree) : Place → List Text → Except FileFlaw Place
  | place, [] => .ok place
  | place, name :: names =>
    match tree.node? place with
    | none => .error .missing
    | some (.file _) => .error .notFolder
    | some .folder =>
      if byteCount name > nameLimit then .error .nameTooLong
      else if name = ['.', '.'] then follow tree place.dropLast names
      else follow tree (place ++ [name]) names

def lookUp (tree : FileTree) (path : FilePath) : Except FileFlaw (Option Bytes) :=
  if '\x00' ∈ path.toText then .error .nullCharacter
  else if byteCount path.toText > pathLimit then .error .nameTooLong
  else
    match tree.follow (if path.root = [] then tree.start else []) path.names with
    | .error flaw => .error flaw
    | .ok place =>
      match tree.node? place with
      | none => .error .missing
      | some .folder => .error .isFolder
      | some (.file bytes) => .ok (some bytes)

/-- The tree without what is at a place.  The folder that it was in stays. -/
def remove (tree : FileTree) (place : Place) : FileTree :=
  { tree with
    entries := (tree.entries.filter fun entry => !place.isPrefixOf entry.1) ++
      [(place.dropLast, .folder)] }

/-- The tree with something at a place, in place of what was there.  A folder that is there already
keeps what is in it. -/
def write (tree : FileTree) (place : Place) (node : FileNode) : FileTree :=
  match node, tree.node? place with
  | .folder, some .folder => { tree with entries := tree.entries ++ [(place, .folder)] }
  | _, _ =>
    let emptied := tree.remove place
    { emptied with entries := (place, node) :: emptied.entries }

end FileTree

end FeatureRunner

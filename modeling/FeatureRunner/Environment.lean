import FeatureRunner.Text.Utf8

/-!
# Surroundings

What the program finds around itself: environment variables, the home folders of users, and
files.  A path is a list of names, from the root or from the folder the program runs in; empty
names and single points do not count, but double points are kept.  A first name that begins with
a tilde stands for a home folder.
-/

namespace FeatureRunner

/-- A path of a file.  The root is empty for paths from the folder the program runs in, and
otherwise one slash or two. -/
structure FilePath where
  root : Text
  names : List Text
deriving DecidableEq, Repr

namespace FilePath

/-- The slashes that make the root of a path: exactly two stay two, all other counts are one. -/
def rootOf (text : Text) : Text :=
  match (text.takeWhile (· = '/')).length with
  | 0 => []
  | 2 => ['/', '/']
  | _ => ['/']

def ofText (text : Text) : FilePath :=
  ⟨rootOf text, (Text.splitAt '/' text).filter fun name => name ≠ [] ∧ name ≠ ['.']⟩

/-- The text of a path; the path without names is a single point. -/
def toText (path : FilePath) : Text :=
  let joined := path.root ++ Text.join ['/'] path.names
  if joined = [] then ['.'] else joined

def append (path : FilePath) (names : List Text) : FilePath :=
  { path with names := path.names ++ names }

end FilePath

/-- Why a file is not read. -/
inductive FileFlaw where
  | missing
  | notFolder
  | isFolder
  | nameTooLong
  | nullCharacter
  | denied
deriving DecidableEq, Repr

/-- A file that is not read. -/
structure FileFault where
  path : FilePath
  flaw : FileFlaw
deriving DecidableEq, Repr

namespace FileFault

/-- The number and the words by which a message names a flaw, if it has a number. -/
def numbered? : FileFlaw → Option (Nat × Text)
  | .missing => some (2, "No such file or directory".toList)
  | .notFolder => some (20, "Not a directory".toList)
  | .isFolder => some (21, "Is a directory".toList)
  | .nameTooLong => some (36, "File name too long".toList)
  | .denied => some (13, "Permission denied".toList)
  | .nullCharacter => none

def message (fault : FileFault) : Text :=
  match numbered? fault.flaw with
  | some (number, words) =>
    "[Errno ".toList ++ Text.ofNat number ++ "] ".toList ++ words ++ ": ".toList ++
      fault.path.toText.quoted
  | none => "embedded null byte".toList

end FileFault

/-- What the program finds around itself.  The home folder under the empty name is that of the
user who runs the program, which counts if no variable tells another one.  A file that is there and
may not be read is found without bytes; it is denied if not even the way to it may be gone. -/
structure Environment where
  bindings : List (Text × Text)
  homes : List (Text × Text)
  lookUp : FilePath → Except FileFlaw (Option Bytes)

/-- Why a home folder cannot be told: nobody knows it, or the name of its user is none. -/
inductive HomeFault where
  | unknown
  | nullCharacter
deriving DecidableEq, Repr

/-- The message about a home folder that cannot be told. -/
def HomeFault.message : HomeFault → Text
  | unknown => "Could not determine home directory.".toList
  | nullCharacter => "embedded null byte".toList

namespace Environment

def value? (environment : Environment) (name : String) : Option Text :=
  environment.bindings.lookup name.toList

/-- The value of a variable, if it is not empty. -/
def filledValue? (environment : Environment) (name : String) : Option Text :=
  (environment.value? name).filter (· ≠ [])

/-- The home folder that a tilde with the name of a user after it stands for, as a text. -/
def home? (environment : Environment) (user : Text) : Option Text :=
  let folder? :=
    if user = [] then (environment.value? "HOME").or (environment.homes.lookup [])
    else environment.homes.lookup user
  folder?.map fun folder =>
    match (folder.reverse.dropWhile (· = '/')).reverse with
    | [] => ['/']
    | trimmed => trimmed

/-- The path with its home folder in place of a tilde. -/
def expandHome (environment : Environment) (path : FilePath) : Except HomeFault FilePath :=
  match path.root, path.names with
  | [], ('~' :: user) :: names =>
    if '\x00' ∈ user then .error .nullCharacter
    else
      match environment.home? user with
      | none => .error .unknown
      | some folder =>
        if folder.head? = some '~' then .error .unknown
        else .ok ((FilePath.ofText folder).append names)
  | _, _ => .ok path

/-- The path that a text writes, with its home folder in place of a tilde. -/
def path (environment : Environment) (text : Text) : Except HomeFault FilePath :=
  environment.expandHome (FilePath.ofText text)

def read (environment : Environment) (path : FilePath) : Except FileFault Bytes :=
  match environment.lookUp path with
  | .error flaw => .error ⟨path, flaw⟩
  | .ok none => .error ⟨path, .denied⟩
  | .ok (some bytes) => .ok bytes

end Environment

end FeatureRunner

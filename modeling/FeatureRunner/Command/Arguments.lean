import FeatureRunner.Text.Basic

/-!
# Command lines

A command line is a list of arguments: options, which begin with a dash, and all others.  Some
options are followed by a value, which may also be attached after an equals sign.  After two
dashes there are no further options.

The options of the program come first; the first argument that is no option names the command,
and what follows belongs to the command.  Options and other arguments of a command may be mixed.
-/

namespace FeatureRunner

/-- The options that a part of a command line may hold: those that stand alone, and those that
have a value. -/
structure OptionNames where
  alone : List Text
  valued : List Text

/-- The arguments of a part of a command line.  Options that stand alone have the empty value. -/
structure Arguments where
  options : List (Text × Text)
  others : List Text
deriving DecidableEq, Repr

namespace Arguments

def endOfOptions : Text := ['-', '-']

def isOption : Text → Bool
  | '-' :: _ :: _ => true
  | _ => false

/-- The name of an option, and the value attached to it. -/
def splitOption (argument : Text) : Text × Option Text :=
  match argument.dropWhile (· ≠ '=') with
  | [] => (argument, none)
  | _ :: value => (argument.takeWhile (· ≠ '='), some value)

/-- The arguments with one more option in front. -/
def withOption (arguments : Arguments) (name value : Text) : Arguments :=
  { arguments with options := (name, value) :: arguments.options }

/-- The arguments with one more other argument in front. -/
def withOther (arguments : Arguments) (argument : Text) : Arguments :=
  { arguments with others := argument :: arguments.others }

/-- Reads arguments, if every option is known and used as it must be.  If options may not be mixed
with other arguments, reading ends at the first other argument. -/
def read? (names : OptionNames) (mixed : Bool) : List Text → Option Arguments
  | [] => some ⟨[], []⟩
  | argument :: rest =>
    if argument = endOfOptions then some ⟨[], rest⟩
    else if isOption argument then
      match splitOption argument with
      | (name, some value) =>
        if name ∈ names.valued then (read? names mixed rest).map (·.withOption name value)
        else none
      | (name, none) =>
        if name ∈ names.valued then
          match rest with
          | [] => none
          | value :: rest => (read? names mixed rest).map (·.withOption name value)
        else if name ∈ names.alone then
          (read? names mixed rest).map (·.withOption name [])
        else none
    else if mixed then (read? names mixed rest).map (·.withOther argument)
    else some ⟨[], argument :: rest⟩

def values (arguments : Arguments) (name : String) : List Text :=
  (arguments.options.filter fun option => option.1 = name.toList).map Prod.snd

/-- The value of an option, which is the last one given. -/
def value? (arguments : Arguments) (name : String) : Option Text :=
  (arguments.values name).getLast?

def has (arguments : Arguments) (name : String) : Bool := (arguments.values name) ≠ []

/-- The last of two opposite options that is given. -/
def switch? (arguments : Arguments) (on off : String) : Option Bool :=
  ((arguments.options.map Prod.fst).filter fun name =>
    name = on.toList ∨ name = off.toList).getLast?.map fun name => name = on.toList

end Arguments

/-- What comes of reading a part of a command line. -/
inductive Reading (α : Type) where
  | misused
  | help
  | command (command : α)

/-- The commands of the program. -/
inductive CommandName where
  | version
  | run
deriving DecidableEq, Repr

/-- The program's own part of a command line: the level of notices to show, the command, and the
arguments of the command. -/
structure Invocation where
  logLevel : Option Text
  command : CommandName
  rest : List Text
deriving DecidableEq, Repr

/-- The arguments of the run command. -/
structure RunOptions where
  feature : Text
  libraries : List Text
  tags : Option Text
  extraFields : Option Bool
deriving DecidableEq, Repr

def helpOption : String := "--help"

/-- Turns arguments into a command, unless they ask for help or cannot be read. -/
def Reading.ofArguments {α : Type} (arguments? : Option Arguments)
    (command? : Arguments → Option α) : Reading α :=
  match arguments? with
  | none => .misused
  | some arguments =>
    if arguments.has helpOption then .help
    else
      match command? arguments with
      | some found => .command found
      | none => .misused

namespace CommandName

def ofName? (name : Text) : Option CommandName :=
  if name = "version".toList then some version
  else if name = "run".toList then some run
  else none

end CommandName

/-- Reads the program's own part of a command line. -/
def Invocation.read (arguments : List Text) : Reading Invocation :=
  .ofArguments
    (Arguments.read? ⟨[helpOption.toList], ["--log-level".toList]⟩ false arguments)
    fun found =>
      match found.others with
      | [] => none
      | name :: rest =>
        (CommandName.ofName? name).map fun command =>
          ⟨found.value? "--log-level", command, rest⟩

/-- Reads the arguments of the version command: whether it answers with an envelope. -/
def readVersion (arguments : List Text) : Reading Bool :=
  .ofArguments (Arguments.read? ⟨[helpOption.toList, "--json".toList], []⟩ true arguments)
    fun found => if found.others = [] then some (found.has "--json") else none

def RunOptions.read (arguments : List Text) : Reading RunOptions :=
  .ofArguments
    (Arguments.read?
      ⟨[helpOption.toList, "--extra-fields".toList, "--no-extra-fields".toList],
        ["--steps".toList, "--tags".toList]⟩ true arguments)
    fun found =>
      match found.others, found.values "--steps" with
      | [feature], library :: libraries =>
        some ⟨feature, library :: libraries, found.value? "--tags",
          found.switch? "--extra-fields" "--no-extra-fields"⟩
      | _, _ => none

end FeatureRunner

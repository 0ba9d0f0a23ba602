import DocWeave.Config
import DocWeave.FileTree.Access

/-! # Configuration files

A configuration is loaded from a file of the tree by executing the file. What an execution does is
given from outside, as an end and a tree that it leaves; here it is only decided whether the file is
there, whether it is of a kind that can be executed, and whether what comes of it is a configuration.
-/

namespace DocWeave

/-- What comes of executing a configuration file. -/
inductive Execution where
  | defines (config : Config)
  /-- The execution fails, and says why. -/
  | fails (message : Text)
  /-- Nothing is defined, or something that is no configuration. -/
  | definesNone
  /-- The file ends the whole command itself, with a status and what it says about it. -/
  | quits (status : Nat) (errors : Text)
  /-- A failure outside the execution proper: the file cannot be made ready for it, or what comes of
  it cannot be looked at. -/
  | unforeseen (failure : Failure)

/-- Executes the file at a location. The tree may be left in any way: a compiled form is kept beside
the file, and the file may change whatever it likes in it. What a file does to the running program,
such as changing its settings, is left out. -/
abbrev Executor := FileTree → Location → Execution × FileTree

/-- Why there is no configuration. -/
inductive LoadFailure where
  | notFound (path : Path)
  | notExecutable (path : Path)
  | fails (message : Text)
  | definesNone (path : Path)
  /-- The file ends the whole command. -/
  | quits (status : Nat) (errors : Text)
  /-- A failure that loading does not foresee, of the file system or around the execution. -/
  | unforeseen (failure : Failure)
  deriving DecidableEq

/-- The wording of a failure to load. -/
def LoadFailure.message : LoadFailure → Text
  | notFound path => "Config file not found at: " ++ path.toText
  | notExecutable path => "Failed to load config: " ++ path.toText ++ " is not a Python module"
  | fails message => "Failed to load config: " ++ message
  | definesNone path =>
    "Failed to load config: " ++ path.name ++ " must define 'config' as a FactoryConfig"
  | quits _ errors => errors
  | unforeseen failure => failure.message

/-- The configuration that an execution of the file at a path comes to. -/
def Execution.config (path : Path) : Execution → Except LoadFailure Config
  | defines config => .ok config
  | fails message => .error (.fails message)
  | definesNone => .error (.definesNone path)
  | quits status errors => .error (.quits status errors)
  | unforeseen failure => .error (.unforeseen failure)

namespace ConfigFile

/-- What the names of files that can be executed end with: source text, its compiled form, and
extensions in machine code. -/
def executableSuffixes : List Text := [".py", ".pyc", ".so"]

/-- Whether a file of this name can be executed. -/
def isExecutable (name : Text) : Bool :=
  executableSuffixes.any fun suffix => suffix.isSuffixOf name

/-- The configuration in the file that a collapsed path leads to, and the tree that is left. -/
def load (tree : FileTree) (execute : Executor) (path : Path) :
    Except LoadFailure Config × FileTree :=
  match tree.status path with
  | .error failure => (.error (.unforeseen failure), tree)
  | .ok (some (.file _)) =>
    if isExecutable path.name then
      let (execution, left) := execute tree path.names
      (execution.config path, left)
    else (.error (.notExecutable path), tree)
  | .ok _ => (.error (.notFound path), tree)

end ConfigFile

end DocWeave

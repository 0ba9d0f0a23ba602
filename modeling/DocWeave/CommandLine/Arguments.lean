import DocWeave.Settings.Basic
import DocWeave.Text.Digit

/-! # Arguments of the command line

A command line holds options and two values, the input directory and the output directory, in any
mixture. A long option may be cut short as long as it stays unmistakable, and may have its value
after an equal sign; short options without values may be run together, and an equal sign after the
first of them changes nothing. After a double hyphen all arguments are values.
-/

namespace DocWeave.CommandLine

/-- The options. -/
inductive Flag where
  | help
  | configFile
  | verbosity
  | version
  | saveInputMeta
  | saveOutputMeta
  deriving DecidableEq, Repr

/-- The names of the options. -/
def flagNames : List (Text × Flag) :=
  [("-h", .help), ("--help", .help), ("--configFile", .configFile), ("-v", .verbosity),
    ("--verbosity", .verbosity), ("-V", .version), ("--version", .version),
    ("--saveinputmeta", .saveInputMeta), ("--saveoutputmeta", .saveOutputMeta)]

/-- Whether an option has a value. -/
def Flag.hasValue : Flag → Bool
  | configFile => true
  | _ => false

/-- What is written together with the name of an option. -/
inductive Attached where
  | nothing
  /-- A value after an equal sign. -/
  | value (text : Text)
  /-- Whatever follows a short name. -/
  | tail (text : Text)
  deriving DecidableEq, Repr

/-- What an argument may stand for as an option; an option that there is none of has no flag. -/
structure Candidate where
  flag : Option Flag
  isShort : Bool
  attached : Attached
  deriving DecidableEq, Repr

/-- An argument by its role. -/
inductive Argument where
  | value (text : Text)
  | separator
  | option (candidates : List Candidate)
  deriving DecidableEq, Repr

/-- Whether the name of an option is short. -/
def isShortName (name : Text) : Bool := !("--" : Text).isPrefixOf name

/-- The name before an equal sign, and what is attached after it. -/
def splitAssigned (arg : Text) : Text × Attached :=
  let name := arg.takeWhile (· != '=')
  match arg.drop name.length with
  | _ :: value => (name, .value value)
  | [] => (name, .nothing)

/-- The options whose names an argument cuts short or continues. -/
def abbreviations (arg : Text) : List Candidate :=
  flagNames.filterMap fun (name, flag) =>
    if isShortName arg then
      if name = arg.take 2 then some ⟨some flag, true, .tail (arg.drop 2)⟩ else none
    else
      let (start, attached) := splitAssigned arg
      if start.isPrefixOf name then some ⟨some flag, isShortName name, attached⟩ else none

/-- Whether a text is digits and nothing else. -/
def isDigits (text : Text) : Bool := !text.isEmpty && text.all fun c => (Text.digit? c).isSome

/-- The text without a line feed at its end. -/
def dropLineFeed (text : Text) : Text :=
  if text.getLast? = some '\n' then text.dropLast else text

/-- Whether an argument is a negative number, which is a value. A line feed may end it. -/
def isNegativeNumber (arg : Text) : Bool :=
  match dropLineFeed arg with
  | '-' :: number =>
    match number.splitOn '.' with
    | [whole] => isDigits whole
    | [whole, fraction] => (whole.isEmpty || isDigits whole) && isDigits fraction
    | _ => false
  | _ => false

/-- What an argument before any double hyphen stands for as an option, if it is one. -/
def candidates? (arg : Text) : Option (List Candidate) :=
  if arg.head? != some '-' then none
  else match flagNames.lookup arg with
    | some flag => some [⟨some flag, isShortName arg, .nothing⟩]
    | none =>
      if arg.length = 1 then none
      else
        let (name, attached) := splitAssigned arg
        match flagNames.lookup name with
        | some flag => some [⟨some flag, isShortName name, attached⟩]
        | none =>
          match abbreviations arg with
          | [] =>
            if isNegativeNumber arg || arg.contains ' ' then none
            else some [⟨none, isShortName arg, .nothing⟩]
          | found => some found

/-- The arguments by their roles. -/
def classify : List Text → List Argument
  | [] => []
  | arg :: rest =>
    if arg = "--".toList then .separator :: rest.map .value
    else match candidates? arg with
      | none => .value arg :: classify rest
      | some candidates => .option candidates :: classify rest

/-- Whether an argument may stand for more than one option. -/
def Argument.isAmbiguous : Argument → Bool
  | option (_ :: _ :: _) => true
  | _ => false

/-- What has been read of a command line. -/
structure Reading where
  /-- The values; a double hyphen that is nothing but a second separator is none. -/
  values : List (Option Text)
  configFile : Text
  verbosity : Nat
  /-- Whether something was left over. -/
  hasExtra : Bool

/-- How many values a command line has. -/
def valueCount : Nat := 2

/-- What a command line asks for. -/
inductive Request where
  | run (inputDirectory outputDirectory configFile : Text) (verbosity : Nat)
  /-- A run with a directory that is no text. -/
  | nowhere
  | version
  | help
  deriving DecidableEq, Repr

/-- The options in a run of short ones, given what follows the name of the first. -/
def shortRun? (first : Flag) : Text → Option (List Flag)
  | [] => some [first]
  | c :: rest => do
    let next ← if first.hasValue then none else flagNames.lookup ['-', c]
    return first :: (← shortRun? next rest)

/-- The options that an argument stands for, of which the first has no value of its own. -/
def flags? (first : Flag) (isShort : Bool) : Attached → Option (List Flag)
  | .nothing => some [first]
  | .value text | .tail text => if isShort && !text.isEmpty then shortRun? first text else none

/-- The reading after options without values, unless one of them ends it. -/
def applyFlags (reading : Reading) : List Flag → Reading ⊕ Request
  | [] => .inl reading
  | .version :: _ => .inr .version
  | .help :: _ => .inr .help
  | .verbosity :: rest => applyFlags { reading with verbosity := reading.verbosity + 1 } rest
  | _ :: rest => applyFlags reading rest

/-- The request of a reading that has come to its end. -/
def finish (reading : Reading) : Option Request :=
  match reading.hasExtra, reading.values with
  | false, [some input, some output] =>
    some (.run input output reading.configFile reading.verbosity)
  | false, [_, _] => some .nowhere
  | _, _ => none

/-- Where a double hyphen can belong to a value. -/
inductive Beside where
  | nothing
  /-- A value has just been taken. -/
  | value
  /-- A double hyphen has just been passed that belongs to no value before it. -/
  | separator
  deriving DecidableEq, Repr

/-- Reads arguments, given what the next one stands beside. Every value may have one double hyphen
beside it, which is dropped; a value that is itself a double hyphen is dropped when it has none.
Nothing comes of a command line that breaks the rules. -/
def consume (reading : Reading) (beside : Beside) : List Argument → Option Request
  | [] => finish reading
  | .value text :: rest =>
    if reading.values.length < valueCount then
      let value := if text = "--".toList ∧ beside ≠ .separator then none else some text
      consume { reading with values := reading.values ++ [value] } .value rest
    else consume { reading with hasExtra := true } .nothing rest
  | .separator :: rest =>
    if beside = .value then consume reading .nothing rest
    else if reading.values.length < valueCount && !rest.isEmpty then consume reading .separator rest
    else consume { reading with hasExtra := true } .nothing rest
  | .option [⟨none, _, _⟩] :: rest => consume { reading with hasExtra := true } .nothing rest
  | .option [⟨some flag, isShort, attached⟩] :: rest =>
    if flag.hasValue then
      match attached, rest with
      | .nothing, .value text :: rest => consume { reading with configFile := text } .nothing rest
      | .nothing, _ => none
      | .value text, rest => consume { reading with configFile := text } .nothing rest
      | .tail text, rest => consume { reading with configFile := text } .nothing rest
    else
      match flags? flag isShort attached with
      | none => none
      | some flags =>
        match applyFlags reading flags with
        | .inr request => some request
        | .inl next => consume next .nothing rest
  | .option _ :: _ => none

/-- The request that the arguments of a command line make. No argument may be ambiguous, wherever it
stands. -/
def read (arguments : List Text) : Option Request :=
  let classified := classify arguments
  if classified.any Argument.isAmbiguous then none
  else consume ⟨[], Settings.default.configFile, 1, false⟩ .nothing classified

end DocWeave.CommandLine

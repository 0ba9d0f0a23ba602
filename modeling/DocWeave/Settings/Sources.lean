import DocWeave.Json.Fields
import DocWeave.Json.Read
import DocWeave.Settings.Basic
import DocWeave.Settings.Value
import DocWeave.Settings.VariableFile
import DocWeave.Text.Lower

/-! # Settings from variables

Settings come from the variables of the surroundings, then from a file of variables, then from the
defaults. A variable is called like its setting, after a common beginning and in any case. What
cannot be read is a fault; so is a variable in the file that sets nothing, while the surroundings
may hold any others.
-/

namespace DocWeave

/-- What is wrong with the value of a setting. -/
inductive SettingFault where
  | notBool
  | int (fault : SettingValue.IntFault)
  | notList
  | notText
  | brokenText
  /-- There is no such setting. -/
  | unknown
  deriving DecidableEq, Repr

/-- The label of a fault. -/
def SettingFault.label : SettingFault → Text
  | notBool => "bool_parsing"
  | int .notANumber => "int_parsing"
  | int .tooLong => "int_parsing_size"
  | notList => "list_type"
  | notText => "string_type"
  | brokenText => "string_unicode"
  | unknown => "extra_forbidden"

/-- Where variables come from. -/
inductive VariableSource where
  | surroundings
  | file
  deriving DecidableEq, Repr

/-- The name of a source in messages. -/
def VariableSource.name : VariableSource → Text
  | surroundings => "EnvSettingsSource"
  | file => "DotEnvSettingsSource"

/-- Why surroundings cannot hold a variable. -/
inductive VariableFault where
  | nullCharacter
  /-- The name holds the sign that ends it. -/
  | equalSign
  | noName
  deriving DecidableEq, Repr

/-- What keeps surroundings from holding a variable. -/
def VariableFault.of? (name : Text) (value : Option Text) : Option VariableFault :=
  if (name ++ value.getD []).contains '\x00' then some .nullCharacter
  else if name.contains '=' then some .equalSign
  else if name.isEmpty then some .noName
  else none

/-- The wording of the fault. -/
def VariableFault.message : VariableFault → Text
  | nullCharacter => "embedded null byte"
  | equalSign => "illegal environment variable name"
  | noName => "[Errno 22] Invalid argument"

/-- Why settings cannot be had. -/
inductive SettingsFailure where
  /-- There are no surroundings with such a variable. -/
  | surroundings (fault : VariableFault)
  /-- The value of a setting is no document of the kind that it has to be. -/
  | unreadable (setting : Text) (source : VariableSource)
  /-- The values of some settings are wrong. -/
  | invalid (faults : List (Text × SettingFault))
  deriving DecidableEq, Repr

namespace Settings

/-- What the names of all variables begin with. -/
def variablePrefix : Text := "content_factory_"

/-- The name of the setting that holds a list, which is written as a document. -/
def ignoreName : Text := "glob_ignore"

/-- The name of the setting that limits the depth of discovery. -/
def maxDepthName : Text := "glob_max_depth"

/-- The name of the setting that is a truth value. -/
def useLogsName : Text := "use_logs"

/-- The names of the settings. -/
def names : List Text :=
  ["filter_tag", "include_tag", "root_prefix", "missing_file_template", "config_file", ignoreName,
    maxDepthName, "encoding", useLogsName]

/-- Variables with their names in lower case. -/
def lowered (given : Variables) : Variables := given.map fun (n, v) => (n.lower, v)

/-- The value of a setting in variables whose names are in lower case. -/
def valueIn (given : Variables) (name : Text) : Option Text :=
  (given.find? (variablePrefix ++ name)).join

/-- The list of ignore patterns that variables give as a document; null counts as nothing. -/
def ignoreIn (source : VariableSource) (given : Variables) :
    Except SettingsFailure (Option Json) :=
  match valueIn given ignoreName with
  | none => .ok none
  | some text =>
    match Json.read? text with
    | none => .error (.unreadable ignoreName source)
    | some .null => .ok none
    | some value => .ok (some value)

/-- The value of a setting, or what is wrong with it where. -/
abbrev Checked (α : Type) := Except (List (Text × SettingFault)) α

/-- The faults of a value. -/
def faultsOf {α : Type} : Checked α → List (Text × SettingFault)
  | .ok _ => []
  | .error faults => faults

/-- What is wrong with an item of a list of patterns. -/
def itemFault? : Json → Option SettingFault
  | .text _ => none
  | .brokenText => some .brokenText
  | _ => some .notText

/-- The patterns that a document lists. -/
def checkIgnore : Option Json → Checked (List Text)
  | none => .ok default.ignore
  | some (.list items) =>
    let faults := items.zipIdx.filterMap fun (item, index) =>
      (itemFault? item).map fun fault => (ignoreName ++ "." ++ Text.ofNat index, fault)
    if faults.isEmpty then .ok (items.filterMap Json.text?) else .error faults
  | some _ => .error [(ignoreName, .notList)]

/-- The depth that a text spells. -/
def checkMaxDepth : Option Text → Checked Int
  | none => .ok default.maxDepth
  | some text => (SettingValue.int text).mapError fun fault => [(maxDepthName, .int fault)]

/-- The truth value that a text is a word for. -/
def checkUseLogs : Option Text → Checked Bool
  | none => .ok default.useLogs
  | some text =>
    match SettingValue.bool? text with
    | some value => .ok value
    | none => .error [(useLogsName, .notBool)]

/-- The names in a file that set nothing. A name without a value and the bare name of a setting are
let pass. -/
def unknownNames (file : Variables) : List Text :=
  (file.map Prod.fst).eraseDups.filter fun name =>
    ((file.find? name).join.getD []) != [] && !names.contains name &&
      !(names.map (variablePrefix ++ ·)).contains name

/-- The settings that the variables of the surroundings and the text of a file give. -/
def ofSources (surroundings : Variables) (file : Option Text) : Except SettingsFailure Settings := do
  if let some fault := surroundings.findSome? fun (name, value) => VariableFault.of? name value then
    throw (.surroundings fault)
  let inFile := lowered ((file.map (VariableFile.read surroundings)).getD [])
  let around := lowered surroundings
  let given (name : Text) : Option Text := (valueIn around name).or (valueIn inFile name)
  let textOf (name fallback : Text) : Text := (given name).getD fallback
  let ignoreAround ← ignoreIn .surroundings around
  let ignoreFile ← ignoreIn .file inFile
  let ignore := checkIgnore (ignoreAround.or ignoreFile)
  let maxDepth := checkMaxDepth (given maxDepthName)
  let useLogs := checkUseLogs (given useLogsName)
  match ignore, maxDepth, useLogs, unknownNames inFile with
  | .ok ignore, .ok maxDepth, .ok useLogs, [] =>
    return {
      filterTag := textOf "filter_tag" default.filterTag
      includeTag := textOf "include_tag" default.includeTag
      rootMark := textOf "root_prefix" default.rootMark
      missingTemplate := textOf "missing_file_template" default.missingTemplate
      configFile := textOf "config_file" default.configFile
      ignore, maxDepth
      encoding := textOf "encoding" default.encoding
      useLogs }
  | ignore, maxDepth, useLogs, unknown =>
    .error (.invalid (faultsOf ignore ++ faultsOf maxDepth ++ faultsOf useLogs ++
      unknown.map fun name => (name, .unknown)))

end Settings

/-- The wording of a failure that has one. -/
def SettingsFailure.message : SettingsFailure → Text
  | surroundings fault => fault.message
  | unreadable setting source =>
    "error parsing value for field \"" ++ setting ++ "\" from source \"" ++ source.name ++ "\""
  | invalid faults => Text.join "\n" (faults.map fun (name, fault) => name ++ ": " ++ fault.label)

end DocWeave

import DocWeave.FileTree.Basic
import DocWeave.Glob.CharSet
import DocWeave.Regex.Token
import DocWeave.Text.Codec
import DocWeave.Text.Numeral
import DocWeave.Text.Template

/-! # Failures

Everything that makes an operation give up, by cause. The wording of a failure is a function of
its cause, as it appears in diagnostics and on the error output.
-/

namespace DocWeave

/-- Why a value does not have the form that is asked of it. -/
inductive ShapeFault where
  /-- An object lacks a field. -/
  | missingField (name : Text)
  /-- A value of this type has no such attribute. -/
  | noAttribute (type name : Text)
  /-- A value of this type has no items to go through. -/
  | notIterable (type : Text)
  /-- A value of this type has no parts to pick from. -/
  | notSubscriptable (type : Text)
  /-- A list is asked for a field. -/
  | listIndex
  /-- A text is asked for a field. -/
  | textIndex
  /-- A value of this type is no path. -/
  | notPath (type : Text)
  /-- The item at this position of what is joined has this type and is no text. -/
  | notText (position : Nat) (type : Text)
  deriving DecidableEq, Repr

namespace ShapeFault

/-- The wording of the fault. -/
def message : ShapeFault → Text
  | missingField name => name.quoted
  | noAttribute type name => type.quoted ++ " object has no attribute " ++ name.quoted
  | notIterable type => type.quoted ++ " object is not iterable"
  | notSubscriptable type => type.quoted ++ " object is not subscriptable"
  | listIndex => "list indices must be integers or slices, not str"
  | textIndex => "string indices must be integers, not 'str'"
  | notPath type => "expected str, bytes or os.PathLike object, not " ++ type
  | notText position type =>
    "sequence item " ++ Text.ofNat position ++ ": expected str instance, " ++ type ++ " found"

end ShapeFault

/-- A document that is reached while it is being expanded: its path, and the paths in expansion,
outermost first. -/
structure Cycle where
  path : Path
  chain : List Path
  deriving DecidableEq

/-- The wording of a cycle shows the whole way around. -/
def Cycle.message (cycle : Cycle) : Text :=
  "Circular dependency detected: " ++ cycle.path.toText ++ " is already being processed.\n" ++
  "Include chain: " ++ Text.join " -> " ((cycle.chain ++ [cycle.path]).map Path.toText)

/-- Why an operation gives up. -/
inductive Failure where
  | file (fault : FileFault)
  | decode (fault : DecodeFault)
  | encode (fault : EncodeFault)
  | cycle (cycle : Cycle)
  | pattern (fault : PatternFault)
  | expression (fault : Regex.Fault)
  /-- The text of a group is asked for, and the expression has no groups. -/
  | noGroup
  | template (fault : TemplateFault)
  | numeral (fault : NumeralFault)
  | shape (fault : ShapeFault)
  /-- A path that is used holds the null character. -/
  | nullCharacter
  /-- The settings name an encoding that there is none of. -/
  | unknownEncoding (name : Text)
  /-- A callback or a reader gives up for a reason of its own. -/
  | raised (message : Text)
  /-- Reads requested from within reads go too deep. -/
  | nestedTooDeep
  deriving DecidableEq

namespace Failure

/-- The wording of a failure. -/
def message : Failure → Text
  | file fault => fault.message
  | decode fault => fault.message
  | encode fault => fault.message
  | cycle c => c.message
  | pattern fault => fault.message
  | expression fault => fault.message
  | noGroup => "no such group"
  | template fault => fault.message
  | numeral fault => fault.message
  | shape fault => fault.message
  | nullCharacter => "embedded null byte"
  | unknownEncoding name => "unknown encoding: " ++ name
  | raised message => message
  | nestedTooDeep => "maximum recursion depth exceeded"

/-- Whether a failure to read leaves a marker in place of the document and no more: the file
system refuses, or the bytes are no text. -/
def isUnreadable : Failure → Bool
  | file _ => true
  | decode _ => true
  | _ => false

end Failure

end DocWeave

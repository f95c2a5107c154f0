import BuildDrift.Code.Operation
import BuildDrift.Json.Fault

/-!
# Errors

Everything that can be refused has its cause here, and one wording per cause.

## Main definitions

* `Malformation`: how a body breaks the rules of bodies.
* `Unusable`: why an argument cannot be used.
* `LabelFault`: why the labels of a body cannot be resolved.
* `Error`: all errors; `Error.message` is the wording.
-/

namespace BuildDrift

/-- How a method body breaks the rules of bodies. -/
inductive Malformation where
  /-- An operation does not start behind the start of the one before. -/
  | offsetsNotIncreasing (first second : Offset)
  /-- A protected block ends before it starts. -/
  | tryInverted (start stop : Offset)
  /-- A handler ends before it starts. -/
  | handlerInverted (start stop : Offset)
  /-- A part of the body of the named method is malformed. -/
  | part (method : String) (cause : Malformation)
  /-- The last operation of the named method ends behind the greatest offset. -/
  | endsBeyondRange (method : String) (last : Operation)
  /-- A local of the named method declares another slot than its position. -/
  | slotMisnumbered (method name : String) (slot : UInt16) (position : Nat)
  deriving DecidableEq, Repr, Inhabited

namespace Malformation

/-- Two offsets as the bounds of a range. -/
def rangeText (start stop : Offset) : String :=
  start.label ++ ".." ++ stop.label

/-- The wording of a malformation. The full text of the error has the file and the line at which the
program detects the malformation behind `Malformed - `. They are left out here, also where one
wording is part of another, of a reason or of a log line. The list of the methods that cannot be
compared has no reason texts: it keeps the causes (`Incomparable.cause`), and the reason is the
wording of the cause. -/
def message : Malformation → String
  | offsetsNotIncreasing a b =>
    "Malformed - Operation offsets are not strictly increasing - " ++ a.label ++ " followed by " ++
      b.label
  | tryInverted a b => "Malformed - Try block ends before it starts - " ++ rangeText a b
  | handlerInverted a b => "Malformed - Handler ends before it starts - " ++ rangeText a b
  | part method cause => "Malformed - " ++ method ++ " - " ++ cause.message
  | endsBeyondRange method last =>
    "Malformed - " ++ method ++ " - " ++ last.listing ++ " ends beyond the offset range"
  | slotMisnumbered method name slot position =>
    "Malformed - " ++ method ++ " - local '" ++ name ++ "' declares slot " ++
      toString slot.toNat ++ " at position " ++ toString position

end Malformation

/-- Why an argument cannot be used. -/
inductive Unusable where
  /-- Temporaries would have no name. -/
  | emptyTemporaryPrefix
  /-- Constructions would be recorded without a signature. -/
  | emptyConstructorSignature
  /-- The recording type has no name. -/
  | emptyApiName
  /-- An entry point of the recording type lacks the name of its type or its own. -/
  | emptySymbol (signature : String)
  /-- A pattern of the named kind is empty. -/
  | emptyPattern (kind : String)
  deriving DecidableEq, Repr, Inhabited

/-- The wording of an unusable argument. -/
def Unusable.message : Unusable → String
  | emptyTemporaryPrefix => "temporary local prefix is empty"
  | emptyConstructorSignature => "constructor signature is empty"
  | emptyApiName => "recording API type name is empty"
  | emptySymbol signature =>
    "recording API entry point '" ++ signature ++ "' has an empty symbol"
  | emptyPattern kind => "empty " ++ kind ++ " forbid expression"

/-- What is wrong with the labels of a body. -/
inductive LabelFault (Label : Type) where
  /-- A branch goes to a label that is nowhere defined. -/
  | undefined (label : Label)
  /-- A label is defined twice. -/
  | duplicate (label : Label)
  deriving DecidableEq, Repr, Inhabited

/-- The wording of a fault of labels. -/
def LabelFault.message : LabelFault String → String
  | undefined label => "Undefined label '" ++ label ++ "'"
  | duplicate label => "Duplicate label '" ++ label ++ "'"

/-- Why a file cannot be read as text. -/
inductive FileFault where
  /-- There is no such file. -/
  | notFound
  /-- The bytes are no text. -/
  | notText
  deriving DecidableEq, Repr, Inhabited

/-- Everything that can be refused. -/
inductive Error where
  /-- A body breaks the rules of bodies. -/
  | malformed (cause : Malformation)
  /-- An argument cannot be used. -/
  | invalidArgument (cause : Unusable)
  /-- A pattern has a kind that does not exist. -/
  | unknownPatternKind (kind : String)
  /-- A pattern text is no pattern. -/
  | invalidPattern (pattern : String)
  /-- The labels of a body do not fit together. -/
  | label (cause : LabelFault String)
  /-- A file cannot be read. -/
  | file (cause : FileFault)
  /-- A document cannot be read. -/
  | json (cause : Json.Fault)
  deriving DecidableEq, Repr, Inhabited

namespace Error

/-- The wording of an error; documents and files are worded by whoever shows them. -/
def message : Error → String
  | malformed cause => cause.message
  | invalidArgument cause => "Invalid argument - " ++ cause.message
  | unknownPatternKind kind =>
    "Unknown pattern kind '" ++ kind ++ "' (expected Regex, ExactString or Wildcard)"
  | invalidPattern pattern => "Invalid pattern '" ++ pattern ++ "'"
  | label cause => cause.message
  | file .notFound => "file not found"
  | file .notText => "file is not text"
  | json .grammar => "malformed document"
  | json .cutShort => "document is cut short"
  | json (.mismatch message) => message

end Error

end BuildDrift

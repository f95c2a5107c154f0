import BuildDrift.Selection.IgnoreRules
import BuildDrift.Instrumentation.Config
import BuildDrift.Model.Unit
import BuildDrift.Trace.Log

/-!
# Documents in files

Units, settings, ignore rules and trace logs are kept in files. A file is what is found
at its place: some bytes, which have to be text, or nothing.

## Main definitions

* `FileContent.text`: the text of a file.
* `CompiledUnit.fromFile` and its likes: the document of a file.
* `FileContent.ofText`: the file with a text.
-/

namespace BuildDrift

/-- The bytes of a file, or nothing if there is no file. -/
abbrev FileContent := Option ByteArray

namespace FileContent

/-- The text of a file. -/
def text : FileContent → Except Error String
  | none => .error (.file .notFound)
  | some bytes =>
    match String.fromUTF8? bytes with
    | some s => .ok s
    | none => .error (.file .notText)

/-- The file with a text. -/
def ofText (s : String) : FileContent :=
  some s.toUTF8

end FileContent

/-- The unit of a file. -/
def CompiledUnit.fromFile (file : FileContent) : Except Error CompiledUnit :=
  (FileContent.text file).bind fun s => (CompiledUnit.fromJson s).mapError .json

/-- The settings of a file. -/
def InstrumentConfig.fromFile (file : FileContent) : Except Error InstrumentConfig :=
  (FileContent.text file).bind InstrumentConfig.fromJson

/-- The ignore rules of a file. -/
def IgnoreRules.fromFile (file : FileContent) : Except Error IgnoreRules :=
  (FileContent.text file).bind IgnoreRules.fromJson

/-- The log of a file. -/
def EventLog.fromFile (file : FileContent) : Except Error EventLog :=
  (FileContent.text file).bind fun s => (EventLog.fromJsonLines s).mapError .json

/-- The file of a log. -/
def EventLog.toFile (log : EventLog) : FileContent :=
  .ofText log.toJsonLines

end BuildDrift

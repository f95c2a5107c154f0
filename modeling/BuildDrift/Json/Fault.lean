/-!
# Faults of a document

Reading a document ends at the first fault in text order. A fault is one of three kinds: the text
is no document, the text ends inside a document, or the document does not have the form asked
for. Only the last kind has a wording of its own.
-/

namespace BuildDrift.Json

/-- Why a text is not the document asked for. -/
inductive Fault where
  /-- The text breaks the grammar of documents. -/
  | grammar
  /-- The text ends inside a document. -/
  | cutShort
  /-- The document has another form than the one asked for. -/
  | mismatch (message : String)
  deriving DecidableEq, Repr, Inhabited

end BuildDrift.Json

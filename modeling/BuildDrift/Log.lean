/-!
# Log records

Operations that skip or leave out something say so in log records. They return the records beside
their result, in the order in which they arise.
-/

namespace BuildDrift

/-- How much attention a log record asks for. -/
inductive Severity where
  /-- Of interest when following what is done. -/
  | debug
  /-- Something was left out that a caller may have expected. -/
  | warn
  deriving DecidableEq, Repr, Inhabited

/-- A log record. -/
structure LogRecord where
  /-- How much attention it asks for. -/
  severity : Severity
  /-- What it says. -/
  message : String
  deriving DecidableEq, Repr, Inhabited

namespace LogRecord

/-- A record of interest when following what is done. -/
def debug (message : String) : LogRecord := ⟨.debug, message⟩

/-- A record of something left out. -/
def warn (message : String) : LogRecord := ⟨.warn, message⟩

end LogRecord

end BuildDrift

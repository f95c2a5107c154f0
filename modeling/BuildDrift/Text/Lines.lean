/-!
# Lines

A line ends at a line feed; a carriage return in front of the line feed belongs to the end of the
line. What follows the last line feed is a line of its own, unless it is empty.

## Main definitions

* `Lines.split`: the lines of a text, without their ends.
-/

namespace BuildDrift.Lines

/-- A line without the carriage return at its end. -/
def dropReturn : List Char → List Char
  | [] => []
  | ['\r'] => []
  | c :: cs => c :: dropReturn cs

/-- The lines of a text, of whose first line the characters `seen` are known, last first. -/
def splitFrom (seen : List Char) : List Char → List (List Char)
  | [] => if seen.isEmpty then [] else [seen.reverse]
  | c :: cs =>
    if c = '\n' then dropReturn seen.reverse :: splitFrom [] cs else splitFrom (c :: seen) cs

/-- The lines of a text, without their ends. -/
def split (text : List Char) : List (List Char) :=
  splitFrom [] text

end BuildDrift.Lines

import BuildDrift.Unicode.CharProperty

/-!
# Blanks

Blank characters are those with the white space property. Flag names and log lines are taken
without the blanks around them.
-/

namespace BuildDrift.Blank

/-- Whether a character is blank. -/
def isBlank (c : Char) : Bool :=
  CharProperty.whiteSpace.contains c

/-- The characters without the blanks at both ends. -/
def trim (cs : List Char) : List Char :=
  ((cs.dropWhile isBlank).reverse.dropWhile isBlank).reverse

/-- Whether there are only blanks. -/
def isAllBlank (cs : List Char) : Bool :=
  cs.all isBlank

end BuildDrift.Blank
